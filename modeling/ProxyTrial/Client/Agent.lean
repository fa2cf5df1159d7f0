import ProxyTrial.Http.ContentType
import ProxyTrial.Http.Cookies
/-!
# What sends requests

Requests are sent by an agent that reads the names of hosts and the bodies of
responses, keeps cookies, and opens sockets.  Each of these may break down in
ways of its own, of which only as much is settled here as anyone relies on.

## Main definitions

* `Sockets`: what can be connected to
* `Agent`: what sends requests
-/

namespace ProxyTrial

/-- The sockets of a machine, by what they break down about. -/
structure Sockets where
  /-- What is wrong with a host and a port, if they are none to connect to: a
  label that is empty or too long, or a number beyond those of the machine. -/
  address? : (host : String) → (port : Int) → Option String := fun _ _ => none
  /-- What is wrong with seconds to wait, if there are too many to be counted. -/
  wait? : (seconds : Float) → Option String := fun _ => none
  /-- The machine itself can be connected to. -/
  loopback : ∀ port : Int, 0 ≤ port → port ≤ 65535 → address? "127.0.0.1" port = none := by
    intros; rfl
  /-- A second can be counted. -/
  second : wait? (0.2 * 5.0) = none := by rfl

/-- What sends requests. -/
structure Agent where
  hosts : Http.HostReader := Http.readHostName
  texts : Http.TextReader := .standard
  cookies : Http.CookieStore := .standard
  sockets : Sockets := {}
  /-- The seconds to wait for an answer. -/
  timeout : Float := 10.0

/-- What is wrong with a connection before it is tried. -/
def Agent.socketFault? (a : Agent) (host : String) (port : Int) : Option String :=
  (a.sockets.address? host port).or (a.sockets.wait? a.timeout)

end ProxyTrial
