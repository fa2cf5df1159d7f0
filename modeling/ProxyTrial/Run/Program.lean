import ProxyTrial.Run.Proxy
/-!
# Running a script

The origin comes up, then the proxy, then the clients send their requests in
order.  The run stops at the first client with an expectation that fails.  What
the origin has noted is reported after that.

## Main definitions

* `runClient`: a client's request and its first failing expectation
* `runClients`: the clients in order
* `bringUp`: the proxy, and the address that clients talk to
* `run`: a whole run
-/

namespace ProxyTrial

/-- Why a run has no result. -/
inductive RunError where
  | origin (error : StartError)
  | proxy (error : ProxyError)
  | client (method url : String) (error : ExchangeError)
  /-- The body of a response is no text. -/
  | text (fault : Http.TextFault)
  | check (error : CheckError)

/-- The wording of an error. -/
def RunError.message : RunError → String
  | origin error => error.message
  | proxy error => error.message
  | client method url error =>
    if error.kind = .breakdown then error.message
    else method ++ " " ++ url ++ " failed: " ++ error.message
  | text fault => fault.message
  | check error => error.message

/-- Whether an error is a finding of the run, and not a breakdown. -/
def RunError.isFinding : RunError → Bool
  | origin error => error.isFinding
  | proxy error => error.isFinding
  | client _ _ error => error.kind ≠ .breakdown
  | text _ => false
  | check error => error.isInapplicable

/-- A failed expectation. -/
structure RunFailure where
  /-- Who had the expectation. -/
  source : String
  message : String
  /-- The request and the response, if a client had it. -/
  context : String := ""
  deriving DecidableEq, Repr

/-- A failure in one line. -/
def RunFailure.shown (f : RunFailure) : String := f.source ++ ": " ++ f.message

/-- The result of a run. -/
structure RunResult where
  failures : List RunFailure
  /-- The run root of the proxy, if it has been kept. -/
  root : Option Path := none

/-- Whether nothing has failed. -/
def RunResult.passed (r : RunResult) : Bool := r.failures.isEmpty

namespace Run

/-- The first failing expectation among those that are held against a
response, or the first that does not apply. -/
def firstFailure (r : Response) : List Expectation → Except CheckError (Option Verdict)
  | [] => .ok none
  | e :: es => do
    let v ← e.check (.response r)
    if v.passed then firstFailure r es else return some v

/-- The failure of a client. -/
def clientFailure (c : Client) (r : Response) (v : Verdict) : RunFailure where
  source := "client " ++ Text.quoted c.name
  message := v.described
  context := c.call.shown ++ "\n\n" ++ r.shown

/-- The first failing expectation of a client about what it has received. -/
def judge (a : Agent) (c : Client) (received : Incoming) :
    Except RunError (Option RunFailure) := do
  let r ← (received.response a).mapError .text
  let v ← (firstFailure r c.expectations).mapError .check
  return v.map (clientFailure c r)

/-- Sends the request of a client; its first failing expectation, if any
fails. -/
def runClient (m : Machine) (a : Agent) (address : String) (c : Client) :
    Except RunError (Option RunFailure) × Machine :=
  match m.send a (Outgoing.ofCall a address c.call) with
  | (.error e, m) => (.error (.client c.call.method (Outgoing.urlOf address c.call.target) e), m)
  | (.ok received, m) => (judge a c received, m)

/-- Runs clients up to the first that fails. -/
def runClients (m : Machine) (a : Agent) (address : String) :
    List Client → Except RunError (Option RunFailure) × Machine
  | [] => (.ok none, m)
  | c :: cs =>
    match runClient m a address c with
    | (.ok none, m) => runClients m a address cs
    | r => r

/-- Brings up what clients are to talk to: its address, and the proxy, if one
has been started. -/
def bringUp (config : RunConfig) (m : Machine) : Except RunError String × Option Proxy × Machine :=
  match config.proxy with
  | some proxyConfig =>
    let proxy : Proxy :=
      { config := proxyConfig, originPort := m.origin.port, readyTimeout := config.readyTimeout
        free := m.proxyPort }
    match proxy.start m with
    | (.error e, proxy, m) => (.error (.proxy e), some proxy, m)
    | (.ok (), proxy, m) => (.ok proxy.address, some proxy, m)
  | none => (.ok (config.proxyAddress.getD m.origin.address), none, m)

/-- Runs clients against the target of a configuration; the proxy, if one has
been started, and what the clients bring. -/
def runTarget (s : Script) (config : RunConfig) (m : Machine) :
    Except RunError (Option RunFailure) × Option Proxy × Machine :=
  match bringUp config m with
  | (.error e, proxy, m) => (.error e, proxy, m)
  | (.ok address, proxy, m) =>
    let (r, m) := runClients m (m.waiting config.requestTimeout) address s.clients
    (r, proxy, m)

/-- Stops the proxy and the origin. -/
def tearDown (proxy : Option Proxy) (m : Machine) : Option Proxy × Machine :=
  let (proxy, m) := match proxy with
    | none => (none, m)
    | some p => let (p, m) := p.stop m; (some p, m)
  (proxy, { m with origin := m.origin.stop })

/-- Removes the run root after a run without failures. -/
def finish (proxy : Option Proxy) (failures : List RunFailure) (m : Machine) :
    RunResult × Machine :=
  match proxy with
  | none => ({ failures }, m)
  | some p =>
    let (p, m) := if failures.isEmpty then p.cleanup m else (p, m)
    ({ failures, root := p.root }, m)

/-- The origin of a run before it is started. -/
def originOf (s : Script) (config : RunConfig) : OriginServer :=
  ({ requested := config.originPort } : OriginServer).addAll s

/-- Runs a script. -/
def run (s : Script) (config : RunConfig) (m : Machine) : Except RunError RunResult × Machine :=
  let origin := originOf s config
  match origin.start m.busy m.originPort with
  | .error e => (.error (.origin e), { m with origin })
  | .ok origin =>
    let (result, proxy, m) := runTarget s config { m with origin }
    let (proxy, m) := tearDown proxy m
    match result with
    | .error e => (.error e, m)
    | .ok failure =>
      let noted := m.origin.failures.map fun message => { source := "origin", message }
      let (r, m) := finish proxy (failure.toList ++ noted) m
      (.ok r, m)

end Run

end ProxyTrial
