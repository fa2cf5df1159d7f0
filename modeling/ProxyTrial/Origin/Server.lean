import ProxyTrial.Origin.Conversation
/-!
# The origin as a server

The origin listens on the port that was asked for, or on one that the machine
has free if that port is zero.  It keeps its handlers and the failures it has
noted, whether or not it listens.
-/

namespace ProxyTrial

/-- A port that can be given to who asks for any. -/
structure FreePort where
  number : Int
  isPort : 1 ≤ number ∧ number ≤ 65535 := by decide
  deriving DecidableEq, Repr

/-- The origin. -/
structure OriginServer where
  /-- The port that was asked for. -/
  requested : Int := 0
  handlers : Origin.Table := []
  failures : List String := []
  /-- The port on which the origin listens. -/
  bound : Option Int := none

/-- The origin could not be started. -/
inductive StartError where
  /-- The port is taken. -/
  | portInUse (requested : Int)
  /-- There is no such port. -/
  | noSuchPort
  deriving DecidableEq, Repr

/-- The wording of an error. -/
def StartError.message : StartError → String
  | portInUse requested =>
    s!"Cannot start origin on 127.0.0.1:{requested}: [Errno 98] Address already in use"
  | noSuchPort => "bind(): port must be 0-65535."

/-- Whether an error is a finding about the machine, and not a breakdown. -/
def StartError.isFinding : StartError → Bool
  | portInUse _ => true
  | noSuchPort => false

namespace OriginServer

/-- The port on which the origin listens, or would listen. -/
def port (o : OriginServer) : Int := o.bound.getD o.requested

/-- The address of the origin. -/
def address (o : OriginServer) : String := s!"127.0.0.1:{o.port}"

/-- Adds a handler. -/
def add (o : OriginServer) (h : Handler) : OriginServer :=
  { o with handlers := o.handlers.insert h }

/-- Adds the handlers of a script. -/
def addAll (o : OriginServer) (s : Script) : OriginServer := s.handlers.foldl add o

/-- The handler responsible for a path. -/
def route? (o : OriginServer) (path : String) : Option Handler := o.handlers.route? path

/-- Notes a failure. -/
def record (o : OriginServer) (failure : String) : OriginServer :=
  { o with failures := o.failures ++ [failure] }

/-- The port that the origin would be bound to, when who asks for any gets
`free`. -/
def wanted (o : OriginServer) (free : FreePort) : Int :=
  if o.requested = 0 then free.number else o.requested

/-- Starts the origin, when the ports in `busy` are taken by others and who asks
for any gets `free`.  An origin that listens already gives up its port without
closing it. -/
def start (o : OriginServer) (busy : List Int) (free : FreePort) : Except StartError OriginServer :=
  let wanted := o.wanted free
  if o.requested < 0 || 65535 < o.requested then .error .noSuchPort
  else if busy.contains wanted || o.bound == some wanted then .error (.portInUse o.requested)
  else .ok { o with bound := some wanted }

/-- Stops the origin. -/
def stop (o : OriginServer) : OriginServer := { o with bound := none }

/-- The outcome of a connection that brings these octets, and the origin after
it. -/
def accept (o : OriginServer) (input : Bytes) : Origin.Outcome × OriginServer :=
  let outcome := Origin.converse o.handlers input
  (outcome, { o with failures := o.failures ++ outcome.failures })

end OriginServer

end ProxyTrial
