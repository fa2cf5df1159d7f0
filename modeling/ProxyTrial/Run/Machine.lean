import ProxyTrial.Client.Exchange
import ProxyTrial.Files.System
import ProxyTrial.Origin.Server
/-!
# The machine of a run

A run takes place on a machine with ports, processes, files and a clock that
moves only when someone sleeps.  Ports may be taken by others, some of which
answer every connection with the same octets; the first connections to a port
may have outcomes of their own.  A proxy process forwards its port to the
origin.

## Main definitions

* `Machine.connect`: what answers a connection
* `Machine.exchange`: a request and its response
* `Machine.spawn`, `Machine.kill`: processes
-/

namespace ProxyTrial

/-- How commands fare on a machine. -/
inductive Spawning where
  /-- The process lives until it is killed. -/
  | lives
  /-- There is no such program. -/
  | missing
  /-- The process ends at once. -/
  | exits
  deriving DecidableEq, Repr

/-- Why no process is spawned. -/
inductive SpawnError where
  /-- There is no such program. -/
  | noProgram
  /-- An argument has a null character in it. -/
  | nullCharacter
  deriving DecidableEq, Repr

/-- A process and the port that it serves. -/
structure Process where
  port : Int
  alive : Bool
  deriving DecidableEq, Repr

/-- The machine of a run. -/
structure Machine where
  /-- What sends requests. -/
  agent : Agent := {}
  /-- The ports that are taken by others. -/
  busy : List Int := []
  /-- The port for an origin that asks for any. -/
  originPort : FreePort := ⟨40000, by decide⟩
  /-- The port for a proxy that asks for any. -/
  proxyPort : FreePort := ⟨41000, by decide⟩
  /-- Why no directory can be made for a run, if none can. -/
  noRoot : Option String := none
  /-- Ports whose connections all bring the same octets. -/
  servers : List (Int × Bytes) := []
  /-- Outcomes of the next connections to a port: nothing listens, or a response
  of this status. -/
  probes : List (Int × List (Option Int)) := []
  spawning : Spawning := .lives
  files : FileSystem := {}
  origin : OriginServer := {}
  /-- The processes that have been spawned. -/
  processes : List Process := []
  /-- The directories that have been made for runs. -/
  roots : List Path := []
  /-- Seconds since the start. -/
  now : Float := 0.0
  /-- The octets received on each connection. -/
  received : List Bytes := []
  /-- The breakdowns of the origin. -/
  breakdowns : List Origin.Breakdown := []

namespace Machine

/-- What answers a connection. -/
inductive Responder where
  | octets (bs : Bytes)
  | origin

/-- The response of a probe. -/
def probeReply (status : Int) : Bytes :=
  Text.ascii s!"HTTP/1.1 {status} X\r\nContent-Length: 0\r\n\r\n"

/-- Takes the next outcome for a port, if there is one. -/
def takeProbe (port : Int) :
    List (Int × List (Option Int)) → Option (Option Int × List (Int × List (Option Int)))
  | [] => none
  | (p, outcomes) :: rest =>
    match outcomes with
    | outcome :: outcomes =>
      if p = port then some (outcome, (p, outcomes) :: rest)
      else (takeProbe port rest).map fun (o, rest') => (o, (p, outcome :: outcomes) :: rest')
    | [] => (takeProbe port rest).map fun (o, rest') => (o, (p, []) :: rest')

/-- What listens on a port, apart from probes. -/
def listener? (m : Machine) (port : Int) : Option Responder :=
  if m.origin.bound == some port then some .origin
  else if m.processes.any fun p => p.alive && p.port == port then
    if m.origin.bound.isSome then some .origin else none
  else (m.servers.lookup port).map .octets

/-- What answers at a port, if anything does. -/
def dial (m : Machine) (port : Int) : Option Responder × Machine :=
  match takeProbe port m.probes with
  | some (outcome, probes) =>
    (outcome.map fun status => .octets (probeReply status), { m with probes })
  | none => (m.listener? port, m)

/-- What answers a connection for a request. -/
def connect (m : Machine) (a : Agent) (o : Outgoing) : Except ExchangeError Responder × Machine :=
  match a.socketFault? o.url.host o.port with
  | some reason => (.error (.socket reason), m)
  | none =>
    match m.dial o.port with
    | (none, m) => (.error .refused, m)
    | (some responder, m) => (.ok responder, m)

/-- The octets that a responder sends when it has received a request. -/
def reply (m : Machine) (r : Responder) (request : Bytes) : Bytes × Machine :=
  let m := { m with received := m.received ++ [request] }
  match r with
  | .octets bs => (bs, m)
  | .origin =>
    let (outcome, origin) := m.origin.accept request
    (outcome.sent, { m with origin, breakdowns := m.breakdowns ++ outcome.breakdown.toList })

/-- Sends a request and receives the response. -/
def exchange (m : Machine) (a : Agent) (o : Outgoing) : Except ExchangeError Incoming × Machine :=
  match m.connect a o with
  | (.error e, m) => (.error e, m)
  | (.ok responder, m) =>
    match o.encode with
    | .error e => (.error (.send e), m)
    | .ok request =>
      let (answer, m) := m.reply responder request
      (o.answer a answer, m)

/-- Sends the request that a text makes, if it makes one. -/
@[irreducible]
def send (m : Machine) (a : Agent) (o : Except CallError Outgoing) :
    Except ExchangeError Incoming × Machine :=
  match o with
  | .error e => (.error (.call e), m)
  | .ok o => m.exchange a o

/-- What sends requests, and waits so many seconds for an answer. -/
def waiting (m : Machine) (seconds : Float) : Agent := { m.agent with timeout := seconds }

/-- Lets time pass. -/
def sleep (m : Machine) (seconds : Float) : Machine := { m with now := m.now + seconds }

/-- Spawns the process of a command, which serves a port. -/
def spawn (m : Machine) (command : List String) (port : Int) : Except SpawnError Nat × Machine :=
  if command.any fun argument => argument.toList.contains '\x00' then (.error .nullCharacter, m)
  else match m.spawning with
    | .missing => (.error .noProgram, m)
    | .lives | .exits =>
      (.ok m.processes.length,
        { m with processes := m.processes ++ [⟨port, m.spawning == .lives⟩] })

/-- Whether a process is alive. -/
def isAlive (m : Machine) (process : Nat) : Bool := m.processes[process]?.any (·.alive)

/-- Kills a process. -/
def kill (m : Machine) (process : Nat) : Machine :=
  { m with processes := m.processes.modify process fun p => { p with alive := false } }

end Machine

end ProxyTrial
