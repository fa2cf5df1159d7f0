import ProxyTrial.Run.Machine
/-!
# Waiting for an answer

A URL is asked again and again until it answers, the process behind it is gone,
or the time is up; whatever comes first decides.  There is a pause before every
request.

## Main definitions

* `poll`: the loop, whatever time and requests are
* `pollFor`: the loop with a deadline, whatever the clock tells
* `waitForGet`: the loop on a machine
-/

namespace ProxyTrial

/-- How waiting ends. -/
inductive WaitOutcome (ε : Type) where
  | ready
  /-- The URL answers, but not as it should. -/
  | unexpected (status : Int)
  | exited
  | timedOut
  /-- The URL cannot be asked at all. -/
  | failed (error : ε)
  deriving DecidableEq, Repr

/-- Asks until something decides: an answer, then whether the process is alive,
then the time.  At most `fuel` requests are made; running out of them counts as
running out of time. -/
def poll {σ ε : Type} (pause : σ → σ) (ask : σ → Except ε (Option Int) × σ)
    (alive : σ → Bool × σ) (late : σ → Bool) : (fuel : Nat) → σ → WaitOutcome ε × σ
  | 0, s => (.timedOut, s)
  | fuel + 1, s =>
    match ask (pause s) with
    | (.error e, s) => (.failed e, s)
    | (.ok (some status), s) => (if status = 200 then .ready else .unexpected status, s)
    | (.ok none, s) =>
      match alive s with
      | (false, s) => (.exited, s)
      | (true, s) => if late s then (.timedOut, s) else poll pause ask alive late fuel s

/-- Asks until something decides, or until some time from now has passed on a
clock. -/
def pollFor {σ τ ε : Type} [Add τ] [LT τ] [DecidableLT τ] (now : σ → τ) (timeout : τ)
    (pause : σ → σ) (ask : σ → Except ε (Option Int) × σ) (alive : σ → Bool × σ) (fuel : Nat)
    (s : σ) : WaitOutcome ε × σ :=
  let deadline := now s + timeout
  poll pause ask alive (fun s => now s > deadline) fuel s

namespace Wait

/-- What is kept while waiting: the machine, the number of pauses, and what
tells whether the process is alive. -/
structure State (α : Type) where
  machine : Machine
  pauses : Nat := 0
  liveness : α

/-- Asks a URL on a machine.  No answer is no error, unless there is no URL or
something breaks down. -/
def ask (m : Machine) (a : Agent) (url : String) : Except ExchangeError (Option Int) × Machine :=
  match m.send a (Outgoing.ofUrl a url "GET" [] []) with
  | (.ok r, m) => (.ok (some r.status), m)
  | (.error e, m) => if e.kind = .transport then (.ok none, m) else (.error e, m)

/-- How many pauses of a length fit into a time, with some to spare. -/
def enough (time pause : Float) : Nat := (time / pause).toUInt64.toNat + 16

/-- Waits until a URL answers; `alive` tells whether the process behind it
is. -/
def waitForGet {α : Type} (url : String) (timeout interval : Float)
    (alive : Machine → α → Bool × α) (s : State α) : WaitOutcome ExchangeError × State α :=
  pollFor (fun s => s.machine.now) timeout
    (fun s => { s with machine := s.machine.sleep interval, pauses := s.pauses + 1 })
    (fun s =>
      let (answer, machine) := ask s.machine (s.machine.waiting (interval * 5.0)) url
      (answer, { s with machine }))
    (fun s =>
      let (up, liveness) := alive s.machine s.liveness
      (up, { s with liveness }))
    (enough timeout interval) s

end Wait

end ProxyTrial
