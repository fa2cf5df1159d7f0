import ProxyTrial.Origin.Answer
import ProxyTrial.Origin.Routing
import ProxyTrial.Verdict
/-!
# A conversation with the origin

A connection carries requests one after another.  The origin answers each: it
reads the body, looks for the handler of the path, holds the request against
the handler's expectations, and sends the handler's reply, whatever the
verdicts are.  Expectations that fail are noted down.

## Main definitions

* `respond`: the answer to a request, and the failures noted
* `turn`: the answer to the request at the start of the octets
* `converse`: the answers to all requests of a connection
-/

namespace ProxyTrial.Origin

/-- Why the origin breaks off a conversation. -/
inductive Breakdown where
  | request (error : RequestError)
  | check (error : CheckError)
  /-- A header of the reply is not Latin-1. -/
  | reply (error : Text.EncodeError)

/-- The wording of a breakdown. -/
def Breakdown.message : Breakdown → String
  | request error => error.message
  | check error => error.message
  | reply error => error.message

/-- What a request has brought about: octets sent, failures noted, a breakdown
if there was one, and the octets still to be read if the connection stays
open. -/
structure Outcome where
  sent : Bytes
  failures : List String
  breakdown : Option Breakdown := none
  rest : Option Bytes := none

/-- The path that tells whether the origin is up. -/
def healthPath : String := "/httpTesterInternalCheck"

/-- The methods that the origin knows. -/
def methods : List String := ["GET", "HEAD", "POST", "PUT", "DELETE", "PATCH", "OPTIONS"]

/-- The reply that reports that an expectation does not apply. -/
def errorReply (e : CheckError) : Reply := { status := 500, body := e.message }

/-- The failures that a message causes among expectations, up to the first one
that cannot be held against it. -/
def judge (m : Message) : List Expectation → List String × Option CheckError
  | [] => ([], none)
  | e :: es =>
    match e.check m with
    | .error error => ([], some error)
    | .ok v =>
      let (failures, error) := judge m es
      (if v.passed then failures else v.described :: failures, error)

/-- The reply to a request and the failures to be noted. -/
def respond (t : Table) (r : Request) : List String × Except Breakdown Reply :=
  if r.path == healthPath then ([], .ok { body := "UP!" })
  else match t.route? r.path with
    | none => ([], .ok { status := 404, body := "Not Found" })
    | some h =>
      match judge (.request r) h.expectations with
      | (failures, none) => (failures, .ok h.reply)
      | (failures, some error) =>
        if error.isInapplicable then
          (failures ++ ["ERROR: " ++ error.message], .ok (errorReply error))
        else (failures, .error (.check error))

/-- Sends a reply after `sent`, then goes on with `rest` if the connection
stays open. -/
def sendReply (h : Http.Head) (sent : Bytes) (failures : List String) (r : Reply) (rest : Bytes) :
    Outcome :=
  match encodeReply h.bare h.method r with
  | .error error => { sent, failures, breakdown := some (.reply error) }
  | .ok reply =>
    { sent := sent ++ reply, failures,
      rest := if staysOpen h.persistent r.headers then some rest else none }

/-- The refusal of a body that cannot be told apart from what follows it. -/
def unreadable (message : String) : Reply :=
  { status := 400, headers := [("Connection", "close")], body := message }

/-- Whether the framing of the body is malformed. -/
def malformedBody? : RequestError → Option String
  | .body (.malformedLength value) => some (Http.BodyError.malformedLength value).message
  | .body (.malformedChunkSize text) => some (Http.BodyError.malformedChunkSize text).message
  | _ => none

/-- The leave to send a body. -/
def goAhead (h : Http.Head) : Bytes :=
  if h.awaitsContinue then Text.ascii "HTTP/1.1 100 Continue\r\n\r\n" else []

/-- Answers a request whose head has been read. -/
def serve (t : Table) (h : Http.Head) (input : Bytes) : Outcome :=
  let sent := goAhead h
  if methods.contains h.method then
    match Request.read h.method h.target h.headers input with
    | .error error =>
      match malformedBody? error with
      | some message =>
        sendReply { h with persistent := false } sent ["ERROR: " ++ message] (unreadable message) []
      | none => { sent, failures := [], breakdown := some (.request error) }
    | .ok (r, rest) =>
      match respond t r with
      | (failures, .ok reply) => sendReply h sent failures reply rest
      | (failures, .error error) => { sent, failures, breakdown := some error }
  else
    match encodeRejected ⟨.unsupportedMethod h.method, h.bare, false⟩ with
    | .ok page => { sent := sent ++ page, failures := [] }
    | .error error => { sent, failures := [], breakdown := some (.reply error) }

/-- Answers the request at the start of the octets. -/
def turn (t : Table) (input : Bytes) : Outcome :=
  match Http.readHead input with
  | .ok none => { sent := [], failures := [] }
  | .ok (some (h, rest)) => serve t h rest
  | .error rejected =>
    match encodeRejected rejected with
    | .ok page => { sent := page, failures := [] }
    | .error error => { sent := [], failures := [], breakdown := some (.reply error) }

/-- Answers the requests of a connection in turn; each begins with a line of
its own, so `fuel` bounds their number. -/
def turns (t : Table) : (fuel : Nat) → Bytes → Outcome
  | 0, _ => { sent := [], failures := [] }
  | fuel + 1, input =>
    let first := turn t input
    match first.rest with
    | none => first
    | some rest =>
      let more := turns t fuel rest
      { more with sent := first.sent ++ more.sent, failures := first.failures ++ more.failures }

/-- The conversation on a connection that brings these octets. -/
def converse (t : Table) (input : Bytes) : Outcome := turns t (input.length + 1) input

end ProxyTrial.Origin
