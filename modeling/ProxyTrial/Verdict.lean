import ProxyTrial.Message
import ProxyTrial.Script.Basic
/-!
# Verdicts

An expectation is held against a message: the part that it is about is looked
up, and compared.  A request has no status and a response has no method.
-/

namespace ProxyTrial

/-- Why an expectation cannot be held against a message. -/
inductive CheckError where
  | noStatus (e : Expectation)
  | noMethod (e : Expectation)
  /-- The header name cannot be written in the encoding of the message. -/
  | headerName (error : Text.EncodeError)

/-- The wording of an error. -/
def CheckError.message : CheckError → String
  | noStatus e => "Requests have no status: " ++ e.shown
  | noMethod e => "Responses have no method: " ++ e.shown
  | headerName error => error.message

/-- Whether an expectation was held against a message that lacks what it is
about. -/
def CheckError.isInapplicable : CheckError → Bool
  | noStatus _ | noMethod _ => true
  | headerName _ => false

/-- The outcome of an expectation. -/
structure Verdict where
  expectation : Expectation
  passed : Bool
  /-- The value found in the message. -/
  actual : String

/-- A verdict as it is reported. -/
def Verdict.described (v : Verdict) : String :=
  if v.passed then "PASSED: " ++ v.expectation.shown
  else "FAILED: " ++ v.expectation.shown ++ " (actual=" ++ Text.quoted v.actual ++ ")"

namespace Expectation

/-- The part of a message that an expectation is about.  A header that is not
there is empty. -/
def actual (e : Expectation) (m : Message) : Except CheckError String :=
  match e.subject with
  | .header name =>
    match m.fields.values name with
    | .ok values => .ok (values.headD "")
    | .error error => .error (.headerName error)
  | .body => .ok m.body
  | .method =>
    match m with
    | .request r => .ok r.method
    | .response _ => .error (.noMethod e)
  | .status =>
    match m with
    | .request _ => .error (.noStatus e)
    | .response r => .ok (toString r.status)

/-- Whether a value is as expected. -/
def admits (e : Expectation) (actual : String) : Bool :=
  match e.comparison with
  | .equal => actual == e.expected
  | .differs => actual != e.expected
  | .contains p => p.occursIn actual

/-- Whether an expectation holds of a message. -/
def holds (e : Expectation) (m : Message) : Except CheckError Bool :=
  (e.actual m).map e.admits

/-- The verdict on a message. -/
def check (e : Expectation) (m : Message) : Except CheckError Verdict :=
  (e.actual m).map fun actual => ⟨e, e.admits actual, actual⟩

end Expectation

end ProxyTrial
