import ProxyTrial.Schema.Scalar
import ProxyTrial.Script.Basic
/-!
# Scripts from plain data

The parts of a script can be given as plain data instead of text.  The data is
checked field by field, and then the rules that join the fields are.
-/

namespace ProxyTrial.Schema

open Checked

/-- The operators by their words. -/
inductive Operator where
  | equal
  | differs
  | contains
  deriving DecidableEq, Repr

/-- The parts of a message by their words; a header has its name elsewhere. -/
inductive Field where
  | method
  | status
  | headers
  | body
  deriving DecidableEq, Repr

/-- The words of the operators. -/
def operators : List (String × Operator) :=
  [("eq", .equal), ("ne", .differs), ("~", .contains)]

/-- The words of the parts of a message. -/
def fields : List (String × Field) :=
  [("method", .method), ("status", .status), ("headers", .headers), ("body", .body)]

/-- The words of the sides. -/
def sides : List (String × Side) := [("req", .request), ("resp", .response)]

/-- The pattern with the text that a value is; a value of another type cannot
even be looked up. -/
def patternOf (v expected : Value) : Checked Pattern :=
  match expected with
  | .text s =>
    match Pattern.ofText s with
    | .ok p => .ok p
    | .error e =>
      match e with
      | .faultAt _ _ _ | .faultOverall _ =>
        refuse (.broken ("invalid regular expression " ++ expected.shown ++ ": " ++ e.message)) v
      | .longNumber _ | .asciiAndUnicode => refuse (.broken e.message) v
      | .largeRepeat => .error (.failed (.pattern e))
  | expected =>
    if expected.isKey then .error (.failed .notAPattern)
    else .error (.failed (.unhashable expected.typeName))

/-- A pattern given as such. -/
def pattern (v : Value) : Checked Pattern :=
  match v with
  | .text s =>
    match Pattern.ofText s with
    | .ok p => .ok p
    | .error e =>
      match e with
      | .faultAt _ _ _ | .faultOverall _ => refuse .badPattern v
      | .longNumber _ | .asciiAndUnicode => refuse (.broken e.message) v
      | .largeRepeat => .error (.failed (.pattern e))
  | v => refuse .notPattern v

/-- The pattern that goes with an expectation whose operator asks for one and
that gives none itself. -/
def impliedPattern (v : Value) (es : List (Value × Value)) : Checked (Option Pattern) :=
  let given := match Value.entry? "pattern" es with
    | none | some .null => false
    | some _ => true
  let asked := match Value.entry? "operator" es with
    | some (.text s) => operators.lookup s == some Operator.contains
    | _ => false
  if !given && asked then
    (patternOf v ((Value.entry? "expected" es).getD (.text ""))).map some
  else .ok none

/-- The subject with its header name, which goes with headers only. -/
def subjectOf : Field → Option String → Option Subject
  | .method, none => some .method
  | .status, none => some .status
  | .body, none => some .body
  | .headers, some name => some (.header name)
  | _, _ => none

/-- The comparison with its pattern, which goes with one operator only. -/
def comparisonOf : Operator → Option Pattern → Option Comparison
  | .equal, none => some .equal
  | .differs, none => some .differs
  | .contains, some p => some (.contains p)
  | _, _ => none

/-- An expectation as data. -/
def expectation (v : Value) : Checked Expectation := do
  let implied ← match v with
    | .map es => impliedPattern v es
    | _ => pure none
  let es ← entries "Expect" v
  let (side, field, name, operator, expected, verbatim, given) ←
    both (required "side" (choice "'req' or 'resp'" sides) es) <|
    both (required "field" (choice "'method', 'status', 'headers' or 'body'" fields) es) <|
    both (defaulted "header_name" (optional text) none es) <|
    both (required "operator" (choice "'eq', 'ne' or '~'" operators) es) <|
    both (required "expected" text es) <|
    both (defaulted "verbatim" text "" es)
      (match implied with
        | some p => .ok (some p)
        | none => defaulted "pattern" (optional pattern) none es)
  let some subject := subjectOf field name
    | refuse (.broken "header_name must be set if and only if field is 'headers'") v
  let some comparison := comparisonOf operator given
    | refuse (.broken "pattern must be set if and only if operator is '~'") v
  return { side, subject, comparison, expected, verbatim }

/-- A reply as data. -/
def reply (v : Value) : Checked Reply := do
  let es ← entries "TxResponse" v
  let (status, headers, body) ←
    both (defaulted "status_code" integer 200 es) <|
    both (defaulted "headers" textMap [] es) (defaulted "body" text "" es)
  return { status, headers, body }

/-- A call as data. -/
def call (v : Value) : Checked Call := do
  let es ← entries "TxRequest" v
  let (method, target, headers, body) ←
    both (defaulted "method" text "GET" es) <|
    both (defaulted "uri" text "" es) <|
    both (defaulted "headers" textMap [] es) (defaulted "body" text "" es)
  return { method, target, headers, body }

/-- A path that starts with a slash. -/
def absolutePath (v : Value) : Checked String := do
  let s ← text v
  if s.toList.head? = some '/' then .ok s
  else refuse (.broken ("URI path must start with '/', got " ++ Text.quoted s)) v

/-- A handler as data. -/
def handler (v : Value) : Checked Handler := do
  let es ← entries "HandleStanza" v
  let (path, expectations, reply) ←
    both (required "uri_path" absolutePath es) <|
    both (defaulted "expectations" (list expectation) [] es) (defaulted "response" reply {} es)
  return { path, expectations, reply }

/-- A client as data. -/
def client (v : Value) : Checked Client := do
  let es ← entries "ClientStanza" v
  let (name, call, expectations) ←
    both (required "name" text es) <|
    both (defaulted "request" call {} es) (defaulted "expectations" (list expectation) [] es)
  return { name, call, expectations }

/-- A script as data. -/
def script (v : Value) : Checked Script := do
  let es ← entries "Program" v
  let (handlers, clients) ←
    both (defaulted "handlers" (list handler) [] es) (defaulted "clients" (list client) [] es)
  if handlers.isEmpty && clients.isEmpty then
    refuse (.broken "at least one of 'handle' or 'client' stanza are needed") v
  else return ⟨handlers, clients⟩

end ProxyTrial.Schema
