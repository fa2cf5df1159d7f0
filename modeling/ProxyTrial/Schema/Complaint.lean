import ProxyTrial.Pattern.Error
import ProxyTrial.Value
/-!
# Complaints about data

Data that does not have the form asked for is refused with a list of
complaints, each with the path to the value it is about.  Checking goes on
after a complaint, so that all of them are found.
-/

namespace ProxyTrial.Schema

/-- A step on the way to a value. -/
inductive Step where
  | name (s : String)
  | index (n : Int)
  deriving DecidableEq, Repr

/-- What is wrong with a value. -/
inductive Problem where
  | missing
  | notText
  | notUnicode
  | notInteger
  | unreadableInteger
  | largeInteger
  | fractional
  | notFinite
  | notBoolean
  | unreadableBoolean
  | notNumber
  | unreadableNumber
  | notPositive
  | notList
  | tooShort
  | notMapping
  /-- The value is no mapping from which this model could be made. -/
  | notModel (name : String)
  | notAChoice (choices : String)
  | notPattern
  | badPattern
  /-- A rule of the model is broken. -/
  | broken (rule : String)
  | unknownField
  | keyNotText
  deriving DecidableEq, Repr

namespace Problem

/-- The code of a problem. -/
def code : Problem → String
  | missing => "missing"
  | notText => "string_type"
  | notUnicode => "string_unicode"
  | notInteger => "int_type"
  | unreadableInteger => "int_parsing"
  | largeInteger => "int_parsing_size"
  | fractional => "int_from_float"
  | notFinite => "finite_number"
  | notBoolean => "bool_type"
  | unreadableBoolean => "bool_parsing"
  | notNumber => "float_type"
  | unreadableNumber => "float_parsing"
  | notPositive => "greater_than"
  | notList => "list_type"
  | tooShort => "too_short"
  | notMapping => "dict_type"
  | notModel _ => "model_type"
  | notAChoice _ => "enum"
  | notPattern => "pattern_type"
  | badPattern => "pattern_regex"
  | broken _ => "value_error"
  | unknownField => "extra_forbidden"
  | keyNotText => "invalid_key"

/-- The wording of a problem. -/
def message : Problem → String
  | missing => "Field required"
  | notText => "Input should be a valid string"
  | notUnicode => "Input should be a valid string, unable to parse raw data as a unicode string"
  | notInteger => "Input should be a valid integer"
  | unreadableInteger =>
    "Input should be a valid integer, unable to parse string as an integer"
  | largeInteger =>
    "Unable to parse input string as an integer, exceeded maximum size"
  | fractional => "Input should be a valid integer, got a number with a fractional part"
  | notFinite => "Input should be a finite number"
  | notBoolean => "Input should be a valid boolean"
  | unreadableBoolean => "Input should be a valid boolean, unable to interpret input"
  | notNumber => "Input should be a valid number"
  | unreadableNumber => "Input should be a valid number, unable to parse string as a number"
  | notPositive => "Input should be greater than 0"
  | notList => "Input should be a valid list"
  | tooShort => "List should have at least 1 item after validation, not 0"
  | notMapping => "Input should be a valid dictionary"
  | notModel name => s!"Input should be a valid dictionary or instance of {name}"
  | notAChoice choices => s!"Input should be {choices}"
  | notPattern => "Input should be a valid pattern"
  | badPattern => "Input should be a valid regular expression"
  | broken rule => "Value error, " ++ rule
  | unknownField => "Extra inputs are not permitted"
  | keyNotText => "Keys should be strings"

end Problem

/-- A problem with the value at the end of a path. -/
structure Complaint where
  problem : Problem
  path : List Step
  input : Value

/-- A failure of the check itself. -/
inductive Failure where
  | pattern (error : PatternError)
  /-- A value of this type was given in the place of a pattern. -/
  | unhashable (typeName : String)
  | notAPattern

/-- The wording of a failure. -/
def Failure.message : Failure → String
  | pattern error => error.message
  | unhashable typeName => s!"unhashable type: '{typeName}'"
  | notAPattern => "first argument must be string or compiled pattern"

/-- Why data is refused. -/
inductive Refusal where
  | invalid (complaints : List Complaint)
  | failed (failure : Failure)

/-- The outcome of a check. -/
abbrev Checked (α : Type) := Except Refusal α

namespace Checked

/-- Refuses a value for one problem. -/
def refuse {α : Type} (problem : Problem) (input : Value) : Checked α :=
  .error (.invalid [⟨problem, [], input⟩])

/-- The outcome with a step put before the path of every complaint. -/
def under {α : Type} (step : Step) : Checked α → Checked α
  | .error (.invalid cs) => .error (.invalid (cs.map fun c => { c with path := step :: c.path }))
  | r => r

/-- Two checks, the complaints of the first before those of the second. -/
def both {α β : Type} (a : Checked α) (b : Checked β) : Checked (α × β) :=
  match a, b with
  | .ok x, .ok y => .ok (x, y)
  | .error (.failed f), _ => .error (.failed f)
  | _, .error (.failed f) => .error (.failed f)
  | .error (.invalid cs), .error (.invalid ds) => .error (.invalid (cs ++ ds))
  | .error (.invalid cs), .ok _ => .error (.invalid cs)
  | .ok _, .error (.invalid ds) => .error (.invalid ds)

/-- A list of checks, with all their complaints in order. -/
def all {α : Type} : List (Checked α) → Checked (List α)
  | [] => .ok []
  | c :: cs => (both c (all cs)).map fun (x, xs) => x :: xs

end Checked

end ProxyTrial.Schema
