import ProxyTrial.Text.Integer
import ProxyTrial.Value
/-!
# Faults of a YAML text

A text has a flaw when it is not YAML, or when its tags ask for something that
cannot be made.  A scalar that has the tag of a number or of a date, but does
not hold one, is a fault of its own kind.
-/

namespace ProxyTrial.Yaml

/-- What makes a text unreadable as YAML. -/
inductive Flaw where
  | unprintable
  /-- A mapping key was begun, but no colon comes after it. -/
  | missingColon
  /-- An entry, a key or a value at a place where none can be. -/
  | misplaced
  | noToken
  | directive
  | anchor
  | tag
  | blockHeader
  | escape
  | unclosedQuote
  /-- A closing bracket without its opening one. -/
  | unopened
  /-- The tokens do not make a document. -/
  | noDocument
  | unknownHandle
  | unknownAnchor
  | anchorTwice
  | secondDocument
  /-- A node is not of the kind that its tag asks for. -/
  | kind
  | unknownTag
  | merge
  | unusableKey
  | binary
  deriving DecidableEq, Repr

/-- What is wrong with the parts of a date. -/
inductive DateFault where
  | year (n : Nat)
  | month
  | day
  | hour
  | minute
  | second
  /-- The offset from universal time, in seconds, is a day or more. -/
  | offset (seconds : Int)
  deriving DecidableEq, Repr

/-- The wording of a fault. -/
def DateFault.message : DateFault → String
  | year n => s!"year {n} is out of range"
  | month => "month must be in 1..12"
  | day => "day is out of range for month"
  | hour => "hour must be in 0..23"
  | minute => "minute must be in 0..59"
  | second => "second must be in 0..59"
  | offset seconds =>
    "offset must be a timedelta strictly between -timedelta(hours=24) and timedelta(hours=24), not "
      ++ Value.intervalText seconds ++ "."

/-- Why a text gives no value. -/
inductive Fault where
  | flawed (flaw : Flaw)
  /-- An escape names a number that is no code point. -/
  | codePoint (n : Nat)
  /-- A number has so many digits that it is not read. -/
  | manyDigits (count : Nat)
  | noInteger (base : Nat) (text : String)
  /-- No digits remain of a number. -/
  | noDigits
  | noNumber (text : String)
  | noBoolean (text : String)
  | noDate
  /-- A list of pairs stands where a date should. -/
  | pairsForDate
  | date (fault : DateFault)
  /-- A number to the base sixty has so many digits that their powers of sixty
  are beyond all numbers with a point. -/
  | tooLarge
  /-- Nodes are in each other deeper than can be followed. -/
  | depth
  deriving DecidableEq, Repr

/-- The wording of a fault. -/
def Fault.message : Fault → String
  | flawed _ => "Invalid YAML"
  | codePoint n =>
    if n < 0x80000000 then "chr() arg not in range(0x110000)"
    else "Python int too large to convert to C int"
  | manyDigits count => Text.tooManyDigits count
  | noInteger base text =>
    s!"invalid literal for int() with base {base}: "
      ++ String.ofList ((Text.quoted text).toList.take 200)
  | noDigits => "string index out of range"
  | noNumber text => "could not convert string to float: " ++ Text.quoted text
  | noBoolean text => Text.quoted text
  | noDate => "'NoneType' object has no attribute 'groupdict'"
  | pairsForDate => "expected string or bytes-like object, got 'list'"
  | date fault => fault.message
  | tooLarge => "int too large to convert to float"
  | depth => "maximum recursion depth exceeded"

/-- What reading gives. -/
abbrev Result (α : Type) := Except Fault α

/-- The result of a text with a flaw. -/
def flaw {α : Type} (f : Flaw) : Result α := .error (.flawed f)

end ProxyTrial.Yaml
