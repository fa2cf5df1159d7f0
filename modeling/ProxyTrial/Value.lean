import ProxyTrial.Decimal.Numeral
import ProxyTrial.Text.Quoted
import ProxyTrial.Text.Utf8
/-!
# Plain data

The values that data files and test data hold: scalars, lists and mappings.  A
mapping keeps its entries in order, and its keys may be any values.
-/

namespace ProxyTrial

/-- A date with a time of day and the offset from universal time in minutes,
if it is known. -/
structure DateTime where
  year : Nat
  month : Nat
  day : Nat
  hour : Nat
  minute : Nat
  second : Nat
  microsecond : Nat
  /-- The offset in seconds. -/
  offset : Option Int
  deriving DecidableEq, Repr

/-- A value. -/
inductive Value where
  | null
  | bool (b : Bool)
  | int (n : Int)
  | float (x : Float)
  | text (s : String)
  | bytes (bs : Bytes)
  | date (year month day : Nat)
  | dateTime (t : DateTime)
  | list (items : List Value)
  | tuple (items : List Value)
  | set (items : List Value)
  | map (entries : List (Value × Value))
  deriving Inhabited

namespace Value

/-- The name of a value's type in messages. -/
def typeName : Value → String
  | null => "NoneType"
  | bool _ => "bool"
  | int _ => "int"
  | float _ => "float"
  | text _ => "str"
  | bytes _ => "bytes"
  | date _ _ _ => "date"
  | dateTime _ => "datetime"
  | list _ => "list"
  | tuple _ => "tuple"
  | set _ => "set"
  | map _ => "dict"

/-- An interval of time in messages. -/
def intervalText (seconds : Int) : String :=
  let days := seconds.fdiv 86400
  let rest := seconds.fmod 86400
  let parts := (if days = 0 then [] else [s!"days={days}"])
    ++ (if rest = 0 then [] else [s!"seconds={rest}"])
  "datetime.timedelta(" ++ (if parts.isEmpty then "0" else ", ".intercalate parts) ++ ")"

/-- The offset of a time zone in messages. -/
def offsetText (seconds : Int) : String :=
  if seconds = 0 then "datetime.timezone.utc"
  else "datetime.timezone(" ++ intervalText seconds ++ ")"

/-- A date and time in messages: seconds and fractions only where they are not
zero. -/
def dateTimeText (t : DateTime) : String :=
  let seconds :=
    if t.microsecond ≠ 0 then s!", {t.second}, {t.microsecond}"
    else if t.second ≠ 0 then s!", {t.second}" else ""
  let zone := match t.offset with
    | none => ""
    | some o => ", tzinfo=" ++ offsetText o
  s!"datetime.datetime({t.year}, {t.month}, {t.day}, {t.hour}, {t.minute}" ++ seconds ++ zone ++ ")"

mutual

/-- A value as messages show it. -/
def shown : Value → String
  | null => "None"
  | bool b => if b then "True" else "False"
  | int n => toString n
  | float x => Decimal.shown x
  | text s => Text.quoted s
  | bytes bs => Text.quotedOctets bs
  | date y m d => s!"datetime.date({y}, {m}, {d})"
  | dateTime t => dateTimeText t
  | list xs => "[" ++ ", ".intercalate (shownAll xs) ++ "]"
  | tuple xs =>
    match shownAll xs with
    | [x] => "(" ++ x ++ ",)"
    | ts => "(" ++ ", ".intercalate ts ++ ")"
  | set xs =>
    match shownAll xs with
    | [] => "set()"
    | ts => "\x7b" ++ ", ".intercalate ts ++ "\x7d"
  | map fs => "\x7b" ++ ", ".intercalate (shownEntries fs) ++ "\x7d"

/-- The values of a list as messages show them. -/
def shownAll : List Value → List String
  | [] => []
  | v :: vs => shown v :: shownAll vs

/-- The entries of a mapping as messages show them. -/
def shownEntries : List (Value × Value) → List String
  | [] => []
  | (k, v) :: rest => (shown k ++ ": " ++ shown v) :: shownEntries rest

end

/-- The number that a value is, as far as it is compared as one. -/
def number? : Value → Option (Int ⊕ Float)
  | bool b => some (.inl (if b then 1 else 0))
  | int n => some (.inl n)
  | float x => some (match Decimal.toInt? x with
    | some n => .inl n
    | none => .inr x)
  | _ => none

mutual

/-- Whether two values are the same key of a mapping: numbers are the same by
their value, whatever their type. -/
def sameKey : Value → Value → Bool
  | null, null => true
  | text s, text t => s == t
  | bytes a, bytes b => a == b
  | date y m d, date y' m' d' => y == y' && m == m' && d == d'
  | dateTime t, dateTime u => t == u
  | tuple xs, tuple ys => sameKeys xs ys
  | v, w =>
    match number? v, number? w with
    | some (.inl m), some (.inl n) => m == n
    | some (.inr x), some (.inr y) => x == y
    | _, _ => false

/-- Whether two lists hold the same keys. -/
def sameKeys : List Value → List Value → Bool
  | [], [] => true
  | v :: vs, w :: ws => sameKey v w && sameKeys vs ws
  | _, _ => false

end

/-- Whether a value can be a key of a mapping. -/
def isKey : Value → Bool
  | list _ | set _ | map _ => false
  | tuple xs => allKeys xs
  | _ => true
where
  /-- Whether all values of a list can be keys. -/
  allKeys : List Value → Bool
    | [] => true
    | v :: vs => v.isKey && allKeys vs

/-- A mapping with an entry set; a key that is there keeps its place. -/
def setEntry (k v : Value) : List (Value × Value) → List (Value × Value)
  | [] => [(k, v)]
  | (k', v') :: rest => if k'.sameKey k then (k', v) :: rest else (k', v') :: setEntry k v rest

/-- The value of a text key in a mapping. -/
def entry? (name : String) (entries : List (Value × Value)) : Option Value :=
  (entries.find? fun e => match e.1 with
    | text s => s == name
    | _ => false).map (·.2)

end Value

end ProxyTrial
