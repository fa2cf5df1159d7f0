import ProxyTrial.Schema.Complaint
import ProxyTrial.Text.Blank
import ProxyTrial.Text.Integer
import ProxyTrial.Text.Lower
/-!
# Checking scalars and collections

A value of another type is taken for the one asked for where nothing is lost:
text that spells a number or a truth value, a number without a fraction, octets
that are UTF-8.
-/

namespace ProxyTrial.Schema

open Checked

/-- The text that a value is: text or UTF-8. -/
def textual? : Value → Option (Except Text.Utf8Error String)
  | .text s => some (.ok s)
  | .bytes bs => some (Text.ofUtf8 bs)
  | _ => none

/-- A value as text. -/
def text (v : Value) : Checked String :=
  match textual? v with
  | some (.ok s) => .ok s
  | some (.error _) => refuse .notUnicode v
  | none => refuse .notText v

/-- A text without underscores, each of which stands alone and inside it. -/
def withoutUnderscores (cs : List Char) : Option (List Char) :=
  if !cs.contains '_' then some cs
  else if cs.head? == some '_' || cs.getLast? == some '_' || doubled cs then none
  else some (cs.filter (· != '_'))
where
  /-- Whether two underscores stand next to each other. -/
  doubled : List Char → Bool
    | '_' :: '_' :: _ => true
    | _ :: cs => doubled cs
    | [] => false

/-- Digits without the zeros before them. -/
def withoutLeadingZeros (cs : List Char) : List Char :=
  match cs.dropWhile (· == '0') with
  | [] => if cs.isEmpty then [] else ['0']
  | c :: rest => if c.isDigit then c :: rest else cs

/-- An integer without the point and the zeros after it. -/
def withoutFraction (cs : List Char) : List Char :=
  match Text.cutAt '.' cs with
  | (_, none) => cs
  | (whole, some zeros) => if !zeros.isEmpty && zeros.all (· == '0') then whole else cs

/-- A text that spells an integer. -/
def integerOfText (s : String) : Except Problem Int :=
  let cs := Text.trimBy Text.isWhiteSpace s.toList
  let signed := match cs with
    | '+' :: '-' :: _ => none
    | '+' :: cs => some cs
    | cs => some cs
  match (signed.map withoutFraction).bind withoutUnderscores with
  | none => .error .unreadableInteger
  | some cs =>
    let (negative, ds) := match cs with
      | '-' :: ds => (true, ds)
      | ds => (false, withoutLeadingZeros ds)
    let plain := !ds.isEmpty && ds.all Char.isDigit && (ds == ['0'] || ds.head? != some '0')
    if !plain then .error .unreadableInteger
    else if ds.length > Text.digitLimit then .error .largeInteger
    else
      let n : Int := Text.ofDigits 10 (ds.map fun c => c.toNat - 48)
      .ok (if negative then -n else n)

/-- A value as an integer. -/
def integer (v : Value) : Checked Int :=
  match v with
  | .int n => .ok n
  | .bool b => .ok (if b then 1 else 0)
  | .float x =>
    if x.isNaN || x.isInf then refuse .notFinite v
    else match Decimal.toInt? x with
      | none => refuse .fractional v
      | some n => if n.natAbs < Nat.pow 2 63 then .ok n else refuse .largeInteger v
  | v =>
    match textual? v with
    | some (.ok s) =>
      match integerOfText s with
      | .ok n => .ok n
      | .error problem => refuse problem v
    | some (.error _) => refuse .unreadableInteger v
    | none => refuse .notInteger v

/-- A value as a number. -/
def number (v : Value) : Checked Float :=
  match v with
  | .float x => .ok x
  | .int n =>
    let x := Decimal.ofInt n
    if x.isInf then refuse .notNumber v else .ok x
  | .bool b => .ok (if b then 1.0 else 0.0)
  | v =>
    match textual? v with
    | some (.ok s) =>
      let cs := Text.trimBy Text.isWhiteSpace s.toList
      match Decimal.ofChars cs <|> (withoutUnderscores cs).bind Decimal.ofChars with
      | some x => .ok x
      | none => refuse .unreadableNumber v
    | some (.error _) => refuse .unreadableNumber v
    | none => refuse .notNumber v

/-- A value as a positive number. -/
def positive (v : Value) : Checked Float := do
  let x ← number v
  if x > 0.0 then .ok x else refuse .notPositive v

/-- The truth value that a text spells. -/
def booleanOfText (s : String) : Option Bool :=
  let word := Text.lower s
  if ["0", "off", "f", "false", "n", "no"].contains word then some false
  else if ["1", "on", "t", "true", "y", "yes"].contains word then some true
  else none

/-- A value as a truth value. -/
def boolean (v : Value) : Checked Bool :=
  match v with
  | .bool b => .ok b
  | .int 0 => .ok false
  | .int 1 => .ok true
  | .int _ => refuse .unreadableBoolean v
  | .float x => if x == 0.0 then .ok false else if x == 1.0 then .ok true else refuse .notBoolean v
  | v =>
    match textual? v with
    | some (.ok s) =>
      match booleanOfText s with
      | some b => .ok b
      | none => refuse .unreadableBoolean v
    | some (.error _) => refuse .unreadableBoolean v
    | none => refuse .notBoolean v

/-- One of several values, each with the text that stands for it. -/
def choice {α : Type} (choices : String) (table : List (String × α)) (v : Value) : Checked α :=
  match v with
  | .text s =>
    match table.lookup s with
    | some a => .ok a
    | none => refuse (.notAChoice choices) v
  | v => refuse (.notAChoice choices) v

/-- Null, or a value of the given form. -/
def optional {α : Type} (form : Value → Checked α) (v : Value) : Checked (Option α) :=
  match v with
  | .null => .ok none
  | v => (form v).map some

/-- A list whose items have the given form. -/
def list {α : Type} (form : Value → Checked α) (v : Value) : Checked (List α) :=
  match v with
  | .list xs | .tuple xs | .set xs =>
    all (xs.zipIdx.map fun (x, i) => (form x).under (.index i))
  | v => refuse .notList v

/-- The step to the value of a key. -/
def stepOf : Value → Step
  | .text s => .name s
  | .int n => .index n
  | .bool b => .index (if b then 1 else 0)
  | v => .name v.shown

/-- A mapping from text to text. -/
def textMap (v : Value) : Checked (List (String × String)) :=
  match v with
  | .map entries =>
    (all (entries.map fun (k, v) =>
      both ((((text k).under (.name "[key]")).under (stepOf k))) ((text v).under (stepOf k)))).map
      fun pairs => pairs.foldl (fun acc (k, v) => put k v acc) []
  | v => refuse .notMapping v
where
  /-- Sets a key that may be there already. -/
  put (k v : String) : List (String × String) → List (String × String)
    | [] => [(k, v)]
    | (k', v') :: rest => if k' == k then (k, v) :: rest else (k', v') :: put k v rest

/-- The entries of a mapping from which a model is made. -/
def entries (model : String) (v : Value) : Checked (List (Value × Value)) :=
  match v with
  | .map es => .ok es
  | v => refuse (.notModel model) v

/-- A field of a model that has to be there. -/
def required {α : Type} (name : String) (form : Value → Checked α) (es : List (Value × Value)) :
    Checked α :=
  match Value.entry? name es with
  | some v => (form v).under (.name name)
  | none => (refuse .missing (.map es)).under (.name name)

/-- A field of a model that has a default. -/
def defaulted {α : Type} (name : String) (form : Value → Checked α) (default : α)
    (es : List (Value × Value)) : Checked α :=
  match Value.entry? name es with
  | some v => (form v).under (.name name)
  | none => .ok default

end ProxyTrial.Schema
