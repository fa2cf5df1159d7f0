import ProxyTrial.Decimal.Numeral
import ProxyTrial.Text.Lower
import ProxyTrial.Yaml.Fault
/-!
# Numbers

An integer is written in decimal, binary, octal or hexadecimal digits or to
the base sixty; underscores among the digits mean nothing.  A text that has
the tag of a number is read more freely than one that is a number by its looks
(`isInteger`, `isFloat`).
-/

namespace ProxyTrial.Yaml

/-! ## The looks of numbers -/

/-- Whether a character is a digit satisfying `p` or an underscore. -/
def digitOr (p : Char → Bool) (c : Char) : Bool := c == '_' || p c

/-- Whether a text is a digit to the base sixty in decimal digits. -/
def isSixtieth : List Char → Bool
  | [c] => c.isDigit
  | [c, d] => '0' ≤ c && c ≤ '5' && d.isDigit
  | _ => false

/-- Whether a text without its sign looks like an integer. -/
def isUnsigned : List Char → Bool
  | '0' :: 'b' :: ds => !ds.isEmpty && ds.all (digitOr fun c => c == '0' || c == '1')
  | '0' :: 'x' :: ds => !ds.isEmpty && ds.all (digitOr Text.isHexDigit)
  | '0' :: ds => ds.all (digitOr fun c => '0' ≤ c && c ≤ '7')
  | ds =>
    match Text.splitOnElem ':' ds with
    | (d :: first) :: more => d.isDigit && first.all (digitOr Char.isDigit) && more.all isSixtieth
    | _ => false

/-- Whether a text looks like an integer. -/
def isInteger (cs : List Char) : Bool := isUnsigned (Text.splitSign cs).2

/-- Whether a text is an exponent, or empty. -/
def isExponent : List Char → Bool
  | [] => true
  | e :: sign :: ds =>
    (e == 'e' || e == 'E') && (sign == '+' || sign == '-') && !ds.isEmpty && ds.all Char.isDigit
  | _ => false

/-- Whether a text looks like a number with a point. -/
def isFloat (cs : List Char) : Bool :=
  let (_, ds) := Text.splitSign cs
  match Text.cutAt '.' ds with
  | (_, none) => false
  | ([], some rest) =>
    let word := String.ofList rest
    ["inf", "Inf", "INF"].contains word
      || (cs.head? == some '.' &&
        (["nan", "NaN", "NAN"].contains word
          || (rest.head?.any Char.isDigit && isExponent (rest.dropWhile (digitOr Char.isDigit)))))
  | (whole, some rest) =>
    let rest := rest.dropWhile (digitOr Char.isDigit)
    match Text.splitOnElem ':' whole with
    | (d :: first) :: more =>
      d.isDigit && first.all (digitOr Char.isDigit)
        && (if more.isEmpty then isExponent rest else more.all isSixtieth && rest.isEmpty)
    | _ => false

/-! ## The values of numbers -/

/-- The digits of a number to a base, after the mark of the base if it is
there. -/
def unmarked (base : Nat) (cs : List Char) : List Char :=
  match cs with
  | '0' :: m :: ds =>
    if (base = 2 ∧ (m = 'b' ∨ m = 'B')) ∨ (base = 8 ∧ (m = 'o' ∨ m = 'O'))
      ∨ (base = 16 ∧ (m = 'x' ∨ m = 'X')) then ds else cs
  | _ => cs

/-- The value of a digit to a base: a decimal digit of any script or a Latin
letter. -/
def digitTo? (base : Nat) (c : Char) : Option Nat :=
  match Text.digitValue? c <|> Text.hexValue? c with
  | some d => if d < base then some d else none
  | none => none

/-- The integer to a base that a text holds. -/
def integerTo (base : Nat) (cs : List Char) : Result Int :=
  let (negative, ds) := Text.splitSign (Text.trimBy Text.isBlank cs)
  match (unmarked base ds).mapM (digitTo? base) with
  | none | some [] => .error (.noInteger base (String.ofList cs))
  | some ds =>
    if base = 10 ∧ Text.digitLimit < ds.length then .error (.manyDigits ds.length)
    else
      let n : Int := Text.ofDigits base ds
      .ok (if negative then -n else n)

/-- The value of an integer. -/
def integer (s : String) : Result Int :=
  match s.toList.filter (· != '_') with
  | [] => .error .noDigits
  | cs =>
    let (negative, ds) := Text.splitSign cs
    let signed : Result Int → Result Int := Except.map fun n => if negative then -n else n
    match ds with
    | [] => .error .noDigits
    | '0' :: 'b' :: rest => signed (integerTo 2 rest)
    | '0' :: 'x' :: rest => signed (integerTo 16 rest)
    | ['0'] => .ok 0
    | '0' :: _ => signed (integerTo 8 ds)
    | _ =>
      if ds.contains ':' then
        signed do
          let parts ← (Text.splitOnElem ':' ds).mapM (integerTo 10)
          return parts.foldl (fun n d => n * 60 + d) 0
      else signed (integerTo 10 ds)

/-- The number that a text holds in decimal notation. -/
def decimal (cs : List Char) : Result Float :=
  let ds := (Text.trimBy Text.isBlank cs).map fun c =>
    match Text.digitValue? c with
    | some d => Char.ofNat (48 + d)
    | none => c
  match Decimal.ofChars ds with
  | some x => .ok x
  | none => .error (.noNumber (String.ofList cs))

/-- How many powers of sixty are among the numbers with a point. -/
def sixtiethsLimit : Nat := 174

example : 60 ^ (sixtiethsLimit - 1) < 2 ^ 1024 ∧ 2 ^ 1024 ≤ 60 ^ sixtiethsLimit := by
  decide +kernel

/-- The number with these digits to the base sixty. -/
def sixtieths (digits : List Float) : Result Float :=
  if sixtiethsLimit < digits.length then .error .tooLarge
  else
    let weighted := digits.reverse.zipIdx.map fun (d, i) => d * Decimal.ofInt (Nat.pow 60 i)
    .ok (weighted.foldl (· + ·) 0.0)

/-- The value of a number with a point. -/
def float (s : String) : Result Float :=
  match (Text.lower (String.ofList (s.toList.filter (· != '_')))).toList with
  | [] => .error .noDigits
  | cs =>
    let (negative, ds) := Text.splitSign cs
    let signed : Result Float → Result Float := Except.map fun x => if negative then -x else x
    let word := String.ofList ds
    if word == ".inf" then signed (.ok (1.0 / 0.0))
    else if word == ".nan" then .ok (0.0 / 0.0)
    else if ds.contains ':' then
      signed do sixtieths (← (Text.splitOnElem ':' ds).mapM decimal)
    else signed (decimal ds)

end ProxyTrial.Yaml
