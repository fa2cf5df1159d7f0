import ProxyTrial.Decimal.Shortest
/-!
# Floating-point numbers in text

A number is shown by its shortest decimal, with at least one digit after the
point.  Numbers below `10⁻⁴` and from `10¹⁶` on have an exponent of at least two
digits.  A decimal is read by rounding it to the nearest number.
-/

namespace ProxyTrial.Decimal

/-- The exponent part of a number: sign and at least two digits. -/
def exponentText (e : Int) : String :=
  let digits := toString e.natAbs
  "e" ++ (if e < 0 then "-" else "+") ++ (if digits.length < 2 then "0" ++ digits else digits)

/-- The text of a decimal. -/
def Short.shown (d : Short) : String :=
  let d := Short.trimZeros 400 d
  if d.digits = 0 then "0.0"
  else
    let digits := (toString d.digits).toList
    let point : Int := digits.length + d.exponent
    if point ≤ -4 ∨ 16 < point then
      let text := match digits with
        | [] => ""
        | [c] => String.singleton c
        | c :: cs => String.ofList (c :: '.' :: cs)
      text ++ exponentText (point - 1)
    else if point ≤ 0 then
      String.ofList ('0' :: '.' :: (List.replicate (-point).toNat '0' ++ digits))
    else
      let whole := digits.take point.toNat
      let zeros := List.replicate (point.toNat - digits.length) '0'
      let fraction := digits.drop point.toNat
      String.ofList (whole ++ zeros ++ '.' :: (if fraction.isEmpty then ['0'] else fraction))

/-- The text of a number. -/
def shown (x : Float) : String :=
  if x.isNaN then "nan"
  else
    let bits := x.toBits
    let sign := if bits >>> 63 == 1 then "-" else ""
    if x.isInf then sign ++ "inf" else sign ++ (Binary.ofBits bits).shortest.shown

/-- The number nearest to `digits · 10 ^ exponent`. -/
def nearestFloat (negative : Bool) (digits : Nat) (exponent : Int) : Float :=
  let size : Int := (toString digits).length + exponent
  let x :=
    if digits = 0 ∨ size < -400 then 0.0
    else if 400 < size then 1.0 / 0.0
    else if exponent < 0 then Float.ofScientific digits true exponent.natAbs
    else Float.ofScientific digits false exponent.natAbs
  if negative then -x else x

/-- Digits with at most one point among them, at least one digit in all: their
value without the point, and the number of digits after it. -/
def readDigits (cs : List Char) : Option (Nat × Nat × List Char) :=
  let whole := cs.takeWhile Char.isDigit
  let rest := cs.dropWhile Char.isDigit
  let (fraction, rest) := match rest with
    | '.' :: more => (more.takeWhile Char.isDigit, more.dropWhile Char.isDigit)
    | rest => ([], rest)
  if whole.isEmpty && fraction.isEmpty then none
  else
    let value := (whole ++ fraction).foldl (fun n c => n * 10 + (c.toNat - 48)) 0
    some (value, fraction.length, rest)

/-- An exponent part that takes all of the text; without one it is zero. -/
def readExponent : List Char → Option Int
  | [] => some 0
  | e :: cs =>
    if e = 'e' ∨ e = 'E' then
      let (negative, ds) := match cs with
        | '-' :: ds => (true, ds)
        | '+' :: ds => (false, ds)
        | ds => (false, ds)
      if ds.isEmpty || !ds.all Char.isDigit then none
      else
        let n : Int := ds.foldl (fun n c => n * 10 + (c.toNat - 48)) 0
        some (if negative then -n else n)
    else none

/-- A number in decimal notation: a sign, digits with an optional point, an
optional exponent; or a word for infinity or for no number, in any case. -/
def ofChars (cs : List Char) : Option Float := do
  let (negative, cs) := match cs with
    | '-' :: cs => (true, cs)
    | '+' :: cs => (false, cs)
    | cs => (false, cs)
  let word := String.ofList (cs.map Char.toLower)
  if word = "inf" ∨ word = "infinity" then
    return if negative then -(1.0 / 0.0) else 1.0 / 0.0
  if word = "nan" then return 0.0 / 0.0
  let (digits, places, rest) ← readDigits cs
  let exponent ← readExponent rest
  return nearestFloat negative digits (exponent - places)

/-- The number nearest to an integer. -/
def ofInt (n : Int) : Float := nearestFloat (n < 0) n.natAbs 0

/-- The integer that a number is, if it has no fraction. -/
def toInt? (x : Float) : Option Int :=
  if x.isNaN || x.isInf then none
  else
    let b := Binary.ofBits x.toBits
    let n : Option Nat :=
      if 0 ≤ b.exponent then some (b.mantissa * Nat.pow 2 b.exponent.toNat)
      else
        let d := Nat.pow 2 (-b.exponent).toNat
        if b.mantissa % d = 0 then some (b.mantissa / d) else none
    n.map fun n => if x.toBits >>> 63 == 1 then -(n : Int) else n

end ProxyTrial.Decimal
