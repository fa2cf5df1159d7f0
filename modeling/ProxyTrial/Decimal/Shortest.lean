/-!
# The shortest decimal of a binary fraction

A finite number is `mantissa · 2 ^ exponent`.  All reals in an interval around
it are nearest to it; among the decimals in that interval those with the fewest
digits are the short ones, and the nearest of these to the number is shown.
Only natural numbers are compared.
-/

namespace ProxyTrial.Decimal

/-- A finite number that is not negative. -/
structure Binary where
  mantissa : Nat
  exponent : Int
  /-- The next number below is only half as far away as the next one above. -/
  closeBelow : Bool
  deriving DecidableEq, Repr

/-- The number with these bits, its sign aside; infinities and NaN are none. -/
def Binary.ofBits (bits : UInt64) : Binary :=
  let e := ((bits >>> 52) &&& 0x7FF).toNat
  let fraction := (bits &&& 0xFFFFFFFFFFFFF).toNat
  if e = 0 then ⟨fraction, -1074, false⟩
  else ⟨Nat.pow 2 52 + fraction, (e : Int) - 1075, fraction == 0 && e > 1⟩

/-- The decimal `digits · 10 ^ exponent`. -/
structure Short where
  digits : Nat
  exponent : Int
  deriving DecidableEq, Repr

/-- How `a · 10 ^ i` compares with `b · 2 ^ j`. -/
def compareScaled (a : Nat) (i : Int) (b : Nat) (j : Int) : Ordering :=
  compare (a * Nat.pow 10 i.toNat * Nat.pow 2 (-j).toNat)
    (b * Nat.pow 2 j.toNat * Nat.pow 10 (-i).toNat)

namespace Binary

/-- Whether a decimal is nearest to the number; of two numbers equally near the
one with an even mantissa counts. -/
def nearest (x : Binary) (d : Short) : Bool :=
  let quarter := x.exponent - 2
  let below := if x.closeBelow then 4 * x.mantissa - 1 else 4 * x.mantissa - 2
  let even := x.mantissa % 2 == 0
  let low := compareScaled d.digits d.exponent below quarter
  let high := compareScaled d.digits d.exponent (4 * x.mantissa + 2) quarter
  (low == .gt || (even && low == .eq)) && (high == .lt || (even && high == .eq))

/-- The greatest multiple of `10 ^ e` up to the number, in such units. -/
def floorAt (x : Binary) (e : Int) : Nat :=
  (x.mantissa * Nat.pow 2 x.exponent.toNat * Nat.pow 10 (-e).toNat)
    / (Nat.pow 10 e.toNat * Nat.pow 2 (-x.exponent).toNat)

/-- The decimal in units of `10 ^ e` that is nearest to the number, if one of
the number's two neighbours there reads back as the number. -/
def onGrid (x : Binary) (e : Int) : Option Short :=
  let d : Short := ⟨x.floorAt e, e⟩
  let u : Short := ⟨d.digits + 1, e⟩
  match x.nearest d, x.nearest u with
  | false, false => none
  | true, false => some d
  | false, true => some u
  | true, true =>
    match compareScaled (d.digits + u.digits) e (2 * x.mantissa) x.exponent with
    | .gt => some d
    | .lt => some u
    | .eq => if d.digits % 2 = 0 then some d else some u

/-- The first grid from `10 ^ e` downwards, of `fuel` grids, with an answer. -/
def search (x : Binary) : (fuel : Nat) → (e : Int) → Short
  | 0, e => ⟨x.floorAt e, e⟩
  | fuel + 1, e =>
    match x.onGrid e with
    | some d => d
    | none => x.search fuel (e - 1)

/-- The shortest decimal that reads back as the number. -/
def shortest (x : Binary) : Short :=
  if x.mantissa = 0 then ⟨0, 0⟩ else x.search 700 309

end Binary

/-- A decimal without zeros at its end; `fuel` bounds their number. -/
def Short.trimZeros : (fuel : Nat) → Short → Short
  | 0, d => d
  | fuel + 1, d =>
    if d.digits ≠ 0 ∧ d.digits % 10 = 0 then Short.trimZeros fuel ⟨d.digits / 10, d.exponent + 1⟩
    else d

end ProxyTrial.Decimal
