import ProxyTrial.Text.Blank
import ProxyTrial.Text.Utf8
/-!
# Punycode

A text is written in ASCII by leaving its ASCII characters as they are and
telling after them where the others have to be inserted.  The others are
inserted in the order of their code points and, for one code point, from left to
right.  The number told for an insertion is how many insertions the order would
have allowed since the one before; it is written with digits whose weights
depend on the numbers before.

## Main definitions

* `Punycode.encode`: a text in ASCII
* `Punycode.decode?`: the text that is written in ASCII
-/

namespace ProxyTrial.Text.Punycode

/-- The digit of a value below 36. -/
def digit (n : Nat) : Char := Char.ofNat (if n < 26 then 97 + n else 48 + (n - 26))

/-- The least value of a digit after which another one follows. -/
def threshold (bias position : Nat) : Nat := min (max (position - bias) 1) 26

/-- The digits of a number; the first of them is at position 36. -/
def digits (bias position n : Nat) : List Char :=
  let t := threshold bias position
  if n < t then [digit n]
  else digit (t + (n - t) % (36 - t)) :: digits bias (position + 36) ((n - t) / (36 - t))
termination_by n
decreasing_by
  have ht : 1 ≤ threshold bias position := by unfold threshold; omega
  have := Nat.div_le_self (n - threshold bias position) (36 - threshold bias position)
  omega

/-- A number cut down until few digits are left for it, with the positions that
this takes away. -/
def cutDown (position n : Nat) : Nat × Nat :=
  if 455 < n then cutDown (position + 36) (n / 35) else (position, n)
termination_by n
decreasing_by omega

/-- The bias after a number was written and so many characters stand. -/
def nextBias (n standing : Nat) (first : Bool) : Nat :=
  let n := if first then n / 700 else n / 2
  let (position, n) := cutDown 0 (n + n / standing)
  position + 36 * n / (n + 38)

/-- How far writing has come. -/
structure Progress where
  written : List Char := []
  /-- The insertions passed over since the one before. -/
  passed : Nat := 0
  bias : Nat := 72
  /-- The characters that stand already. -/
  standing : Nat
  /-- Whether no insertion has been told yet. -/
  first : Bool := true

/-- Passes a character in the turn of a code point: one below it stands
already, and the code point itself is inserted. -/
def Progress.pass (code : Nat) (p : Progress) (c : Char) : Progress :=
  if c.toNat < code then { p with passed := p.passed + 1 }
  else if c.toNat = code then
    { written := p.written ++ digits p.bias 36 p.passed
      passed := 0
      bias := nextBias p.passed (p.standing + 1) p.first
      standing := p.standing + 1
      first := false }
  else p

/-- Inserts all characters with one code point; `last` is the code point before
it in the order. -/
def Progress.insert (cs : List Char) (p : Progress × Nat) (code : Nat) : Progress × Nat :=
  let (p, last) := p
  let p := { p with passed := p.passed + (code - last - 1) * (p.standing + 1) }
  let p := cs.foldl (Progress.pass code) p
  ({ p with passed := p.passed + 1 }, code)

/-- A text in ASCII. -/
def encode (cs : List Char) : List Char :=
  let plain := cs.filter fun c => c.toNat < 128
  let codes := (((cs.map Char.toNat).filter (128 ≤ ·)).mergeSort).eraseDups
  let start : Progress := { standing := plain.length }
  let (p, _) := codes.foldl (Progress.insert cs) (start, 127)
  (if plain.isEmpty then [] else plain ++ ['-']) ++ p.written

/-! ## Reading -/

/-- The value of a digit. -/
def digitValue? (c : Char) : Option Nat :=
  if 'a' ≤ c && c ≤ 'z' then some (c.toNat - 97)
  else if 'A' ≤ c && c ≤ 'Z' then some (c.toNat - 65)
  else if '0' ≤ c && c ≤ '9' then some (c.toNat - 48 + 26)
  else none

/-- The number at the start of digits, the first of which is at a position and
has a weight, and what follows. -/
def number? (bias : Nat) : (position weight : Nat) → List Char → Option (Nat × List Char)
  | _, _, [] => none
  | position, weight, c :: cs => do
    let value ← digitValue? c
    let t := threshold bias position
    if value < t then return (value * weight, cs)
    let (n, rest) ← number? bias (position + 36) (weight * (36 - t)) cs
    return (n + value * weight, rest)

/-- Characters with those inserted that the digits tell; `place` is where the
next one stands at the earliest, and `code` the code point before.  What cannot
be read ends a lenient reading, and makes any other fail.  Every number takes a
digit at least, so `fuel` bounds them. -/
def insertAll? (lenient : Bool) : (fuel : Nat) → (standing : List Char) →
    (code place bias : Nat) → (first : Bool) → List Char → Option (List Char)
  | _, standing, _, _, _, _, [] => some standing
  | 0, standing, _, _, _, _, _ => some standing
  | fuel + 1, standing, code, place, bias, first, digits =>
    match number? bias 36 1 digits with
    | none => if lenient then some standing else none
    | some (n, rest) =>
      let slots := standing.length + 1
      let code := code + (place + n) / slots
      if !code.isValidChar && !lenient then none
      else
        let code := if 0x10FFFF < code then '?'.toNat else code
        let place := (place + n) % slots
        let c := if code.isValidChar then Char.ofNat code else '\uFFFD'
        insertAll? lenient fuel (standing.insertIdx place c) code (place + 1)
          (nextBias n slots first) false rest

/-- What stands in ASCII before the last hyphen, and the digits after it. -/
def parts {α : Type} [BEq α] (hyphen : α) (xs : List α) : List α × List α :=
  let (digits, plain) := Text.cutAt hyphen xs.reverse
  ((plain.getD []).reverse, digits.reverse)

/-- The text that is written in ASCII. -/
def decode? (lenient : Bool) (plain digits : List Char) : Option (List Char) :=
  insertAll? lenient digits.length plain 128 0 72 true digits

end ProxyTrial.Text.Punycode
