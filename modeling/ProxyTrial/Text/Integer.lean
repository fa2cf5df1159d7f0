import ProxyTrial.Text.Blank
import ProxyTrial.Text.Letter
/-!
# Integers in text

An integer is written in decimal digits of any script, with an optional sign
and blanks around it; single underscores may stand between digits.
-/

namespace ProxyTrial.Text

/-- More digits than this are not read as an integer. -/
def digitLimit : Nat := 4300

/-- The complaint about an integer with too many digits. -/
def tooManyDigits (digits : Nat) : String :=
  s!"Exceeds the limit ({digitLimit} digits) for integer string conversion: "
    ++ s!"value has {digits} digits; use sys.set_int_max_str_digits() to increase the limit"

/-- The digits of a number with single underscores between them; `some []` is
never the answer. -/
def groupedDigits (digit? : Char → Option Nat) : List Char → Option (List Nat)
  | [] => none
  | [c] => (digit? c).map ([·])
  | c :: '_' :: cs => do return (← digit? c) :: (← groupedDigits digit? cs)
  | c :: cs => do return (← digit? c) :: (← groupedDigits digit? cs)

/-- The value of digits, the most significant first. -/
def ofDigits (base : Nat) (ds : List Nat) : Nat :=
  ds.foldl (fun n d => n * base + d) 0

/-- A sign and what comes after it; without one the sign is positive. -/
def splitSign : List Char → Bool × List Char
  | '-' :: cs => (true, cs)
  | '+' :: cs => (false, cs)
  | cs => (false, cs)

/-- The integer that a text holds, if it is one of at most `digitLimit`
digits. -/
def integer? (s : String) : Option Int := do
  let (negative, cs) := splitSign (trimBy isBlank s.toList)
  let ds ← groupedDigits digitValue? cs
  if ds.length > digitLimit then none
  let n : Int := ofDigits 10 ds
  return if negative then -n else n

/-- The value of a hexadecimal digit. -/
def hexValue? (c : Char) : Option Nat :=
  if c.isDigit then some (c.toNat - 48)
  else if 'a' ≤ c && c ≤ 'f' then some (c.toNat - 87)
  else if 'A' ≤ c && c ≤ 'F' then some (c.toNat - 55)
  else none

/-- Whether the character is a hexadecimal digit. -/
def isHexDigit (c : Char) : Bool := (hexValue? c).isSome

/-- The value of hexadecimal digits. -/
def ofHexDigits (cs : List Char) : Nat := ofDigits 16 (cs.filterMap hexValue?)

end ProxyTrial.Text
