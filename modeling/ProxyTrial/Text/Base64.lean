import ProxyTrial.Text.Utf8
/-!
# Base64

Three octets are written as four characters out of sixty-four; equals signs
fill up the last group.  In reading, all other characters are passed over.
-/

namespace ProxyTrial.Text

/-- The character for a value below sixty-four. -/
def base64Digit (n : Nat) : Char :=
  if n < 26 then Char.ofNat (65 + n)
  else if n < 52 then Char.ofNat (71 + n)
  else if n < 62 then Char.ofNat (n - 4)
  else if n = 62 then '+'
  else '/'

/-- Octets in Base64. -/
def base64 : Bytes → List Char
  | [] => []
  | [a] =>
    let n := a.toNat * 16
    [base64Digit (n / 64), base64Digit (n % 64), '=', '=']
  | [a, b] =>
    let n := (a.toNat * 256 + b.toNat) * 4
    [base64Digit (n / 4096), base64Digit (n / 64 % 64), base64Digit (n % 64), '=']
  | a :: b :: c :: rest =>
    let n := (a.toNat * 256 + b.toNat) * 256 + c.toNat
    base64Digit (n / 262144) :: base64Digit (n / 4096 % 64) :: base64Digit (n / 64 % 64)
      :: base64Digit (n % 64) :: base64 rest

/-- The value below sixty-four that a character stands for. -/
def base64Value? (c : Char) : Option Nat :=
  if c.isUpper then some (c.toNat - 65)
  else if c.isLower then some (c.toNat - 71)
  else if c.isDigit then some (c.toNat + 4)
  else if c = '+' then some 62
  else if c = '/' then some 63
  else none

/-- The octets that Base64 stands for, after a group of which `count`
characters with the value `group` and then `pads` equals signs are read.  The
text ends at the equals sign that completes a group; there is no result if a
group is not complete. -/
def ofBase64From (group count pads : Nat) : List Char → Option Bytes
  | [] => if count = 0 then some [] else none
  | c :: cs =>
    if c = '=' then
      if count < 2 then ofBase64From group count pads cs
      else if 4 ≤ count + pads + 1 then some []
      else ofBase64From group count (pads + 1) cs
    else match base64Value? c with
      | none => ofBase64From group count pads cs
      | some v =>
        let n := group * 64 + v
        if count = 0 then ofBase64From v 1 0 cs
        else if count = 1 then (ofBase64From (v % 16) 2 0 cs).map (UInt8.ofNat (n / 16) :: ·)
        else if count = 2 then (ofBase64From (v % 4) 3 0 cs).map (UInt8.ofNat (n / 4) :: ·)
        else (ofBase64From 0 0 0 cs).map (UInt8.ofNat n :: ·)

/-- The octets that Base64 stands for. -/
def ofBase64 (cs : List Char) : Option Bytes := ofBase64From 0 0 0 cs

end ProxyTrial.Text
