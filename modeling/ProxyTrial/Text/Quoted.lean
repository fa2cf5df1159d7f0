import ProxyTrial.Text.Printable
/-!
# Quoted text in messages

A message shows a text between quotation marks in a form that fits on one
line.  The mark is the apostrophe, unless the text has an apostrophe and no
double quote.  The mark and the backslash are escaped by a backslash; tab,
line feed and carriage return have short escapes; any other character that is
not printable is written by its code point in hexadecimal.  Octet strings are
quoted alike, with every octet outside printable ASCII in hexadecimal.
-/

namespace ProxyTrial.Text

/-- The digit of a value below sixteen, in lower case. -/
def hexDigit (n : Nat) : Char :=
  if n < 10 then Char.ofNat (48 + n) else Char.ofNat (87 + n)

/-- The last `width` hexadecimal digits of a number. -/
def hexDigits : (width : Nat) → Nat → List Char
  | 0, _ => []
  | width + 1, n => hexDigits width (n / 16) ++ [hexDigit (n % 16)]

/-- The quotation mark for a text of these characters. -/
def quoteMark (cs : List Char) : Char :=
  if cs.contains '\'' && !cs.contains '"' then '"' else '\''

/-- A character as it stands between the marks `mark`. -/
def escapeChar (mark c : Char) : List Char :=
  if c = mark || c = '\\' then ['\\', c]
  else if c = '\t' then ['\\', 't']
  else if c = '\n' then ['\\', 'n']
  else if c = '\r' then ['\\', 'r']
  else if isPrintable c then [c]
  else if c.toNat ≤ 0xFF then '\\' :: 'x' :: hexDigits 2 c.toNat
  else if c.toNat ≤ 0xFFFF then '\\' :: 'u' :: hexDigits 4 c.toNat
  else '\\' :: 'U' :: hexDigits 8 c.toNat

/-- The characters of a quoted text, marks included. -/
def quotedChars (cs : List Char) : List Char :=
  let mark := quoteMark cs
  mark :: cs.flatMap (escapeChar mark) ++ [mark]

/-- A text between quotation marks. -/
def quoted (s : String) : String :=
  String.ofList (quotedChars s.toList)

/-- An octet as it stands between the marks `mark`. -/
def escapeOctet (mark : Char) (b : UInt8) : List Char :=
  let c := Char.ofNat b.toNat
  if b.toNat < 0x7F then escapeChar mark c else '\\' :: 'x' :: hexDigits 2 b.toNat

/-- An octet string between quotation marks, with the letter `b` before them. -/
def quotedOctets (bs : List UInt8) : String :=
  let mark := quoteMark (bs.map fun b => Char.ofNat b.toNat)
  String.ofList ('b' :: mark :: bs.flatMap (escapeOctet mark) ++ [mark])

end ProxyTrial.Text
