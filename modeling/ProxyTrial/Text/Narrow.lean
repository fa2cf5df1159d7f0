import ProxyTrial.Text.Quoted
import ProxyTrial.Text.Utf8
/-!
# Narrow encodings

ASCII and Latin-1 write a character as one octet, its code point.  A text with
a character beyond the last code point of the encoding is refused, and the
refusal names the first run of such characters.
-/

namespace ProxyTrial.Text

/-- The encodings with one octet for a character. -/
inductive Narrow where
  | ascii
  | latin1
  deriving DecidableEq, Repr

/-- The number of code points of an encoding. -/
def Narrow.size : Narrow → Nat
  | .ascii => 128
  | .latin1 => 256

/-- The name of an encoding. -/
def Narrow.name : Narrow → String
  | .ascii => "ascii"
  | .latin1 => "latin-1"

/-- A run of characters that an encoding lacks. -/
structure EncodeError where
  encoding : Narrow
  /-- The first character of the run. -/
  char : Char
  position : Nat
  /-- The number of characters in the run. -/
  length : Nat
  deriving DecidableEq, Repr

/-- A character by its code point. -/
def codePointEscape (c : Char) : String :=
  String.ofList <|
    if c.toNat ≤ 0xFF then '\\' :: 'x' :: hexDigits 2 c.toNat
    else if c.toNat ≤ 0xFFFF then '\\' :: 'u' :: hexDigits 4 c.toNat
    else '\\' :: 'U' :: hexDigits 8 c.toNat

/-- The wording of a refusal. -/
def EncodeError.message (e : EncodeError) : String :=
  let run :=
    if e.length = 1 then s!"character '{codePointEscape e.char}' in position {e.position}"
    else s!"characters in position {e.position}-{e.position + e.length - 1}"
  s!"'{e.encoding.name}' codec can't encode " ++ run
    ++ s!": ordinal not in range({e.encoding.size})"

/-- The octets of characters that follow `position` others. -/
def encodeChars (k : Narrow) (position : Nat) : List Char → Except EncodeError Bytes
  | [] => .ok []
  | c :: cs =>
    if c.toNat < k.size then (encodeChars k (position + 1) cs).map (UInt8.ofNat c.toNat :: ·)
    else .error ⟨k, c, position, 1 + (cs.takeWhile fun d => k.size ≤ d.toNat).length⟩

/-- The octets of a text. -/
def encode (k : Narrow) (s : String) : Except EncodeError Bytes := encodeChars k 0 s.toList

end ProxyTrial.Text
