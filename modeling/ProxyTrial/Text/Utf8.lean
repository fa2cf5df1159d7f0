/-!
# UTF-8

Octet strings are lists of octets.  Decoding takes one character, or one
maximal ill-formed part, at a time: the longest run of octets that starts a
well-formed sequence without completing it, or a single octet.  A strict
reader stops at the first ill-formed part; a lenient one puts U+FFFD in its
place.
-/

namespace ProxyTrial

/-- An octet string. -/
abbrev Bytes := List UInt8

namespace Text

/-- The UTF-8 octets of a text. -/
def utf8 (s : String) : Bytes := s.toUTF8.toList

/-- Why octets are not the UTF-8 form of a character. -/
inductive Utf8Fault where
  /-- The first octet starts no character. -/
  | invalidStart
  /-- An octet that had to continue the character does not. -/
  | invalidContinuation
  /-- The octets end inside the character. -/
  | unexpectedEnd
  deriving DecidableEq, Repr

/-- The wording of a fault. -/
def Utf8Fault.message : Utf8Fault → String
  | .invalidStart => "invalid start byte"
  | .invalidContinuation => "invalid continuation byte"
  | .unexpectedEnd => "unexpected end of data"

/-- What a lead octet asks for: its own contribution to the code point, the
bounds of the octet after it, and how many more octets follow that one. -/
def utf8Lead (b : Nat) : Option (Nat × Nat × Nat × Nat) :=
  if 0xC2 ≤ b ∧ b ≤ 0xDF then some (b - 0xC0, 0x80, 0xBF, 0)
  else if b = 0xE0 then some (0, 0xA0, 0xBF, 1)
  else if b = 0xED then some (0xD, 0x80, 0x9F, 1)
  else if 0xE1 ≤ b ∧ b ≤ 0xEF then some (b - 0xE0, 0x80, 0xBF, 1)
  else if b = 0xF0 then some (0, 0x90, 0xBF, 2)
  else if 0xF1 ≤ b ∧ b ≤ 0xF3 then some (b - 0xF0, 0x80, 0xBF, 2)
  else if b = 0xF4 then some (4, 0x80, 0x8F, 2)
  else none

/-- The outcome of reading one character: its code point or a fault, and the
number of octets it takes. -/
abbrev Utf8Step := Except Utf8Fault Nat × Nat

/-- The octets after the second one of a character: `more` of them are wanted,
`taken` have been read. -/
def utf8Tail : (more acc taken : Nat) → Bytes → Utf8Step
  | 0, acc, taken, _ => (.ok acc, taken)
  | _ + 1, _, taken, [] => (.error .unexpectedEnd, taken)
  | more + 1, acc, taken, b :: bs =>
    if 0x80 ≤ b.toNat ∧ b.toNat ≤ 0xBF then
      utf8Tail more (acc * 64 + (b.toNat - 0x80)) (taken + 1) bs
    else (.error .invalidContinuation, taken)

/-- The first character, or ill-formed part, of `b :: bs`. -/
def utf8Step (b : UInt8) (bs : Bytes) : Utf8Step :=
  if b.toNat < 0x80 then (.ok b.toNat, 1)
  else match utf8Lead b.toNat with
    | none => (.error .invalidStart, 1)
    | some (acc, lo, hi, more) =>
      match bs with
      | [] => (.error .unexpectedEnd, 1)
      | c :: cs =>
        if lo ≤ c.toNat ∧ c.toNat ≤ hi then
          utf8Tail more (acc * 64 + (c.toNat - 0x80)) 2 cs
        else (.error .invalidContinuation, 1)

/-- An octet string that is not UTF-8: where it fails, and how many octets
the ill-formed part takes. -/
structure Utf8Error where
  /-- Why. -/
  fault : Utf8Fault
  /-- The octets before the ill-formed part. -/
  position : Nat
  /-- The octets of the ill-formed part. -/
  width : Nat
  /-- The octet at `position`. -/
  octet : UInt8
  deriving DecidableEq, Repr

/-- Reads characters up to the end or to the first ill-formed part, `position`
octets having been read; `fuel` bounds the number of characters. -/
def utf8Strict : (fuel position : Nat) → Bytes → Except Utf8Error (List Char)
  | 0, _, _ => .ok []
  | _ + 1, _, [] => .ok []
  | fuel + 1, position, b :: bs =>
    match utf8Step b bs with
    | (.ok n, width) =>
      (utf8Strict fuel (position + width) (bs.drop (width - 1))).map (Char.ofNat n :: ·)
    | (.error fault, width) => .error ⟨fault, position, width, b⟩

/-- The text with this UTF-8 form. -/
def ofUtf8 (bs : Bytes) : Except Utf8Error String :=
  (utf8Strict bs.length 0 bs).map String.ofList

/-- Reads characters, each ill-formed part as U+FFFD; `fuel` bounds their
number. -/
def utf8Lenient : (fuel : Nat) → Bytes → List Char
  | 0, _ => []
  | _ + 1, [] => []
  | fuel + 1, b :: bs =>
    match utf8Step b bs with
    | (.ok n, width) => Char.ofNat n :: utf8Lenient fuel (bs.drop (width - 1))
    | (.error _, width) => '\uFFFD' :: utf8Lenient fuel (bs.drop (width - 1))

/-- The text of an octet string, ill-formed parts replaced. -/
def ofUtf8Lenient (bs : Bytes) : String :=
  String.ofList (utf8Lenient bs.length bs)

/-- The wording of a strict reader's complaint. -/
def Utf8Error.message (e : Utf8Error) : String :=
  if e.width ≤ 1 then
    "'utf-8' codec can't decode byte 0x" ++ String.ofList (hex2 e.octet)
      ++ s!" in position {e.position}: " ++ e.fault.message
  else
    s!"'utf-8' codec can't decode bytes in position {e.position}-{e.position + e.width - 1}: "
      ++ e.fault.message
where
  /-- Two hexadecimal digits. -/
  hex2 (b : UInt8) : List Char :=
    let digit (n : Nat) : Char := if n < 10 then Char.ofNat (48 + n) else Char.ofNat (87 + n)
    [digit (b.toNat / 16), digit (b.toNat % 16)]

/-- The text whose characters are the octets, one each. -/
def ofLatin1 (bs : Bytes) : String :=
  String.ofList (bs.map fun b => Char.ofNat b.toNat)

/-- A text of ASCII as octets; characters outside it lose their high bits. -/
def ascii (s : String) : Bytes :=
  s.toList.map fun c => UInt8.ofNat c.toNat

end Text

end ProxyTrial
