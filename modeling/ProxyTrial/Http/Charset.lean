import ProxyTrial.Http.CodePage
import ProxyTrial.Text.Punycode
import ProxyTrial.Text.Quoted
/-!
# Character sets of message bodies

A body is turned into text by the character set that its content type names.
What a set cannot read becomes U+FFFD.  Units of several octets without their
mark are a fault, and so is a name of a coding that is none of texts.

## Main definitions

* `Charset.ofName?`: the character set with a name
* `Charset.decode`: the text of octets
-/

namespace ProxyTrial.Http

/-- Why octets are no text. -/
inductive TextFault where
  /-- They do not begin with the mark that tells the order in units of so many
  bits. -/
  | missingMark (bits : Nat)
  /-- What turns octets into text breaks down. -/
  | codec (reason : String)
  deriving DecidableEq, Repr

/-- The wording of the fault. -/
def TextFault.message : TextFault → String
  | missingMark bits => s!"UTF-{bits} stream does not start with BOM"
  | codec reason => reason

/-- A character set. -/
inductive Charset where
  | utf8
  /-- UTF-8 whose text may begin with a mark that does not count. -/
  | utf8Marked
  | latin1
  | ascii
  /-- Sixteen bits a unit; without a given order a mark tells it. -/
  | utf16 (bigEndian : Option Bool)
  /-- Thirty-two bits a unit. -/
  | utf32 (bigEndian : Option Bool)
  | codePage (page : CodePage)
  /-- The ASCII writing of names beyond ASCII. -/
  | punycode
  /-- A coding that is known by name and reads no text. -/
  | textless (reason : String)

/-- The names of the Unicode sets and their parts, in small letters with
underscores. -/
def unicodeNames : List (List String × Charset) := [
  (["cp65001", "u8", "utf", "utf8", "utf8_ucs2", "utf8_ucs4", "utf_8"], .utf8),
  (["utf_8_sig"], .utf8Marked),
  (["646", "ansi_x3.4_1968", "ansi_x3.4_1986", "ansi_x3_4_1968", "ascii", "cp367", "csascii",
    "ibm367", "iso646_us", "iso_646.irv_1991", "iso_ir_6", "us", "us_ascii"], .ascii),
  (["u16", "utf16", "utf_16"], .utf16 none),
  (["unicodelittleunmarked", "utf_16_le", "utf_16le"], .utf16 (some false)),
  (["unicodebigunmarked", "utf_16_be", "utf_16be"], .utf16 (some true)),
  (["u32", "utf32", "utf_32"], .utf32 none),
  (["utf_32_le", "utf_32le"], .utf32 (some false)),
  (["utf_32_be", "utf_32be"], .utf32 (some true)),
  (["8859", "cp819", "csisolatin1", "ibm819", "iso8859", "iso8859_1", "iso_8859_1",
    "iso_8859_1_1987", "iso_ir_100", "l1", "latin", "latin1", "latin_1"], .latin1),
  (["charmap"], .latin1),
  (["punycode"], .punycode)]

/-- The names of codings that are none of texts. -/
def textlessNames : List (List String × Charset) := [
  (["base64", "base_64", "base64_codec", "bz2", "bz2_codec", "hex", "hex_codec", "quopri",
    "quoted_printable", "quotedprintable", "quopri_codec", "uu", "uu_codec", "zip", "zlib",
    "zlib_codec"], .textless ""),
  (["rot13", "rot_13"],
    .textless "descriptor 'translate' for 'str' objects doesn't apply to a 'bytes' object"),
  (["idna"], .textless "Unsupported error handling replace"),
  (["undefined"], .textless "undefined encoding")]

/-- The names of all character sets. -/
def charsetNames : List (List String × Charset) :=
  unicodeNames ++ codePages.map (fun page => (page.names, .codePage page)) ++ textlessNames

/-- A name in small letters with single underscores between its words. -/
def normalizedName (s : String) : String :=
  let separates := fun c : Char => !(c.isAlphanum || c == '.')
  let words := Text.wordsBy separates s.toList
  "_".intercalate (words.map fun w => String.ofList (w.map Char.toLower))

/-- The character set with a name. -/
def Charset.ofName? (name : String) : Option Charset :=
  let name := normalizedName name
  let plain := String.ofList (name.toList.map fun c => if c == '.' then '_' else c)
  ((charsetNames.find? fun (names, _) => names.contains name)
    <|> (charsetNames.find? fun (names, _) => names.contains plain)).map (·.2)

/-- The replacement for what cannot be read. -/
def replacement : Char := '\uFFFD'

/-- The units of two octets; a lone octet at the end is none. -/
def units16 (big : Bool) : Bytes → List (Option Nat)
  | a :: b :: rest =>
    some (if big then a.toNat * 256 + b.toNat else b.toNat * 256 + a.toNat) :: units16 big rest
  | [_] => [none]
  | [] => []

/-- A unit that stands for itself; surrogates stand for nothing. -/
def loneUnit (u : Nat) : Char := if u.isValidChar then Char.ofNat u else replacement

/-- The characters of sixteen-bit units. -/
def decodeUnits16 : List (Option Nat) → List Char
  | [] => []
  | none :: us => replacement :: decodeUnits16 us
  | [some u] => [loneUnit u]
  | some h :: none :: us =>
    if 0xD800 ≤ h ∧ h < 0xDC00 then replacement :: decodeUnits16 us
    else loneUnit h :: decodeUnits16 (none :: us)
  | some h :: some l :: us =>
    if 0xD800 ≤ h ∧ h < 0xDC00 ∧ 0xDC00 ≤ l ∧ l < 0xE000 then
      Char.ofNat (0x10000 + (h - 0xD800) * 0x400 + (l - 0xDC00)) :: decodeUnits16 us
    else loneUnit h :: decodeUnits16 (some l :: us)

/-- The characters of thirty-two-bit units. -/
def decodeUnits32 (big : Bool) : Bytes → List Char
  | a :: b :: c :: d :: rest =>
    let n := if big then ((a.toNat * 256 + b.toNat) * 256 + c.toNat) * 256 + d.toNat
      else ((d.toNat * 256 + c.toNat) * 256 + b.toNat) * 256 + a.toNat
    (if n.isValidChar then Char.ofNat n else replacement) :: decodeUnits32 big rest
  | [] => []
  | _ => [replacement]

/-- The text of units whose order a mark tells, when there is none.  Fewer
octets than a unit has are only a text that cannot be read. -/
def decodeUnmarked (bits : Nat) (bs : Bytes) : Except TextFault String :=
  if bs.length * 8 < bits then .ok (String.singleton replacement) else .error (.missingMark bits)

/-- The characters of ASCII octets. -/
def asciiChars (bs : Bytes) : List Char :=
  bs.map fun b => if b < 128 then Char.ofNat b.toNat else replacement

/-- The text that octets write in ASCII; its digits have to be ASCII. -/
def decodePunycode (bs : Bytes) : Except TextFault String :=
  let (plain, digits) := Text.Punycode.parts 45 bs
  match digits.find? (128 ≤ ·) with
  | some b =>
    let position := (digits.takeWhile (· < 128)).length
    .error (.codec (s!"'ascii' codec can't decode byte 0x{String.ofList (Text.hexDigits 2 b.toNat)}"
      ++ s!" in position {position}: ordinal not in range(128)"))
  | none =>
    let text := Text.Punycode.decode? true (asciiChars plain) (asciiChars digits)
    .ok (String.ofList (text.getD []))

/-- The text of octets in a character set.  No octets are no text in any. -/
def Charset.decode (k : Charset) (bs : Bytes) : Except TextFault String :=
  match k, bs with
  | _, [] => .ok ""
  | .utf8, bs => .ok (Text.ofUtf8Lenient bs)
  | .utf8Marked, 0xEF :: 0xBB :: 0xBF :: rest => .ok (Text.ofUtf8Lenient rest)
  | .utf8Marked, bs => .ok (Text.ofUtf8Lenient bs)
  | .latin1, bs => .ok (Text.ofLatin1 bs)
  | .ascii, bs => .ok (String.ofList (asciiChars bs))
  | .utf16 (some big), bs => .ok (String.ofList (decodeUnits16 (units16 big bs)))
  | .utf16 none, 0xFE :: 0xFF :: rest => .ok (String.ofList (decodeUnits16 (units16 true rest)))
  | .utf16 none, 0xFF :: 0xFE :: rest => .ok (String.ofList (decodeUnits16 (units16 false rest)))
  | .utf16 none, bs => decodeUnmarked 16 bs
  | .utf32 (some big), bs => .ok (String.ofList (decodeUnits32 big bs))
  | .utf32 none, 0 :: 0 :: 0xFE :: 0xFF :: rest => .ok (String.ofList (decodeUnits32 true rest))
  | .utf32 none, 0xFF :: 0xFE :: 0 :: 0 :: rest => .ok (String.ofList (decodeUnits32 false rest))
  | .utf32 none, bs => decodeUnmarked 32 bs
  | .codePage page, bs => .ok (page.decode bs)
  | .punycode, bs => decodePunycode bs
  | .textless reason, _ => .error (.codec reason)

end ProxyTrial.Http
