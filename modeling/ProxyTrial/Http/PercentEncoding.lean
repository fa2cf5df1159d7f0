import ProxyTrial.Text.Integer
import ProxyTrial.Text.Quoted
import ProxyTrial.Text.Utf8
/-!
# Percent-encoding

A component of a URL is written in printable ASCII.  Which characters stand for
themselves depends on the component; any other is written as its UTF-8 octets,
each a percent sign and two hexadecimal digits.  The percent sign itself always
stands, so that text that is encoded already is left alone.
-/

namespace ProxyTrial.Http

/-- An octet as a percent sign and two digits. -/
def percentOctet (b : UInt8) : List Char :=
  '%' :: (Text.hexDigits 2 b.toNat).map Char.toUpper

/-- A character in a component where the characters in `safe` stand for
themselves. -/
def percentChar (safe : Char → Bool) (c : Char) : List Char :=
  if safe c then [c] else (Text.utf8 c.toString).flatMap percentOctet

/-- A component of a URL. -/
def percentEncode (safe : Char → Bool) (cs : List Char) : String :=
  String.ofList (cs.flatMap (percentChar safe))

/-- The octets of percent-encoded ASCII text; a percent sign without two digits
stands for itself. -/
def percentOctets : List Char → Bytes
  | [] => []
  | '%' :: a :: b :: cs =>
    match Text.hexValue? a, Text.hexValue? b with
    | some x, some y => UInt8.ofNat (x * 16 + y) :: percentOctets cs
    | _, _ => 37 :: percentOctets (a :: b :: cs)
  | c :: cs => UInt8.ofNat c.toNat :: percentOctets cs

/-- The text that percent-encoded text stands for, ill-formed octets
replaced. -/
def percentDecode (s : String) : String := Text.ofUtf8Lenient (percentOctets s.toList)

/-- Whether a character is printable ASCII other than a space and those
listed. -/
def isPrintableExcept (excluded : List Char) (c : Char) : Bool :=
  '!' ≤ c && c ≤ '~' && !excluded.contains c

/-- The characters that stand for themselves in a fragment. -/
def isFragmentSafe (c : Char) : Bool := isPrintableExcept ['"', '<', '>', '\x60'] c

/-- The characters that stand for themselves in a query. -/
def isQuerySafe (c : Char) : Bool := isPrintableExcept ['"', '#', '<', '>'] c

/-- The characters that stand for themselves in a path. -/
def isPathSafe (c : Char) : Bool :=
  isQuerySafe c && isPrintableExcept ['?', '\x60', '\x7b', '\x7d'] c

/-- The characters that stand for themselves in a user name and password. -/
def isUserSafe (c : Char) : Bool :=
  isPathSafe c && isPrintableExcept ['/', ';', '=', '@', '[', '\\', ']', '^', '|'] c

/-- The characters that stand for themselves in a host. -/
def isHostSafe (c : Char) : Bool :=
  c.isAlphanum || "-._~!$&'()*+,;=\"\x60\x7b\x7d%|\\".toList.contains c

end ProxyTrial.Http
