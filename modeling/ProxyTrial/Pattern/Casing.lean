import ProxyTrial.Pattern.Tree
import ProxyTrial.Text.Blank
import ProxyTrial.Text.Letter
import ProxyTrial.Text.Lower
/-!
# Letter case and classes in patterns

A pattern that ignores case compares small letters.  Two small letters that
share a capital are the same to it, and so a letter stands for all characters
whose small letter is one of a few.  Sets and letters without any case are
compared as they are.
-/

namespace ProxyTrial.Pattern

/-- Small letters, each with the other small letters that share its capital. -/
def siblingTable : List (Nat × List Nat) := [
  (0x69, [0x131]), (0x73, [0x17F]), (0xB5, [0x3BC]), (0x131, [0x69]), (0x17F, [0x73]),
  (0x345, [0x3B9, 0x1FBE]), (0x390, [0x1FD3]), (0x3B0, [0x1FE3]), (0x3B2, [0x3D0]), (0x3B5, [0x3F5]),
  (0x3B8, [0x3D1]), (0x3B9, [0x345, 0x1FBE]), (0x3BA, [0x3F0]), (0x3BC, [0xB5]), (0x3C0, [0x3D6]),
  (0x3C1, [0x3F1]), (0x3C2, [0x3C3]), (0x3C3, [0x3C2]), (0x3C6, [0x3D5]), (0x3D0, [0x3B2]),
  (0x3D1, [0x3B8]), (0x3D5, [0x3C6]), (0x3D6, [0x3C0]), (0x3F0, [0x3BA]), (0x3F1, [0x3C1]),
  (0x3F5, [0x3B5]), (0x432, [0x1C80]), (0x434, [0x1C81]), (0x43E, [0x1C82]), (0x441, [0x1C83]),
  (0x442, [0x1C84, 0x1C85]), (0x44A, [0x1C86]), (0x463, [0x1C87]), (0x1C80, [0x432]), (0x1C81, [0x434]),
  (0x1C82, [0x43E]), (0x1C83, [0x441]), (0x1C84, [0x442, 0x1C85]), (0x1C85, [0x442, 0x1C84]), (0x1C86, [0x44A]),
  (0x1C87, [0x463]), (0x1C88, [0xA64B]), (0x1E61, [0x1E9B]), (0x1E9B, [0x1E61]), (0x1FBE, [0x345, 0x3B9]),
  (0x1FD3, [0x390]), (0x1FE3, [0x3B0]), (0xA64B, [0x1C88]), (0xFB05, [0xFB06]), (0xFB06, [0xFB05])]

/-- The characters with a small or a capital letter other than themselves. -/
def casedTable : Text.CodeRanges := #[
  (0x41, 0x5A), (0x61, 0x7A), (0xB5, 0xB5), (0xC0, 0xD6), (0xD8, 0xF6), (0xF8, 0x137),
  (0x139, 0x18C), (0x18E, 0x19A), (0x19C, 0x1A9), (0x1AC, 0x1B9), (0x1BC, 0x1BD), (0x1BF, 0x1BF),
  (0x1C4, 0x220), (0x222, 0x233), (0x23A, 0x254), (0x256, 0x257), (0x259, 0x259), (0x25B, 0x25C),
  (0x260, 0x261), (0x263, 0x263), (0x265, 0x266), (0x268, 0x26C), (0x26F, 0x26F), (0x271, 0x272),
  (0x275, 0x275), (0x27D, 0x27D), (0x280, 0x280), (0x282, 0x283), (0x287, 0x28C), (0x292, 0x292),
  (0x29D, 0x29E), (0x345, 0x345), (0x370, 0x373), (0x376, 0x377), (0x37B, 0x37D), (0x37F, 0x37F),
  (0x386, 0x386), (0x388, 0x38A), (0x38C, 0x38C), (0x38E, 0x3A1), (0x3A3, 0x3D1), (0x3D5, 0x3F5),
  (0x3F7, 0x3FB), (0x3FD, 0x481), (0x48A, 0x52F), (0x531, 0x556), (0x561, 0x587), (0x10A0, 0x10C5),
  (0x10C7, 0x10C7), (0x10CD, 0x10CD), (0x10D0, 0x10FA), (0x10FD, 0x10FF), (0x13A0, 0x13F5), (0x13F8, 0x13FD),
  (0x1C80, 0x1C88), (0x1C90, 0x1CBA), (0x1CBD, 0x1CBF), (0x1D79, 0x1D79), (0x1D7D, 0x1D7D), (0x1D8E, 0x1D8E),
  (0x1E00, 0x1E9B), (0x1E9E, 0x1E9E), (0x1EA0, 0x1F15), (0x1F18, 0x1F1D), (0x1F20, 0x1F45), (0x1F48, 0x1F4D),
  (0x1F50, 0x1F57), (0x1F59, 0x1F59), (0x1F5B, 0x1F5B), (0x1F5D, 0x1F5D), (0x1F5F, 0x1F7D), (0x1F80, 0x1FB4),
  (0x1FB6, 0x1FBC), (0x1FBE, 0x1FBE), (0x1FC2, 0x1FC4), (0x1FC6, 0x1FCC), (0x1FD0, 0x1FD3), (0x1FD6, 0x1FDB),
  (0x1FE0, 0x1FEC), (0x1FF2, 0x1FF4), (0x1FF6, 0x1FFC), (0x2126, 0x2126), (0x212A, 0x212B), (0x2132, 0x2132),
  (0x214E, 0x214E), (0x2160, 0x217F), (0x2183, 0x2184), (0x24B6, 0x24E9), (0x2C00, 0x2C70), (0x2C72, 0x2C73),
  (0x2C75, 0x2C76), (0x2C7E, 0x2CE3), (0x2CEB, 0x2CEE), (0x2CF2, 0x2CF3), (0x2D00, 0x2D25), (0x2D27, 0x2D27),
  (0x2D2D, 0x2D2D), (0xA640, 0xA66D), (0xA680, 0xA69B), (0xA722, 0xA72F), (0xA732, 0xA76F), (0xA779, 0xA787),
  (0xA78B, 0xA78D), (0xA790, 0xA794), (0xA796, 0xA7AE), (0xA7B0, 0xA7CA), (0xA7D0, 0xA7D1), (0xA7D6, 0xA7D9),
  (0xA7F5, 0xA7F6), (0xAB53, 0xAB53), (0xAB70, 0xABBF), (0xFB00, 0xFB06), (0xFB13, 0xFB17), (0xFF21, 0xFF3A),
  (0xFF41, 0xFF5A), (0x10400, 0x1044F), (0x104B0, 0x104D3), (0x104D8, 0x104FB), (0x10570, 0x1057A), (0x1057C, 0x1058A),
  (0x1058C, 0x10592), (0x10594, 0x10595), (0x10597, 0x105A1), (0x105A3, 0x105B1), (0x105B3, 0x105B9), (0x105BB, 0x105BC),
  (0x10C80, 0x10CB2), (0x10CC0, 0x10CF2), (0x118A0, 0x118DF), (0x16E40, 0x16E7F), (0x1E900, 0x1E943)]

/-- How a pattern compares letters. -/
inductive Casing where
  /-- As they are. -/
  | exact
  /-- Ignoring the case of ASCII letters. -/
  | ascii
  /-- Ignoring the case of all letters. -/
  | full
  deriving DecidableEq, Repr

/-- How the switches in force compare letters. -/
def Flags.casing (f : Flags) : Casing :=
  if !f.ignoreCase then .exact else if f.unicode then .full else .ascii

/-- The small letters that share their capital with a small letter. -/
def siblings (n : Nat) : List Nat := (siblingTable.lookup n).getD []

/-- The small letter of a code point. -/
def lowerCode (n : Nat) : Nat :=
  (n + Text.lowerDistance Text.lowerRuns n 0 Text.lowerRuns.size).toNat

/-- The other code points with this small letter. -/
def capitalsOf (n : Nat) : List Nat :=
  Text.lowerRuns.toList.filterMap fun (first, last, step, distance) =>
    let capital := ((n : Int) - distance).toNat
    if first ≤ capital && capital ≤ last && (capital - first) % step == 0
        && lowerCode capital == n then some capital else none

namespace Casing

/-- The letter that stands for a code point. -/
def lower : Casing → Nat → Nat
  | .exact, n => n
  | .ascii, n => if 65 ≤ n && n ≤ 90 then n + 32 else n
  | .full, n => lowerCode n

/-- Whether case makes a difference to a code point. -/
def isCased : Casing → Nat → Bool
  | .exact, _ => false
  | .ascii, n => (65 ≤ n && n ≤ 90) || (97 ≤ n && n ≤ 122)
  | .full, n => Text.CodeRanges.search casedTable n 0 casedTable.size

/-- The letters that are the same as a small letter. -/
def same : Casing → Nat → List Nat
  | .full, n => n :: siblings n
  | _, n => [n]

/-- Whether a character of the text is the one of the pattern. -/
def charMatches (k : Casing) (code : Nat) (c : Nat) : Bool :=
  if k.isCased code then (k.same (k.lower code)).contains (k.lower c) else c == code

/-- Whether the characters of a text are the same to back references. -/
def sameChar (k : Casing) (c d : Nat) : Bool := k.lower c == k.lower d

/-- The code points that stand for the same letter as a small letter. -/
def spellings : Casing → Nat → List Nat
  | .exact, n => [n]
  | .ascii, n => if 97 ≤ n && n ≤ 122 then [n, n - 32] else [n]
  | .full, n => (n :: siblings n).flatMap fun m => m :: capitalsOf m

end Casing

/-- Whether a code point belongs to a class. -/
def CharClass.holds (ascii : Bool) (cls : CharClass) (n : Nat) : Bool :=
  let c := Char.ofNat n
  match cls with
  | .digit => digit c
  | .notDigit => !digit c
  | .space => space c
  | .notSpace => !space c
  | .word => word c
  | .notWord => !word c
where
  /-- The digits. -/
  digit (c : Char) : Bool := if ascii then c.isDigit else Text.isDecimal c
  /-- The blanks. -/
  space (c : Char) : Bool :=
    if ascii then c == ' ' || (9 ≤ c.toNat && c.toNat ≤ 13) else Text.isBlank c
  /-- The word characters. -/
  word (c : Char) : Bool :=
    if ascii then c.isAlphanum || c == '_' else Text.isWordChar c

/-- The first code point beyond the basic plane. -/
def astral : Nat := 0x10000

namespace SetItem

/-- Whether case makes a difference to a member of a set; members beyond the
basic plane always count. -/
def isCased (k : Casing) : SetItem → Bool
  | .char n => k.isCased n || astral ≤ k.lower n
  | .range first last =>
    astral ≤ last ||
      match k with
      | .exact => false
      | .ascii => (first ≤ 90 && 65 ≤ last) || (first ≤ 122 && 97 ≤ last)
      | .full => casedTable.any fun (lo, hi) => first ≤ hi && lo ≤ last
  | .cls _ => false

/-- Whether a member of a set that ignores case holds of a small letter.
Beyond the basic plane a single member stands for itself alone. -/
def holdsOfSmall (k : Casing) (ascii : Bool) (n : Nat) : SetItem → Bool
  | .char m =>
    if astral ≤ k.lower m then n == m else (k.same (k.lower m)).contains n
  | .range first last =>
    (k.spellings n).any fun m => first ≤ m && m ≤ last
  | .cls c => c.holds ascii n

/-- Whether a member of a set holds of a code point as it is. -/
def holds (ascii : Bool) (n : Nat) : SetItem → Bool
  | .char m => n == m
  | .range first last => first ≤ n && n ≤ last
  | .cls c => c.holds ascii n

end SetItem

/-- Whether one of the members of a set holds of a code point. -/
def setHolds (k : Casing) (ascii : Bool) (items : List SetItem) (n : Nat) : Bool :=
  if k != .exact && items.any (SetItem.isCased k) then
    items.any (SetItem.holdsOfSmall k ascii (k.lower n))
  else items.any (SetItem.holds ascii n)

end ProxyTrial.Pattern
