/-!
# Blank characters

Three sets of blank characters are in use.  Text is trimmed of every Unicode
space, the information separators U+001C to U+001F among them; schema values
are trimmed of the Unicode property `White_Space`, which leaves those four
out; octet strings are trimmed of the six ASCII blanks.
-/

namespace ProxyTrial.Text

/-- The characters with the Unicode property `White_Space`. -/
def isWhiteSpace (c : Char) : Bool :=
  let n := c.toNat
  (0x9 ≤ n && n ≤ 0xD) || n == 0x20 || n == 0x85 || n == 0xA0 || n == 0x1680
    || (0x2000 ≤ n && n ≤ 0x200A) || n == 0x2028 || n == 0x2029 || n == 0x202F
    || n == 0x205F || n == 0x3000

/-- The characters that trimming removes from a text. -/
def isBlank (c : Char) : Bool :=
  (0x1C ≤ c.toNat && c.toNat ≤ 0x1F) || isWhiteSpace c

/-- The octets that trimming removes from an octet string. -/
def isBlankOctet (b : UInt8) : Bool :=
  (9 ≤ b && b ≤ 13) || b == 32

/-- A list without the elements satisfying `p` at either end. -/
def trimBy {α : Type} (p : α → Bool) (xs : List α) : List α :=
  ((xs.dropWhile p).reverse.dropWhile p).reverse

/-- A list without the elements satisfying `p` at its end. -/
def trimEndBy {α : Type} (p : α → Bool) (xs : List α) : List α :=
  (xs.reverse.dropWhile p).reverse

/-- A text without the blanks at either end. -/
def trim (s : String) : String :=
  String.ofList (trimBy isBlank s.toList)

/-- The maximal runs of elements that do not satisfy `p`. -/
def wordsBy {α : Type} (p : α → Bool) : List α → List (List α)
  | [] => []
  | x :: xs =>
    if p x then wordsBy p xs
    else match xs with
      | [] => [[x]]
      | y :: _ =>
        if p y then [x] :: wordsBy p xs
        else match wordsBy p xs with
          | [] => [[x]]
          | w :: ws => (x :: w) :: ws

/-- The pieces of a list between the occurrences of a separator. -/
def splitOnElem {α : Type} [BEq α] (sep : α) : List α → List (List α)
  | [] => [[]]
  | x :: xs =>
    if x == sep then [] :: splitOnElem sep xs
    else match splitOnElem sep xs with
      | [] => [[x]]
      | p :: ps => (x :: p) :: ps

/-- The part of a list before the first occurrence of a separator, and the
part after it if there is one. -/
def cutAt {α : Type} [BEq α] (sep : α) : List α → List α × Option (List α)
  | [] => ([], none)
  | x :: xs =>
    if x == sep then ([], some xs)
    else let (before, after) := cutAt sep xs; (x :: before, after)

end ProxyTrial.Text
