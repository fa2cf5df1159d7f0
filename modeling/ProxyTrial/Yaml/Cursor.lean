import ProxyTrial.Yaml.Fault
/-!
# A place in a YAML text

A cursor stands between two characters of a text and knows how far it is into
the text and into its line.  Past the end of the text it sees null characters,
which no text holds.
-/

namespace ProxyTrial.Yaml

/-- Whether a character ends a line. -/
def isBreak (c : Char) : Bool :=
  c == '\n' || c == '\r' || c == '\u0085' || c == '\u2028' || c == '\u2029'

/-- Whether a line ends at a character, or the text. -/
def endsLine (c : Char) : Bool := c == '\x00' || isBreak c

/-- Whether a character is a space, or a line ends at it. -/
def isSpaceOrEnd (c : Char) : Bool := c == ' ' || endsLine c

/-- Whether a character is a space or a tab, or a line ends at it. -/
def isBlankOrEnd (c : Char) : Bool := c == '\t' || isSpaceOrEnd c

/-- Whether a character may be in a YAML text. -/
def isAllowed (c : Char) : Bool :=
  let n := c.toNat
  n == 9 || n == 10 || n == 13 || (0x20 ≤ n && n ≤ 0x7E) || n == 0x85
    || (0xA0 ≤ n && n ≤ 0xD7FF) || (0xE000 ≤ n && n ≤ 0xFFFD) || 0x10000 ≤ n

/-- Whether a character may be in the name of an anchor or a tag handle. -/
def isNamePart (c : Char) : Bool := c.isAlphanum || c == '-' || c == '_'

/-- A place in a text. -/
structure Cursor where
  /-- The characters from here on. -/
  rest : List Char
  /-- The number of characters before this place. -/
  index : Nat := 0
  /-- The number of lines before this one. -/
  line : Nat := 0
  /-- The number of characters before this place in its line; byte order
  marks do not count. -/
  column : Nat := 0

namespace Cursor

/-- The next character. -/
def head (c : Cursor) : Char := c.rest.headD '\x00'

/-- The character that comes after `n` others. -/
def ahead (n : Nat) (c : Cursor) : Char := c.rest.getD n '\x00'

/-- The place after the next character. -/
def next (c : Cursor) : Cursor :=
  match c.rest with
  | [] => c
  | x :: rest =>
    if isBreak x && !(x == '\r' && rest.headD '\x00' == '\n') then
      ⟨rest, c.index + 1, c.line + 1, 0⟩
    else if x == '\uFEFF' then ⟨rest, c.index + 1, c.line, c.column⟩
    else ⟨rest, c.index + 1, c.line, c.column + 1⟩

/-- The place after `n` characters. -/
def skip : (n : Nat) → Cursor → Cursor
  | 0, c => c
  | n + 1, c => skip n c.next

/-- The characters satisfying `p` from here on, and the place after them. -/
def span (p : Char → Bool) (c : Cursor) : List Char × Cursor :=
  let taken := c.rest.takeWhile p
  (taken, c.skip taken.length)

/-- The place after the characters satisfying `p`. -/
def skipWhile (p : Char → Bool) (c : Cursor) : Cursor := (c.span p).2

/-- The place after the spaces from here on. -/
def skipSpaces (c : Cursor) : Cursor := c.skipWhile (· == ' ')

/-- The place after spaces from here on, none of them at `column` or later. -/
def skipIndent (column : Nat) (c : Cursor) : Cursor :=
  c.skip (min (column - c.column) (c.rest.takeWhile (· == ' ')).length)

/-- The line break at this place, as it counts in a scalar, and the place after
it. -/
def lineBreak (c : Cursor) : List Char × Cursor :=
  match c.rest with
  | '\r' :: '\n' :: _ => (['\n'], c.skip 2)
  | x :: _ =>
    if x == '\n' || x == '\r' || x == '\u0085' then (['\n'], c.next)
    else if isBreak x then ([x], c.next) else ([], c)
  | [] => ([], c)

/-- Whether a marker that starts or ends a document stands here. -/
def atMarker (c : Cursor) : Bool :=
  (['-', '-', '-'].isPrefixOf c.rest || ['.', '.', '.'].isPrefixOf c.rest)
    && isBlankOrEnd (c.ahead 3)

end Cursor

end ProxyTrial.Yaml
