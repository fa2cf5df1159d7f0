import ProxyTrial.Script.Token
/-!
# Cutting a script into lexemes

A lexeme is a piece of the script together with what it is: a run of blanks, a
run of name characters, a quoted string, a comment, or a single other
character.  The lexemes of a script are pieces of it in order.
-/

namespace ProxyTrial.Script

/-- Whether the character is a blank or ends a line. -/
def isLayout (c : Char) : Bool := c == ' ' || c == '\t' || c == '\r' || c == '\n'

/-- Whether the character belongs to names, flags and integers. -/
def isNameChar (c : Char) : Bool := c.isAlphanum || c == '-' || c == '_'

/-- What a piece of a script is. -/
inductive LexemeKind where
  | layout
  | word
  /-- A string; `closed` says whether its closing quote is there. -/
  | string (closed : Bool)
  /-- A comment; `closed` says whether a line feed ends it. -/
  | comment (closed : Bool)
  | mark
  deriving DecidableEq, Repr

/-- A piece of a script. -/
structure Lexeme where
  kind : LexemeKind
  /-- The characters of the piece, quotes and line feed included. -/
  chars : List Char
  deriving DecidableEq, Repr

/-- The characters up to and including the first `stop`, whether there is one,
and the characters after it. -/
def upTo (stop : Char) : List Char → List Char × Bool × List Char
  | [] => ([], false, [])
  | c :: cs =>
    if c = stop then ([c], true, cs)
    else let (before, found, after) := upTo stop cs; (c :: before, found, after)

/-- The lexeme at the start of `c :: cs`, and the characters after it. -/
def lexeme (c : Char) (cs : List Char) : Lexeme × List Char :=
  if isLayout c then (⟨.layout, c :: cs.takeWhile isLayout⟩, cs.dropWhile isLayout)
  else if isNameChar c then (⟨.word, c :: cs.takeWhile isNameChar⟩, cs.dropWhile isNameChar)
  else if c = '"' then
    let (text, closed, rest) := upTo '"' cs
    (⟨.string closed, c :: text⟩, rest)
  else if c = '#' then
    let (text, closed, rest) := upTo '\n' cs
    (⟨.comment closed, c :: text⟩, rest)
  else (⟨.mark, [c]⟩, cs)

/-- The lexemes of a script, at most `fuel` of them. -/
def lexemesUpTo : (fuel : Nat) → List Char → List Lexeme
  | 0, _ => []
  | _ + 1, [] => []
  | fuel + 1, c :: cs =>
    let (l, rest) := lexeme c cs
    l :: lexemesUpTo fuel rest

/-- The lexemes of a script. -/
def lexemes (cs : List Char) : List Lexeme := lexemesUpTo cs.length cs

/-! ## Nothing is lost -/

theorem upTo_append (stop : Char) (cs : List Char) :
    (upTo stop cs).1 ++ (upTo stop cs).2.2 = cs := by
  induction cs with
  | nil => rfl
  | cons c cs ih =>
    by_cases h : c = stop
    · simp [upTo, h]
    · simp [upTo, h, ih]

theorem lexeme_append (c : Char) (cs : List Char) :
    (lexeme c cs).1.chars ++ (lexeme c cs).2 = c :: cs := by
  unfold lexeme
  split
  · simp
  · split
    · simp
    · split
      · simp [upTo_append]
      · split
        · simp [upTo_append]
        · simp

theorem lexeme_chars_ne_nil (c : Char) (cs : List Char) : (lexeme c cs).1.chars ≠ [] := by
  unfold lexeme
  split
  · simp
  · split
    · simp
    · split
      · simp
      · split
        · simp
        · simp

theorem length_lexeme_rest (c : Char) (cs : List Char) :
    (lexeme c cs).2.length ≤ cs.length := by
  have h := congrArg List.length (lexeme_append c cs)
  have hne := lexeme_chars_ne_nil c cs
  have hpos : 0 < (lexeme c cs).1.chars.length := List.length_pos_iff.2 hne
  simp only [List.length_append, List.length_cons] at h
  omega

end ProxyTrial.Script
