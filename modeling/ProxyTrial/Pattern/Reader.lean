import ProxyTrial.Pattern.Error
import ProxyTrial.Pattern.Tree
/-!
# Reading a pattern token by token

A token of a pattern is a character, or a backslash with the character after
it.  The reader looks one token ahead, and a lone backslash at the end is a
fault as soon as it comes into sight.
-/

namespace ProxyTrial.Pattern

/-- A token of a pattern. -/
inductive Token where
  | plain (c : Char)
  | escaped (c : Char)
  deriving DecidableEq, Repr

/-- The characters of a token. -/
def Token.chars : Token → List Char
  | plain c => [c]
  | escaped c => ['\\', c]

/-- The text of a token. -/
def Token.text (t : Token) : String := String.ofList t.chars

/-- What is left of a pattern: the next token and the characters after it. -/
structure Reader where
  /-- The whole pattern. -/
  source : String
  /-- The token in sight, if the pattern goes on. -/
  next : Option Token
  /-- The characters after that token. -/
  rest : List Char
  /-- The number of characters before `rest`. -/
  index : Nat
  deriving Repr

/-- What is known of the groups and the switches while a pattern is read. -/
structure Progress where
  reader : Reader
  /-- The switches of the whole pattern. -/
  flags : Flags := {}
  /-- The named groups, newest first. -/
  names : List (String × Nat) := []
  /-- The widths of the groups that are closed; the whole pattern is group 0. -/
  widths : Array (Option Width) := #[none]
  /-- The number of groups when the outermost lookbehind began. -/
  lookbehind : Option Nat := none
  /-- The groups that conditions ask for by number, with the places. -/
  conditions : List (Nat × Nat) := []
  deriving Repr

/-- A step in reading a pattern. -/
abbrev Reading := StateT Progress (Except PatternError)

namespace Reader

/-- The characters before the token in sight. -/
def position (r : Reader) : Nat :=
  r.index - match r.next with
    | none => 0
    | some t => t.chars.length

/-- The reader with the next token in sight. -/
def advance (r : Reader) : Except PatternError Reader :=
  match r.rest with
  | [] => .ok { r with next := none }
  | ['\\'] => .error (.faultAt .trailingBackslash r.source r.index)
  | '\\' :: c :: cs => .ok { r with next := some (.escaped c), rest := cs, index := r.index + 2 }
  | c :: cs => .ok { r with next := some (.plain c), rest := cs, index := r.index + 1 }

/-- The reader of a pattern, at its start. -/
def ofText (source : String) : Except PatternError Reader :=
  advance ⟨source, none, source.toList, 0⟩

end Reader

namespace Reading

/-- Refuses the pattern for a fault at a place. -/
def failAt {α : Type} (fault : Fault) (position : Nat) : Reading α := do
  throw (.faultAt fault (← get).reader.source position)

/-- Refuses the pattern for a fault this many characters back. -/
def fail {α : Type} (fault : Fault) (back : Nat := 0) : Reading α := do
  failAt fault ((← get).reader.position - back)

/-- The characters before the token in sight. -/
def position : Reading Nat := return (← get).reader.position

/-- The token in sight. -/
def peek : Reading (Option Token) := return (← get).reader.next

/-- Takes the token in sight. -/
def take : Reading (Option Token) := do
  let s ← get
  set { s with reader := ← s.reader.advance }
  return s.reader.next

/-- Takes the token in sight if it is the given character. -/
def accept (c : Char) : Reading Bool := do
  if (← peek) = some (.plain c) then
    let _ ← take
    return true
  return false

/-- Takes at most `n` characters of a set. -/
def takeSome (among : Char → Bool) : (n : Nat) → Reading (List Char)
  | 0 => return []
  | n + 1 => do
    match ← peek with
    | some (.plain c) =>
      if among c then
        let _ ← take
        return c :: (← takeSome among n)
      else return []
    | _ => return []

/-- Takes the decimal digits in sight; `fuel` bounds their number. -/
def takeDigits : Reading (List Char) := do
  takeSome Char.isDigit ((← get).reader.rest.length + 1)

/-- Takes a name up to its terminator; `fuel` bounds the number of tokens, and
`name` is what has been read. -/
def nameUntil (terminator : Char) (what : String) :
    (fuel : Nat) → (name : List Char) → Reading (List Char)
  | 0, name => return name
  | fuel + 1, name => do
    match ← take with
    | none =>
      if name.isEmpty then fail (.missing what)
      else fail (.unterminatedName (String.singleton terminator)) name.length
    | some t =>
      if t = .plain terminator then
        if name.isEmpty then fail (.missing what) 1
        return name
      nameUntil terminator what fuel (name ++ t.chars)

/-- Takes a name up to its terminator. -/
def takeName (terminator : Char) (what : String) : Reading (List Char) := do
  nameUntil terminator what ((← get).reader.rest.length + 2) []

/-- The widths of the groups so far. -/
def widths : Reading (Array (Option Width)) := return (← get).widths

/-- Whether a group exists and is closed. -/
def isClosed (group : Nat) : Reading Bool := do
  return match (← get).widths[group]? with
    | some (some _) => true
    | _ => false

/-- Checks that a lookbehind refers to no group of its own. -/
def checkLookbehind (group : Nat) : Reading Unit := do
  match (← get).lookbehind with
  | none => return
  | some groups =>
    if !(← isClosed group) then fail .openGroup
    if groups ≤ group then fail .lookbehindGroup

end Reading

end ProxyTrial.Pattern
