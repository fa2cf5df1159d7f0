import ProxyTrial.Text.Quoted
/-!
# Tokens of a script

A token has a kind, a text and the place where it starts.  A message names a
token by its text, or by its kind where the text alone would mislead.
-/

namespace ProxyTrial.Script

/-- A line and a column, both counted from one. -/
structure Place where
  line : Nat
  column : Nat
  deriving DecidableEq, Repr, Inhabited

/-- The place where a script starts. -/
def Place.start : Place := ⟨1, 1⟩

/-- The place after a character. -/
def Place.next (p : Place) (c : Char) : Place :=
  if c = '\n' then ⟨p.line + 1, 1⟩ else ⟨p.line, p.column + 1⟩

/-- The place after a text. -/
def Place.after (p : Place) (cs : List Char) : Place := cs.foldl Place.next p

/-- The kinds of tokens. -/
inductive Kind where
  | endOfScript
  | illegal
  | blank
  | lineBreak
  | string
  | integer
  | dot
  | openBracket
  | closeBracket
  | openBrace
  | closeBrace
  | eq
  | ne
  | tilde
  | handle
  | client
  | expect
  | tx
  | req
  | resp
  | method
  | status
  | headers
  | body
  | bodyFlag
  | statusFlag
  | headerFlag
  | methodFlag
  | urlFlag
  deriving DecidableEq, Repr, Inhabited

/-- A token.  The text of a string is what stands between its quotes. -/
structure Token where
  kind : Kind
  text : String
  place : Place
  deriving DecidableEq, Repr, Inhabited

namespace Token

/-- The name of a token in a message about it. -/
def shown (t : Token) : String :=
  match t.kind with
  | .illegal => "ILLEGAL token " ++ Text.quoted t.text
  | .string => "STRING: " ++ t.text
  | .integer => "INTEGER: " ++ t.text
  | .endOfScript => "EOF"
  | .lineBreak => "end of line"
  | _ => t.text

/-- The name of a token that stands where another was wanted. -/
def described (t : Token) : String :=
  match t.kind with
  | .endOfScript | .illegal | .lineBreak | .string | .integer => t.shown
  | _ => Text.quoted t.text

end Token

/-- The words of the language. -/
def keywords : List (String × Kind) := [
  ("eq", .eq), ("ne", .ne), ("handle", .handle), ("client", .client), ("expect", .expect),
  ("tx", .tx), ("req", .req), ("resp", .resp), ("method", .method), ("status", .status),
  ("headers", .headers), ("body", .body), ("-body", .bodyFlag), ("-status", .statusFlag),
  ("-header", .headerFlag), ("-method", .methodFlag), ("-url", .urlFlag)]

/-- The kind of a single character that starts no other token. -/
def markKind : Char → Kind
  | '.' => .dot
  | '[' => .openBracket
  | ']' => .closeBracket
  | '{' => .openBrace
  | '}' => .closeBrace
  | '~' => .tilde
  | _ => .illegal

/-- Whether a run of name characters is an integer: digits after an optional
minus sign. -/
def isInteger (cs : List Char) : Bool :=
  let digits := match cs with
    | '-' :: ds => ds
    | ds => ds
  !digits.isEmpty && digits.all Char.isDigit

/-- The kind of a run of name characters. -/
def wordKind (s : String) : Kind :=
  match keywords.lookup s with
  | some k => k
  | none => if isInteger s.toList then .integer else .illegal

end ProxyTrial.Script
