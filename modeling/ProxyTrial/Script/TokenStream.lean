import ProxyTrial.Script.Lexeme
/-!
# The tokens of a script

A lexeme has one token, which depends on the lexeme and on its place alone.
Only a comment that no line feed ends has none: the script ends there.  After
its last token a script goes on with the token of its end, for ever.

## Main definitions

* `TokenStream.ofText`: the tokens of a script
* `TokenStream.significant`: the next token that is not a blank
* `Lexer`: a stream into which the last token can be put back
-/

namespace ProxyTrial.Script

/-- The text of a string lexeme without its quotes. -/
def stringText (closed : Bool) (chars : List Char) : String :=
  String.ofList (if closed then (chars.drop 1).dropLast else chars.drop 1)

/-- The token of a lexeme that starts at a place. -/
def Lexeme.token? (l : Lexeme) (p : Place) : Option Token :=
  match l.kind with
  | .layout => if l.chars.contains '\n' then some ⟨.lineBreak, "\n", p⟩ else some ⟨.blank, " ", p⟩
  | .word => some ⟨wordKind (String.ofList l.chars), String.ofList l.chars, p⟩
  | .string closed => some ⟨.string, stringText closed l.chars, p⟩
  | .comment true => some ⟨.lineBreak, "\n", p⟩
  | .comment false => none
  | .mark => some ⟨markKind (l.chars.headD ' '), String.ofList l.chars, p⟩

/-- What is ahead of a reader: tokens, then the end of the script. -/
structure TokenStream where
  ahead : List Token
  /-- The place of the end. -/
  finish : Place
  deriving DecidableEq, Repr

namespace TokenStream

/-- The tokens of lexemes that start at a place. -/
def ofLexemes (p : Place) : List Lexeme → TokenStream
  | [] => ⟨[], p⟩
  | l :: ls =>
    let rest := ofLexemes (p.after l.chars) ls
    match l.token? p with
    | none => rest
    | some t => ⟨t :: rest.ahead, rest.finish⟩

/-- The tokens of a script. -/
def ofText (source : String) : TokenStream := ofLexemes Place.start (lexemes source.toList)

/-- The token that stands for the end of the script. -/
def endToken (s : TokenStream) : Token := ⟨.endOfScript, "", s.finish⟩

/-- The next token, blanks and line breaks included. -/
def next (s : TokenStream) : Token × TokenStream :=
  match s.ahead with
  | [] => (s.endToken, s)
  | t :: ts => (t, { s with ahead := ts })

/-- Whether a reader passes over a token of this kind. -/
def skips (skipLineBreaks : Bool) (k : Kind) : Bool :=
  k == .blank || (skipLineBreaks && k == .lineBreak)

/-- The stream without the tokens that a reader passes over. -/
def skip (skipLineBreaks : Bool) (s : TokenStream) : TokenStream :=
  { s with ahead := s.ahead.dropWhile fun t => skips skipLineBreaks t.kind }

/-- The next token that is no blank, and no line break if those are skipped. -/
def significant (s : TokenStream) (skipLineBreaks : Bool) : Token × TokenStream :=
  (s.skip skipLineBreaks).next

/-- The stream with a token put back; the token of the end stands there
anyway. -/
def putBack (s : TokenStream) (t : Token) : TokenStream :=
  if t.kind = .endOfScript then s else { s with ahead := t :: s.ahead }

/-- The tokens up to and including the first one of the end, as the raw stream
has them. -/
def raw (s : TokenStream) : List Token := s.ahead ++ [s.endToken]

/-- The tokens up to the end of the script, without blanks, and without line
breaks if those are skipped. -/
def filtered (s : TokenStream) (skipLineBreaks : Bool) : List Token :=
  s.ahead.filter (fun t => !skips skipLineBreaks t.kind) ++ [s.endToken]

end TokenStream

/-! ## Putting the last token back -/

/-- A token stream and the token read last, which can be put back once. -/
structure Lexer where
  stream : TokenStream
  last : Option Token := none
  pushedBack : Option Token := none
  deriving DecidableEq, Repr

namespace Lexer

/-- The lexer of a script. -/
def ofText (source : String) : Lexer := { stream := TokenStream.ofText source }

/-- Reads a token. -/
def next (l : Lexer) : Token × Lexer :=
  match l.pushedBack with
  | some t => (t, ⟨l.stream, some t, none⟩)
  | none =>
    let (t, s) := l.stream.next
    (t, ⟨s, some t, none⟩)

/-- Reads the next token that is no blank, and no line break if those are
skipped. -/
def nextSignificant (l : Lexer) (skipLineBreaks : Bool) : Token × Lexer :=
  let (t, after) := l.next
  if TokenStream.skips skipLineBreaks t.kind then
    let (t, s) := after.stream.significant skipLineBreaks
    (t, ⟨s, some t, none⟩)
  else (t, after)

/-- Puts the token read last back, unless that has been done. -/
def unread (l : Lexer) : Lexer :=
  match l.last with
  | none => l
  | some t => ⟨l.stream, none, some t⟩

end Lexer

end ProxyTrial.Script
