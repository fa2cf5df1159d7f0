import ProxyTrial.Yaml.Property
import ProxyTrial.Yaml.Scalar
/-!
# Tokens of a YAML text

The indentation of a text and the colons after its keys become tokens.  A key
is known for one only when its colon comes; so a place is kept before every
token that could begin a key, where the tokens for the key are put then.

## Main definitions

* `Lexing`: how far the reading of tokens is
* `Tokens.ofText`: the tokens of a text
-/

namespace ProxyTrial.Yaml

/-- A token. -/
inductive Token where
  | directive (d : Directive)
  | documentStart
  | documentEnd
  /-- The start of a list of entries that are set off by dashes. -/
  | blockListStart
  | blockMapStart
  /-- The end of the innermost collection made by indentation. -/
  | blockEnd
  | flowListStart
  | flowListEnd
  | flowMapStart
  | flowMapEnd
  /-- The dash before an entry. -/
  | dash
  | comma
  | key
  | value
  | alias (name : String)
  | anchor (name : String)
  | tag (t : TagName)
  | scalar (s : Scalar)

/-- A place where a key could have begun. -/
structure Candidate where
  /-- The number of the kept place for the tokens of the key. -/
  slot : Nat
  /-- Whether there must be a key, since the indentation asks for one. -/
  required : Bool
  start : Cursor

/-- How far the reading of tokens is. -/
structure Lexing where
  cursor : Cursor
  /-- The tokens so far, those at one place together. -/
  slots : Array (List Token) := #[]
  /-- The column of the innermost collection made by indentation, and -1
  outside of all. -/
  indent : Int := -1
  /-- The columns of the collections around it. -/
  outer : List Int := []
  /-- The last candidate for a key in every flow collection around this place,
  the innermost first, and outside of all. -/
  candidates : List (Option Candidate) := [none]
  /-- Whether a key can begin here. -/
  keyAllowed : Bool := true

namespace Lexing

/-- Whether this place is within a flow collection. -/
def inFlow (l : Lexing) : Bool := l.candidates.length > 1

/-- Adds a token. -/
def push (l : Lexing) (t : Token) : Lexing := { l with slots := l.slots.push [t] }

/-- Ends the collections whose column is after `column`. -/
def unwindTo (column : Int) (tokens : Array (List Token)) (indent : Int) :
    List Int → Array (List Token) × Int × List Int
  | [] => (tokens, indent, [])
  | i :: outer =>
    if indent > column then unwindTo column (tokens.push [.blockEnd]) i outer
    else (tokens, indent, i :: outer)

/-- Ends the collections whose column is after `column`; within a flow
collection indentation has no meaning. -/
def unwind (l : Lexing) (column : Int) : Lexing :=
  if l.inFlow then l
  else
    let (slots, indent, outer) := unwindTo column l.slots l.indent l.outer
    { l with slots, indent, outer }

/-- Begins a collection at a column, unless there is one; also tells whether it
is new. -/
def indentTo (l : Lexing) (column : Nat) : Bool × Lexing :=
  if l.indent < column then (true, { l with indent := column, outer := l.indent :: l.outer })
  else (false, l)

/-- Gives up a candidate for a key. -/
def giveUp : Option Candidate → Result Unit
  | some k => if k.required then flaw .missingColon else .ok ()
  | none => .ok ()

/-- Gives up the candidate of the innermost flow collection. -/
def dropCandidate (l : Lexing) : Result Lexing :=
  match l.candidates with
  | k :: ks => do giveUp k; return { l with candidates := none :: ks }
  | [] => .ok l

/-- How far a colon may be from the start of its key. -/
def keyLimit : Nat := 1024

/-- Gives up the candidates from which this place is too far: on another line,
or too many characters away. -/
def dropStale (l : Lexing) : Result Lexing := do
  let candidates ← l.candidates.mapM fun
    | some k =>
      if k.start.line != l.cursor.line || l.cursor.index - k.start.index > keyLimit then do
        giveUp (some k)
        return none
      else return some k
    | none => return none
  return { l with candidates }

/-- Makes the next token a candidate for a key, if a key can begin here. -/
def noteCandidate (l : Lexing) : Result Lexing := do
  if l.keyAllowed then
    let l ← l.dropCandidate
    let k : Candidate :=
      ⟨l.slots.size, !l.inFlow && l.indent == l.cursor.column, l.cursor⟩
    return { l with slots := l.slots.push [], candidates := some k :: l.candidates.drop 1 }
  else return l

/-- Adds a token that may be all or part of a key, and goes on at `c`. -/
def atom (l : Lexing) (t : Token) (c : Cursor) : Result Lexing := do
  let l ← l.noteCandidate
  return { l.push t with keyAllowed := false, cursor := c }

/-- Adds a token for a mark of `width` characters before which no key can
end. -/
def mark (l : Lexing) (t : Token) (width : Nat) (keyAllowed : Bool) : Result Lexing := do
  let l ← l.dropCandidate
  return { l.push t with keyAllowed, cursor := l.cursor.skip width }

/-- Begins a flow collection. -/
def openFlow (l : Lexing) (t : Token) : Result Lexing := do
  let l ← l.noteCandidate
  return { l.push t with
    candidates := none :: l.candidates, keyAllowed := true, cursor := l.cursor.next }

/-- Ends a flow collection. -/
def closeFlow (l : Lexing) (t : Token) : Result Lexing := do
  let l ← l.dropCandidate
  if l.inFlow then
    return { l.push t with
      candidates := l.candidates.drop 1, keyAllowed := false, cursor := l.cursor.next }
  else flaw .unopened

/-- Begins a collection made by indentation at this place, if there is none;
it must be a place where a key could begin. -/
def openBlock (l : Lexing) (t : Token) : Result Lexing :=
  if l.inFlow then .ok l
  else if !l.keyAllowed then flaw .misplaced
  else
    let (new, l) := l.indentTo l.cursor.column
    .ok (if new then l.push t else l)

/-- Reads the dash before an entry. -/
def dash (l : Lexing) : Result Lexing := do (← l.openBlock .blockListStart).mark .dash 1 true

/-- Reads the question mark before a key. -/
def explicitKey (l : Lexing) : Result Lexing := do
  (← l.openBlock .blockMapStart).mark .key 1 (!l.inFlow)

/-- Reads the colon before a value.  If there is a candidate, it was a key. -/
def value (l : Lexing) : Result Lexing :=
  match l.candidates with
  | some k :: ks =>
    let (new, l) := if l.inFlow then (false, l) else l.indentTo k.start.column
    let tokens := if new then [.blockMapStart, .key] else [.key]
    let l := { l with slots := l.slots.setIfInBounds k.slot tokens, candidates := none :: ks }
    .ok { l.push .value with keyAllowed := false, cursor := l.cursor.next }
  | _ => do (← l.openBlock .blockMapStart).mark .value 1 (!l.inFlow)

/-- Goes past spaces, comments and line breaks. -/
def skipLayout : (fuel : Nat) → Lexing → Lexing
  | 0, l => l
  | fuel + 1, l =>
    let c := l.cursor.skipSpaces
    let c := if c.head == '#' then c.skipWhile (!endsLine ·) else c
    match c.lineBreak with
    | ([], _) => { l with cursor := c }
    | (_, c) => skipLayout fuel { l with cursor := c, keyAllowed := l.keyAllowed || !l.inFlow }

/-- Whether a plain scalar can begin at this place. -/
def atPlain (l : Lexing) : Bool :=
  let x := l.cursor.head
  !(isBlankOrEnd x || "-?:,[]\x7b\x7d#&*!|>'\"%@\x60".contains x)
    || (!isBlankOrEnd (l.cursor.ahead 1) && (x == '-' || (!l.inFlow && (x == '?' || x == ':'))))

/-- Ends all collections made by indentation. -/
def finish (l : Lexing) : Result Lexing := (l.unwind (-1)).dropCandidate

/-- Reads the token at this place. -/
def token (l : Lexing) : Result Lexing :=
  let c := l.cursor
  let blankNext := isBlankOrEnd (c.ahead 1)
  if c.head == '%' && c.column == 0 then do
    let l ← l.finish
    let (d, c) ← directive c
    return { l.push (.directive d) with keyAllowed := false, cursor := c }
  else if c.column == 0 && c.atMarker then do
    (← l.finish).mark (if c.head == '-' then .documentStart else .documentEnd) 3 false
  else match c.head with
    | '[' => l.openFlow .flowListStart
    | '\x7b' => l.openFlow .flowMapStart
    | ']' => l.closeFlow .flowListEnd
    | '\x7d' => l.closeFlow .flowMapEnd
    | ',' => l.mark .comma 1 true
    | '*' => do let (name, c) ← anchorName c; l.atom (.alias name) c
    | '&' => do let (name, c) ← anchorName c; l.atom (.anchor name) c
    | '!' => do let (t, c) ← tagName c; l.atom (.tag t) c
    | '\'' | '"' => do let (s, c) ← quotedScalar c; l.atom (.scalar s) c
    | x =>
      if x == '-' && blankNext then l.dash
      else if x == '?' && (l.inFlow || blankNext) then l.explicitKey
      else if x == ':' && (l.inFlow || blankNext) then l.value
      else if (x == '|' || x == '>') && !l.inFlow then do
        let l ← l.dropCandidate
        let (s, c) ← blockScalar l.indent c
        return { l.push (.scalar s) with keyAllowed := true, cursor := c }
      else if l.atPlain then do
        let (s, c, newLine) := plainScalar l.inFlow (l.indent + 1) c
        let l ← l.atom (.scalar s) c
        return { l with keyAllowed := newLine }
      else flaw .noToken

/-- Reads all tokens from this place on.  If a fault ends them, it comes after
the tokens before it. -/
def run : (fuel : Nat) → Lexing → Lexing × Option Fault
  | 0, l => (l, none)
  | fuel + 1, l =>
    let l := skipLayout l.cursor.rest.length.succ l
    match l.dropStale with
    | .error e => (l, some e)
    | .ok l =>
      let l := l.unwind l.cursor.column
      if l.cursor.rest.isEmpty then
        match l.finish with
        | .error e => (l, some e)
        | .ok l => (l, none)
      else match l.token with
        | .error e => (l, some e)
        | .ok l => run fuel l

end Lexing

/-- The tokens of a text, and the fault that ended them, if there is one. -/
structure Tokens where
  tokens : List Token
  fault : Option Fault

/-- The tokens of a text.  A byte order mark at its start is left out. -/
def Tokens.ofText (s : String) : Tokens :=
  let cs := s.toList
  if !cs.all isAllowed then ⟨[], some (.flawed .unprintable)⟩
  else
    let start : Cursor := ⟨cs, 0, 0, 0⟩
    let start := if start.head == '\uFEFF' then start.next else start
    let (l, fault) := Lexing.run cs.length.succ { cursor := start }
    ⟨l.slots.toList.flatten, fault⟩

end ProxyTrial.Yaml
