import ProxyTrial.Yaml.Cursor
/-!
# Scalars

A scalar is text in one of four forms: plain, between quotes, or as a block of
lines that are kept or folded.  Folding joins two lines with a space; where
blank lines are between them, as many line feeds stand for these.

## Main definitions

* `plainScalar`, `quotedScalar`, `blockScalar`: the scalar at a place
-/

namespace ProxyTrial.Yaml

/-- A scalar. -/
structure Scalar where
  text : String
  /-- Whether it is written without quotes and not as a block. -/
  plain : Bool
  /-- Whether it is text; escapes for halves of characters leave none. -/
  whole : Bool := true

/-- The line breaks from here on, with the blanks satisfying `p` before and
after them left out; a marker of a document is not gone past. -/
def lineBreaks (p : Char → Bool) : (fuel : Nat) → Cursor → List Char × Cursor
  | 0, c => ([], c)
  | fuel + 1, c =>
    if c.atMarker then ([], c)
    else
      let c' := c.skipWhile p
      match c'.lineBreak with
      | ([], _) => ([], c')
      | (b, c'') => let (bs, after) := lineBreaks p fuel c''; (b ++ bs, after)

/-- What a line break, followed by others, is folded to. -/
def folded (first more : List Char) : List Char :=
  if first != ['\n'] then first ++ more
  else if more.isEmpty then [' '] else more

/-! ## Plain scalars -/

/-- The characters of a plain scalar up to the next blank; in a flow collection
its marks end the scalar, too. -/
def plainRun (flow : Bool) : List Char → List Char
  | [] => []
  | x :: xs =>
    let next := xs.headD '\x00'
    let separates := x == ':' && (isBlankOrEnd next || (flow && ",[]\x7b\x7d".contains next))
    if isBlankOrEnd x || separates || (flow && ",?[]\x7b\x7d".contains x) then []
    else x :: plainRun flow xs

/-- What stands between two runs of a plain scalar, the place after it, and
whether a line ends there.  It is nothing if the scalar cannot go on. -/
def plainGap (c : Cursor) : List Char × Cursor × Bool :=
  let (spaces, c') := c.span (· == ' ')
  match c'.lineBreak with
  | ([], _) => (spaces, c', false)
  | (b, c'') =>
    let (bs, after) := lineBreaks (· == ' ') c''.rest.length.succ c''
    (if after.atMarker && after.column == 0 then [] else folded b bs, after, true)

/-- The rest of a plain scalar after a run, the place after it, and whether a
line ends just before that place. -/
def plainRest (flow : Bool) (indent : Int) : (fuel : Nat) → Cursor → List Char × Cursor × Bool
  | 0, c => ([], c, false)
  | fuel + 1, c =>
    let (gap, c', newLine) := plainGap c
    let run := plainRun flow c'.rest
    if gap.isEmpty || c'.head == '#' || (!flow && c'.column < indent) || run.isEmpty then
      ([], c', newLine)
    else
      let (more, after, newLine) := plainRest flow indent fuel (c'.skip run.length)
      (gap ++ run ++ more, after, newLine)

/-- The plain scalar at a place, the place after it, and whether a line ends
just before that. -/
def plainScalar (flow : Bool) (indent : Int) (c : Cursor) : Scalar × Cursor × Bool :=
  let run := plainRun flow c.rest
  let (more, after, newLine) := plainRest flow indent c.rest.length (c.skip run.length)
  (⟨String.ofList (run ++ more), true, true⟩, after, newLine)

/-! ## Quoted scalars -/

/-- The characters that single letters stand for after a backslash. -/
def namedEscapes : List (Char × Char) :=
  [('0', '\x00'), ('a', '\x07'), ('b', '\x08'), ('t', '\t'), ('\t', '\t'), ('n', '\n'),
    ('v', '\x0B'), ('f', '\x0C'), ('r', '\r'), ('e', '\x1B'), (' ', ' '), ('"', '"'),
    ('\\', '\\'), ('/', '/'), ('N', '\u0085'), ('_', '\u00A0'), ('L', '\u2028'),
    ('P', '\u2029')]

/-- How many hexadecimal digits come after a letter. -/
def numberedEscapes : List (Char × Nat) := [('x', 2), ('u', 4), ('U', 8)]

/-- The character with a code, unless the code is that of half a character. -/
def ofCode (n : Nat) : Result (Option Char) :=
  if n.isValidChar then .ok (some (Char.ofNat n))
  else if n ≤ 0x10FFFF then .ok none
  else .error (.codePoint n)

/-- The characters of an escape, after its backslash, and the place after
it. -/
def escape (c : Cursor) : Result (List (Option Char) × Cursor) :=
  if let some x := namedEscapes.lookup c.head then .ok ([some x], c.next)
  else if let some n := numberedEscapes.lookup c.head then
    let digits := c.next.rest.take n
    if digits.length = n && digits.all Text.isHexDigit then do
      return ([← ofCode (Text.ofHexDigits digits)], c.skip (n + 1))
    else flaw .escape
  else match c.lineBreak with
    | ([], _) => flaw .escape
    | (_, c') =>
      let (bs, after) := lineBreaks (fun x => x == ' ' || x == '\t') c'.rest.length.succ c'
      if after.atMarker && after.column == 0 then flaw .unclosedQuote
      else .ok (bs.map some, after)

/-- The blanks at a place within quotes, folded if they hold a line break, and
the place after them. -/
def quotedGap (c : Cursor) : Result (List Char × Cursor) :=
  let isBlank (x : Char) := x == ' ' || x == '\t'
  let (blanks, c') := c.span isBlank
  match c'.lineBreak with
  | ([], _) => .ok (blanks, c')
  | (b, c'') =>
    let (bs, after) := lineBreaks isBlank c''.rest.length.succ c''
    if after.atMarker && after.column == 0 then flaw .unclosedQuote
    else .ok (folded b bs, after)

/-- The characters up to the closing quote, and the place after it. -/
def quotedRest (quote : Char) : (fuel : Nat) → Cursor → Result (List (Option Char) × Cursor)
  | 0, _ => flaw .unclosedQuote
  | fuel + 1, c =>
    if c.rest.isEmpty then flaw .unclosedQuote
    else if c.head == quote then
      if quote == '\'' && c.ahead 1 == '\'' then do
        let (more, after) ← quotedRest quote fuel (c.skip 2)
        return (some '\'' :: more, after)
      else .ok ([], c.next)
    else if c.head == '\\' && quote == '"' then do
      let (xs, c') ← escape c.next
      let (more, after) ← quotedRest quote fuel c'
      return (xs ++ more, after)
    else if isBlankOrEnd c.head then do
      let (xs, c') ← quotedGap c
      let (more, after) ← quotedRest quote fuel c'
      return (xs.map some ++ more, after)
    else do
      let (run, c') := c.span fun x =>
        !(x == quote || (x == '\\' && quote == '"') || isBlankOrEnd x)
      let (more, after) ← quotedRest quote fuel c'
      return (run.map some ++ more, after)

/-- The quoted scalar whose opening quote is at a place, and the place after
it. -/
def quotedScalar (c : Cursor) : Result (Scalar × Cursor) := do
  let (xs, after) ← quotedRest c.head c.rest.length c.next
  return (⟨String.ofList (xs.filterMap id), false, xs.all Option.isSome⟩, after)

/-! ## Block scalars -/

/-- What becomes of the line breaks at the end of a block. -/
inductive Chomping where
  | strip
  | clip
  | keep
  deriving DecidableEq, Repr

/-- The sign at a place that says what becomes of the last line breaks. -/
def chomping? (c : Cursor) : Option Chomping :=
  if c.head == '+' then some .keep else if c.head == '-' then some .strip else none

/-- The head of a block after its mark: the chomping, the indentation if it is
given, and the place after the line. -/
def blockHeader (c : Cursor) : Result (Chomping × Option Nat × Cursor) := do
  let increment (c : Cursor) : Result (Option Nat × Cursor) :=
    if c.head == '0' then flaw .blockHeader
    else if c.head.isDigit then .ok (some (c.head.toNat - 48), c.next)
    else .ok (none, c)
  let (chomping, width, c) ← match chomping? c with
    | some k => do
      let (width, c) ← increment c.next
      pure (k, width, c)
    | none => do
      let (width, c) ← increment c
      match width, chomping? c with
      | some _, some k => pure (k, width, c.next)
      | _, _ => pure (.clip, width, c)
  if !isSpaceOrEnd c.head then flaw .blockHeader
  else
    let c := c.skipSpaces
    let c := if c.head == '#' then c.skipWhile (!endsLine ·) else c
    if !endsLine c.head then flaw .blockHeader else return (chomping, width, c.lineBreak.2)

/-- The line breaks before the first line of a block whose indentation is not
given, the most columns of spaces among these lines, and the place after
them. -/
def blankLines : (fuel : Nat) → Cursor → List Char × Nat × Cursor
  | 0, c => ([], 0, c)
  | fuel + 1, c =>
    let c' := c.skipSpaces
    match c'.lineBreak with
    | ([], _) => ([], c'.column, c')
    | (b, c'') =>
      let (bs, width, after) := blankLines fuel c''
      (b ++ bs, max c'.column width, after)

/-- The line breaks from here on, where lines hold no more than `indent`
spaces. -/
def emptyLines (indent : Nat) : (fuel : Nat) → Cursor → List Char × Cursor
  | 0, c => ([], c)
  | fuel + 1, c =>
    let c' := c.skipIndent indent
    match c'.lineBreak with
    | ([], _) => ([], c')
    | (b, c'') => let (bs, after) := emptyLines indent fuel c''; (b ++ bs, after)

/-- The lines of a block from one that has its indentation, after the line
breaks `before` it, and the place after the block. -/
def blockLines (fold : Bool) (chomping : Chomping) (indent : Nat) :
    (fuel : Nat) → (before : List Char) → Cursor → List Char × Cursor
  | 0, _, c => ([], c)
  | fuel + 1, before, c =>
    let (line, c') := c.span (!endsLine ·)
    let (b, c'') := c'.lineBreak
    let (bs, after) := emptyLines indent c''.rest.length.succ c''
    if after.column == indent && after.head != '\x00' then
      let isBlank (x : Char) := x == ' ' || x == '\t'
      let joint :=
        if fold && b == ['\n'] && !isBlank c.head && !isBlank after.head then
          if bs.isEmpty then [' '] else []
        else b
      let (more, after) := blockLines fold chomping indent fuel bs after
      (before ++ line ++ joint ++ more, after)
    else
      let last := match chomping with
        | .strip => []
        | .clip => b
        | .keep => b ++ bs
      (before ++ line ++ last, after)

/-- The block scalar whose mark is at a place within a collection at column
`parent`, and the place after it. -/
def blockScalar (parent : Int) (c : Cursor) : Result (Scalar × Cursor) := do
  let fold := c.head == '>'
  let (chomping, width, c) ← blockHeader c.next
  let least := (max (parent + 1) 1).toNat
  let fuel := c.rest.length.succ
  let (breaks, indent, c) := match width with
    | none => let (bs, found, c') := blankLines fuel c; (bs, max least found, c')
    | some w =>
      let indent := least + w - 1
      let (bs, c') := emptyLines indent fuel c
      (bs, indent, c')
  let (text, c) :=
    if c.column == indent && c.head != '\x00' then blockLines fold chomping indent fuel breaks c
    else (if chomping = .keep then breaks else [], c)
  return (⟨String.ofList text, false, true⟩, c)

end ProxyTrial.Yaml
