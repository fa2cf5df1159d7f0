import ProxyTrial.Text.Utf8
import ProxyTrial.Yaml.Cursor
/-!
# Anchors, tags and directives

A node may have a name to be referred to, and a tag that says what it is.  A
tag is written in full between angle brackets, or as the end of one whose
beginning a directive gives to a handle.
-/

namespace ProxyTrial.Yaml

/-- A tag as it is written. -/
structure TagName where
  /-- The handle that stands for the beginning of the tag, if there is one. -/
  handle : Option String
  ending : String
  deriving DecidableEq, Repr

/-- A directive. -/
inductive Directive where
  /-- The version of YAML. -/
  | version (major : Nat)
  /-- The beginning of tags for which a handle stands. -/
  | handle (name beginning : String)
  | other
  deriving DecidableEq, Repr

/-- The name after an anchor's or an alias's mark, and the place after it. -/
def anchorName (c : Cursor) : Result (String × Cursor) :=
  let (name, after) := c.next.span isNamePart
  let ends := isBlankOrEnd after.head || "?:,]\x7d%@\x60".contains after.head
  if name.isEmpty || !ends then flaw .anchor else .ok (String.ofList name, after)

/-- Whether a character may be in a tag as it is. -/
def isTagChar (c : Char) : Bool := c.isAlphanum || "-;/?:@&=+$,_.!~*'()[]".contains c

/-- The octets of the percent escapes from here on, and the place after them. -/
def percentEscapes : (fuel : Nat) → Cursor → Result (Bytes × Cursor)
  | 0, c => .ok ([], c)
  | fuel + 1, c =>
    match c.rest with
    | '%' :: a :: b :: _ =>
      match Text.hexValue? a, Text.hexValue? b with
      | some m, some n => do
        let (bs, after) ← percentEscapes fuel (c.skip 3)
        return (UInt8.ofNat (16 * m + n) :: bs, after)
      | _, _ => flaw .tag
    | '%' :: _ => flaw .tag
    | _ => .ok ([], c)

/-- The characters of a tag from here on, and the place after them. -/
def tagChars : (fuel : Nat) → Cursor → Result (List Char × Cursor)
  | 0, c => .ok ([], c)
  | fuel + 1, c =>
    if c.head == '%' then do
      let (bs, c') ← percentEscapes c.rest.length c
      match Text.ofUtf8 bs with
      | .error _ => flaw .tag
      | .ok s =>
        let (more, after) ← tagChars fuel c'
        return (s.toList ++ more, after)
    else if isTagChar c.head then do
      let (run, c') := c.span isTagChar
      let (more, after) ← tagChars fuel c'
      return (run ++ more, after)
    else .ok ([], c)

/-- The text of a tag from here on, which is not empty, and the place after
it. -/
def tagText (c : Cursor) : Result (String × Cursor) := do
  let (cs, after) ← tagChars c.rest.length c
  if c.rest.length ≤ after.rest.length then flaw .tag else return (String.ofList cs, after)

/-- The handle at a place, and the place after it. -/
def tagHandle (c : Cursor) : Result (String × Cursor) :=
  if c.head != '!' then flaw .tag
  else if c.ahead 1 == ' ' then .ok ("!", c.next)
  else
    let (name, after) := c.next.span isNamePart
    if after.head != '!' then flaw .tag
    else .ok (String.ofList ('!' :: name ++ ['!']), after.next)

/-- The tag whose mark is at a place, and the place after it. -/
def tagName (c : Cursor) : Result (TagName × Cursor) := do
  let (tag, after) ←
    if c.ahead 1 == '<' then do
      let (text, c) ← tagText (c.skip 2)
      if c.head != '>' then flaw .tag else pure (⟨none, text⟩, c.next)
    else if isBlankOrEnd (c.ahead 1) then pure (⟨none, "!"⟩, c.next)
    else do
      let named := (c.next.rest.takeWhile (!isSpaceOrEnd ·)).contains '!'
      let (handle, c) ← if named then tagHandle c else pure ("!", c.next)
      let (text, c) ← tagText c
      pure (⟨some handle, text⟩, c)
  if !isSpaceOrEnd after.head then flaw .tag else return (tag, after)

/-- The number at a place, and the place after it. -/
def versionNumber (c : Cursor) : Result (Nat × Cursor) :=
  let (digits, after) := c.span Char.isDigit
  if digits.isEmpty then flaw .directive
  else if Text.digitLimit < digits.length then .error (.manyDigits digits.length)
  else .ok (Text.ofDigits 10 (digits.map fun x => x.toNat - 48), after)

/-- The directive whose mark is at a place, and the place after its line. -/
def directive (c : Cursor) : Result (Directive × Cursor) := do
  let (name, c) := c.next.span isNamePart
  if name.isEmpty || !isSpaceOrEnd c.head then flaw .directive
  let (d, c) ←
    match String.ofList name with
    | "YAML" => do
      let (major, c) ← versionNumber c.skipSpaces
      if c.head != '.' then flaw .directive
      let (_, c) ← versionNumber c.next
      if !isSpaceOrEnd c.head then flaw .directive
      pure (Directive.version major, c)
    | "TAG" => do
      let (handle, c) ← tagHandle c.skipSpaces
      if c.head != ' ' then flaw .directive
      let (beginning, c) ← tagText c.skipSpaces
      if !isSpaceOrEnd c.head then flaw .directive
      pure (.handle handle beginning, c)
    | _ => pure (.other, c.skipWhile (!endsLine ·))
  let c := c.skipSpaces
  let c := if c.head == '#' then c.skipWhile (!endsLine ·) else c
  if !endsLine c.head then flaw .directive
  return (d, c.lineBreak.2)

end ProxyTrial.Yaml
