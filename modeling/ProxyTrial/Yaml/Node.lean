import ProxyTrial.Yaml.Kind
import ProxyTrial.Yaml.Token
/-!
# Nodes of a YAML document

The tokens of a document make a node: a scalar, a list or a mapping, each of
some kind.  A node may have a name, an anchor, by which it is put at other
places, too; even at places within it.

## Main definitions

* `Node`: what a document holds
* `Document.ofTokens`: the document that tokens make
-/

namespace ProxyTrial.Yaml

/-- A node. -/
inductive Node where
  | scalar (kind : Kind) (s : Scalar)
  | list (kind : Kind) (items : List Node)
  | map (kind : Kind) (entries : List (Node × Node))
  /-- The node with this anchor, which is one around this place. -/
  | within (anchor : String)

namespace Node

/-- The node where nothing is written. -/
def nothing : Node := scalar .null ⟨"", true, true⟩

/-- The kind of a node. -/
def kind : Node → Kind
  | scalar k _ => k
  | list k _ => k
  | map k _ => k
  | within _ => .unknown

end Node

namespace Token

/-- Whether an entry after a dash ends before a token. -/
def endsEntry : Token → Bool
  | dash | blockEnd => true
  | _ => false

/-- Whether a key or a value in a mapping by indentation ends before a token. -/
def endsPart : Token → Bool
  | key | value | blockEnd => true
  | _ => false

/-- Whether a value in a flow collection that is closed by tokens satisfying
`closes` ends before a token. -/
def endsFlowValue (closes : Token → Bool) : Token → Bool
  | comma => true
  | t => closes t

/-- Whether a key in a flow collection that is closed by tokens satisfying
`closes` ends before a token. -/
def endsFlowKey (closes : Token → Bool) : Token → Bool
  | value => true
  | t => endsFlowValue closes t

/-- Whether a token closes a flow list. -/
def closesList : Token → Bool
  | flowListEnd => true
  | _ => false

/-- Whether a token closes a flow mapping. -/
def closesMap : Token → Bool
  | flowMapEnd => true
  | _ => false

/-- Whether a document ends before a token. -/
def endsDocument : Token → Bool
  | directive _ | documentStart | documentEnd => true
  | _ => false

end Token

/-- How far the composing of a document is. -/
structure Composing where
  rest : List Token
  /-- The fault that comes after these tokens. -/
  fault : Option Fault
  /-- The beginnings of tags for which handles stand. -/
  handles : List (String × String) := []
  /-- The nodes with anchors that are done. -/
  anchors : List (String × Node) := []
  /-- The anchors of the nodes around this place. -/
  around : List String := []

/-- The composing of a part of a document. -/
abbrev Compose := StateT Composing (Except Fault)

namespace Compose

/-- Fails for a flaw. -/
def refuse {α : Type} (f : Flaw) : Compose α := throw (.flawed f)

/-- The next token, unless it is the end. -/
def peek : Compose (Option Token) := do
  let s ← get
  match s.rest, s.fault with
  | [], some e => throw e
  | rest, _ => return rest.head?

/-- Whether the next token satisfies `p`. -/
def sees (p : Token → Bool) : Compose Bool := return (← peek).any p

/-- Goes past a token. -/
def skip : Compose Unit := modify fun s => { s with rest := s.rest.tail }

/-- Goes past the comma that must come. -/
def comma : Compose Unit := do
  match ← peek with
  | some .comma => skip
  | _ => refuse .noDocument

/-- The node to come, or nothing before a token satisfying `p`. -/
def unlessAt (p : Token → Bool) (form : Compose Node) : Compose Node := do
  if ← sees p then return .nothing else form

/-- The value after a colon, or nothing if no colon comes. -/
def valuePart (ends : Token → Bool) (form : Compose Node) : Compose Node := do
  match ← peek with
  | some .value => skip; unlessAt ends form
  | _ => return .nothing

/-- The anchor and the tag of the node to come. -/
def properties : Compose (Option String × Option TagName) := do
  match ← peek with
  | some (.anchor a) =>
    skip
    match ← peek with
    | some (.tag t) => skip; return (some a, some t)
    | _ => return (some a, none)
  | some (.tag t) =>
    skip
    match ← peek with
    | some (.anchor a) => skip; return (some a, some t)
    | _ => return (none, some t)
  | _ => return (none, none)

/-- The tag that a written one stands for.  A lone exclamation mark says no
more than no tag. -/
def fullTag (t : TagName) : Compose String := do
  match t.handle with
  | none => return t.ending
  | some h =>
    match (← get).handles.lookup h with
    | some beginning => return beginning ++ t.ending
    | none => refuse .unknownHandle

/-- The kind of a scalar with a tag. -/
def scalarKind (tag : Option String) (s : Scalar) : Kind :=
  match tag with
  | some "!" => .ofText s.text
  | some t => .ofTag t
  | none => if s.plain then .ofText s.text else .text

/-- The kind of a collection with a tag. -/
def collectionKind (tag : Option String) (untagged : Kind) : Kind :=
  match tag with
  | some "!" | none => untagged
  | some t => .ofTag t

/-- A node with an anchor, if it has one. -/
def anchored (anchor : Option String) (form : Compose Node) : Compose Node := do
  match anchor with
  | none => form
  | some a =>
    let s ← get
    if (s.anchors.lookup a).isSome || s.around.contains a then refuse .anchorTwice
    set { s with around := a :: s.around }
    let n ← form
    modify fun s => { s with around := s.around.erase a, anchors := (a, n) :: s.anchors }
    return n

/-- The node to which an alias refers. -/
def named (a : String) : Compose Node := do
  let s ← get
  match s.anchors.lookup a with
  | some n => return n
  | none => if s.around.contains a then return .within a else refuse .unknownAnchor

mutual

/-- The node to come.  In a mapping by indentation the entries of a list need
no indentation of their own; within flow collections there is no
indentation. -/
def node (inMap inFlow : Bool) : (fuel : Nat) → Compose Node
  | 0 => refuse .noDocument
  | fuel + 1 => do
    if let some (.alias a) ← peek then
      skip
      named a
    else
      let (anchor, t) ← properties
      let tag ← t.mapM fullTag
      anchored anchor do
        match ← peek with
        | some (.scalar s) => skip; return .scalar (scalarKind tag s) s
        | some .flowListStart =>
          skip
          return .list (collectionKind tag .list) (← flowItems true fuel)
        | some .flowMapStart =>
          skip
          return .map (collectionKind tag .map) (← flowEntries true fuel)
        | some .dash =>
          if inMap then return .list (collectionKind tag .list) (← dashes fuel)
          else bare anchor tag
        | some .blockListStart =>
          if inFlow then bare anchor tag
          else
            skip
            return .list (collectionKind tag .list) (← items fuel)
        | some .blockMapStart =>
          if inFlow then bare anchor tag
          else
            skip
            return .map (collectionKind tag .map) (← entries fuel)
        | _ => bare anchor tag

/-- A node without content, which must have an anchor or a tag. -/
def bare (anchor tag : Option String) : Compose Node :=
  if anchor.isNone && tag.isNone then refuse .noDocument
  else
    let s : Scalar := ⟨"", tag.isNone, true⟩
    return .scalar (scalarKind tag s) s

/-- The items of a list by indentation. -/
def items : (fuel : Nat) → Compose (List Node)
  | 0 => refuse .noDocument
  | fuel + 1 => do
    match ← peek with
    | some .dash =>
      skip
      let n ← unlessAt Token.endsEntry (node false false fuel)
      return n :: (← items fuel)
    | some .blockEnd => skip; return []
    | _ => refuse .noDocument

/-- The items of a list without indentation of its own. -/
def dashes : (fuel : Nat) → Compose (List Node)
  | 0 => refuse .noDocument
  | fuel + 1 => do
    match ← peek with
    | some .dash =>
      skip
      let n ← unlessAt (fun t => t.endsEntry || t.endsPart) (node false false fuel)
      return n :: (← dashes fuel)
    | _ => return []

/-- The entries of a mapping by indentation. -/
def entries : (fuel : Nat) → Compose (List (Node × Node))
  | 0 => refuse .noDocument
  | fuel + 1 => do
    match ← peek with
    | some .key =>
      skip
      let k ← unlessAt Token.endsPart (node true false fuel)
      let v ← valuePart Token.endsPart (node true false fuel)
      return (k, v) :: (← entries fuel)
    | some .blockEnd => skip; return []
    | _ => refuse .noDocument

/-- The items of a flow list.  A key without braces makes a mapping with one
entry. -/
def flowItems (first : Bool) : (fuel : Nat) → Compose (List Node)
  | 0 => refuse .noDocument
  | fuel + 1 => do
    if let some .flowListEnd ← peek then
      skip
      return []
    unless first do comma
    match ← peek with
    | some .flowListEnd => skip; return []
    | some .key =>
      skip
      let k ← unlessAt (Token.endsFlowKey Token.closesList) (node false true fuel)
      let v ← valuePart (Token.endsFlowValue Token.closesList) (node false true fuel)
      return .map .map [(k, v)] :: (← flowItems false fuel)
    | _ =>
      let n ← node false true fuel
      return n :: (← flowItems false fuel)

/-- The entries of a flow mapping. -/
def flowEntries (first : Bool) : (fuel : Nat) → Compose (List (Node × Node))
  | 0 => refuse .noDocument
  | fuel + 1 => do
    if let some .flowMapEnd ← peek then
      skip
      return []
    unless first do comma
    match ← peek with
    | some .flowMapEnd => skip; return []
    | some .key =>
      skip
      let k ← unlessAt (Token.endsFlowKey Token.closesMap) (node false true fuel)
      let v ← valuePart (Token.endsFlowValue Token.closesMap) (node false true fuel)
      return (k, v) :: (← flowEntries false fuel)
    | _ =>
      let k ← node false true fuel
      return (k, .nothing) :: (← flowEntries false fuel)

end

/-- The handles that every document has. -/
def ownHandles : List (String × String) := [("!", "!"), ("!!", ownTags)]

/-- Reads the directives before a document; `found` are the handles of those
before, `version` tells whether one said the version. -/
def directives (found : List (String × String)) (version : Bool) : (fuel : Nat) → Compose Unit
  | 0 => refuse .noDocument
  | fuel + 1 => do
    match ← peek with
    | some (.directive (.version major)) =>
      skip
      if version || major != 1 then refuse .directive else directives found true fuel
    | some (.directive (.handle name beginning)) =>
      skip
      if (found.lookup name).isSome then refuse .directive
      else directives ((name, beginning) :: found) version fuel
    | some (.directive .other) => skip; directives found version fuel
    | _ => modify fun s => { s with handles := found ++ ownHandles }

/-- Goes past the marks at the end of a document; nothing comes after them. -/
def ending : (fuel : Nat) → Compose Unit
  | 0 => refuse .secondDocument
  | fuel + 1 => do
    match ← peek with
    | none => return ()
    | some .documentEnd => skip; ending fuel
    | _ => refuse .secondDocument

/-- The node of the only document, if there is one. -/
def document (fuel : Nat) : Compose (Option Node) := do
  match ← peek with
  | none => return none
  | some (.directive _) | some .documentStart =>
    directives [] false fuel
    match ← peek with
    | some .documentStart => skip
    | _ => refuse .noDocument
    let n ← match ← peek with
      | none => pure .nothing
      | some t => if t.endsDocument then pure .nothing else node false false fuel
    ending fuel
    return some n
  | _ =>
    modify fun s => { s with handles := ownHandles }
    let n ← node false false fuel
    ending fuel
    return some n

end Compose

/-- A document: its node, if there is one, and the nodes with anchors. -/
structure Document where
  node? : Option Node
  anchors : List (String × Node)

/-- The document that tokens make. -/
def Document.ofTokens (ts : Tokens) : Result Document := do
  let (node?, s) ← (Compose.document (3 * ts.tokens.length + 3)).run
    { rest := ts.tokens, fault := ts.fault }
  return { node?, anchors := s.anchors }

end ProxyTrial.Yaml
