import ProxyTrial.Text.Base64
import ProxyTrial.Yaml.Node
/-!
# The data of a YAML document

A node makes a value of its kind.  Mappings are merged into others by a key of
its own kind: their entries come first, and an entry that comes later replaces
one with the same key at its place.

A document can have more than one fault.  Collections are filled after the
value in which they are has been made, so the fault at the outermost level is
the one that is found, and the first one at this level.  A collection as a key
is therefore refused before anything that is wrong within it is found.

A mapping can also stand for a scalar, the one that its main value is.

## Main definitions

* `Yaml.read`: the value that a text holds
-/

namespace ProxyTrial.Yaml

/-- A fault and the level of the collection where it is found. -/
structure LeveledFault where
  level : Nat
  fault : Fault

/-- The outcome of making a value. -/
abbrev Made (α : Type) := Except LeveledFault α

/-- A fault at a level. -/
def faultAt {α : Type} (level : Nat) (e : Fault) : Made α := .error ⟨level, e⟩

/-- Two outcomes; of two faults the one at the outer level is found, and the
first one at the same level. -/
def Made.both {α β : Type} (a : Made α) (b : Made β) : Made (α × β) :=
  match a, b with
  | .ok x, .ok y => .ok (x, y)
  | .error e, .ok _ => .error e
  | .ok _, .error f => .error f
  | .error e, .error f => .error (if f.level < e.level then f else e)

namespace Node

mutual

/-- The node with `fill` put where nodes around a place stand for
themselves.  A mapping that stands for a scalar is left as it is. -/
def unfold (fill : String → Node) : Node → Node
  | scalar k s => scalar k s
  | list k ns => list k (unfoldAll fill ns)
  | map k es => if k.isCollection then map k (unfoldEntries fill es) else map k es
  | within a => fill a

/-- The nodes of a list with `fill` put into them. -/
def unfoldAll (fill : String → Node) : List Node → List Node
  | [] => []
  | n :: ns => unfold fill n :: unfoldAll fill ns

/-- The entries of a mapping with `fill` put into them. -/
def unfoldEntries (fill : String → Node) : List (Node × Node) → List (Node × Node)
  | [] => []
  | (k, v) :: es => (unfold fill k, unfold fill v) :: unfoldEntries fill es

end

/-- A node without its content, unless it stands for a scalar. -/
def emptied : Node → Node
  | scalar k s => scalar k s
  | list k _ => list k []
  | map k es => if k.isCollection then map k [] else map k es
  | within _ => nothing

/-- The node with an anchor. -/
def named (anchors : List (String × Node)) (a : String) : Node :=
  (anchors.lookup a).getD nothing

/-- The node with every node that is within itself written out once more, and
empty there. -/
def finite (anchors : List (String × Node)) (n : Node) : Node :=
  n.unfold fun a => (named anchors a).unfold fun b => (named anchors b).emptied

mutual

/-- How deep a node is. -/
def depth : Node → Nat
  | list _ ns => depthOfAll ns + 1
  | map _ es => depthOfEntries es + 1
  | _ => 1

/-- How deep the deepest node of a list is. -/
def depthOfAll : List Node → Nat
  | [] => 0
  | n :: ns => max n.depth (depthOfAll ns)

/-- How deep the deepest node among entries is. -/
def depthOfEntries : List (Node × Node) → Nat
  | [] => 0
  | (k, v) :: es => max (max k.depth v.depth) (depthOfEntries es)

end

/-- The main value among entries. -/
def mainValue? (es : List (Node × Node)) : Option Node :=
  (es.find? (·.1.kind = .value)).map (·.2)

/-- The scalar that a node within the node `top` stands for: itself, or the one
that the main value of a mapping stands for.  A collection around `top` has no
main value any more, since it has been taken apart already. -/
def scalarWithin (anchors : List (String × Node)) (top : Node) :
    (steps : Nat) → Node → Result Scalar
  | 0, _ => .error .depth
  | _ + 1, scalar _ s => .ok s
  | _ + 1, list _ _ => flaw .kind
  | steps + 1, map _ es =>
    match mainValue? es with
    | some v => scalarWithin anchors top steps v
    | none => flaw .kind
  | steps + 1, within a =>
    let n := named anchors a
    if n.kind.isCollection && top.depth < n.depth then flaw .kind
    else scalarWithin anchors top steps n

/-- The scalar that a node stands for.  Main values that are followed for more
steps than there are levels in the node and in all those with anchors go round
in a circle. -/
def scalarOf (anchors : List (String × Node)) (n : Node) : Result Scalar :=
  let steps := anchors.foldl (fun steps a => steps + a.2.depth + 1) n.depth
  scalarWithin anchors n (steps + 1) n

mutual

/-- The entries of mappings that are to be merged. -/
def mergedFrom : Node → Result (List (Node × Node))
  | map _ es => do
    let (merged, own) ← mergedEntries es
    return merged ++ own
  | list _ ns => return (← mergedFromAll ns).reverse.flatten
  | _ => flaw .merge

/-- The entries of each mapping of a list. -/
def mergedFromAll : List Node → Result (List (List (Node × Node)))
  | [] => .ok []
  | map _ es :: ns => do
    let (merged, own) ← mergedEntries es
    return (merged ++ own) :: (← mergedFromAll ns)
  | _ :: _ => flaw .merge

/-- The entries of a mapping: those merged into it and its own. -/
def mergedEntries : List (Node × Node) → Result (List (Node × Node) × List (Node × Node))
  | [] => .ok ([], [])
  | (k, v) :: es => do
    if k.kind = .merge then
      let first ← mergedFrom v
      let (merged, own) ← mergedEntries es
      return (first ++ merged, own)
    else
      let (merged, own) ← mergedEntries es
      let k := match k with
        | scalar .value s => scalar .text s
        | k => k
      return (merged, (k, v) :: own)

end

/-- The value of a scalar of a kind. -/
def scalarValue (kind : Kind) (s : Scalar) : Result Value :=
  match kind with
  | .text => .ok (if s.whole then .text s.text else .bytes [0xED, 0xA0, 0x80])
  | .null => .ok .null
  | .bool =>
    let word := Text.lower s.text
    match boolWords.lookup word with
    | some b => .ok (.bool b)
    | none => .error (.noBoolean word)
  | .int => (integer s.text).map .int
  | .float => (float s.text).map .float
  | .binary =>
    if s.text.toList.all (·.toNat < 128) then
      match Text.ofBase64 s.text.toList with
      | some bs => .ok (.bytes bs)
      | none => flaw .binary
    else flaw .binary
  | .timestamp =>
    let cs := s.text.toList
    let cs := if cs.getLast? = some '\n' then cs.dropLast else cs
    match date? cs with
    | none => .error .noDate
    | some d => d.value.mapError .date
  | _ => flaw .unknownTag

/-- The value of a node that is of the kind of a scalar. -/
def simpleValue (anchors : List (String × Node)) (n : Node) : Result Value :=
  match n.kind, n with
  | .merge, _ | .value, _ | .unknown, _ => flaw .unknownTag
  | .timestamp, map _ _ => do
    let _ ← n.scalarOf anchors
    throw .pairsForDate
  | k, _ => do scalarValue k (← n.scalarOf anchors)

/-- The outcomes of a list, put together. -/
def madeAll {α : Type} : List (Made α) → Made (List α)
  | [] => .ok []
  | a :: as => (Made.both a (madeAll as)).map fun (x, xs) => x :: xs

/-- The value that a node of the kind of a scalar makes at a level. -/
def simpleMade (anchors : List (String × Node)) (level : Nat) (n : Node) : Made Value :=
  (simpleValue anchors n).mapError (⟨level, ·⟩)

/-- The key that a node makes at a level. -/
def keyMade (anchors : List (String × Node)) (level : Nat) (n : Node) : Made Value :=
  if n.kind.isCollection then faultAt level (.flawed .unusableKey)
  else simpleMade anchors level n

/-- Entries as a mapping: of those with the same key the last one counts, at
the place of the first. -/
def asMap (es : List (Value × Value)) : List (Value × Value) :=
  es.foldl (fun fs (k, v) => Value.setEntry k v fs) []

/-- The value that a node of at most this depth makes at a level. -/
def made (anchors : List (String × Node)) : (depth : Nat) → (level : Nat) → Node → Made Value
  | 0, level, _ => faultAt level (.flawed .kind)
  | depth + 1, level, n =>
    let inner := level + 1
    let entries : Made (List (Value × Value)) :=
      match n with
      | map _ es =>
        match mergedEntries es with
        | .error e => faultAt inner e
        | .ok (merged, own) =>
          (madeAll ((merged ++ own).map fun (k, v) =>
            Made.both (keyMade anchors inner k) (made anchors depth inner v))).map asMap
      | _ => faultAt inner (.flawed .kind)
    match n.kind, n with
    | .list, list _ ns => (madeAll (ns.map (made anchors depth inner))).map .list
    | .pairs, list _ ns =>
      (madeAll (ns.map fun
        | map _ [(k, v)] =>
          (Made.both (made anchors depth inner k) (made anchors depth inner v)).map fun (k, v) =>
            Value.tuple [k, v]
        | _ => faultAt inner (.flawed .kind))).map .list
    | .list, _ | .pairs, _ => faultAt inner (.flawed .kind)
    | .map, _ => entries.map .map
    | .set, _ => entries.map fun es => .set (es.map (·.1))
    | _, _ => simpleMade anchors level n

/-- The value that a node makes. -/
def value (anchors : List (String × Node)) (n : Node) : Result Value :=
  (made anchors n.depth 0 n).mapError (·.fault)

end Node

/-- The value that a text holds; a text without a document holds null. -/
def read (s : String) : Result Value := do
  let d ← Document.ofTokens (Tokens.ofText s)
  match d.node? with
  | some n => (n.finite d.anchors).value d.anchors
  | none => return .null

end ProxyTrial.Yaml
