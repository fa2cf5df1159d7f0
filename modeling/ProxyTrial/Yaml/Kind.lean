import ProxyTrial.Yaml.Number
import ProxyTrial.Yaml.Timestamp
/-!
# Kinds of nodes

A tag says of what kind a node is.  A plain scalar without a tag is of the kind
that it looks like.
-/

namespace ProxyTrial.Yaml

/-- What a node is. -/
inductive Kind where
  | null
  | bool
  | int
  | float
  | binary
  | timestamp
  | text
  | list
  | map
  /-- A mapping whose keys are the members of a set. -/
  | set
  /-- A list of mappings with one entry. -/
  | pairs
  /-- The key for mappings to be merged into the one where it is. -/
  | merge
  /-- The key of a mapping's main value. -/
  | value
  | unknown
  deriving DecidableEq, Repr

/-- Whether nodes of a kind make values that hold others. -/
def Kind.isCollection : Kind → Bool
  | .list | .map | .set | .pairs => true
  | _ => false

/-- The beginning of the tags that YAML itself gives a meaning. -/
def ownTags : String := "tag:yaml.org,2002:"

/-- The kind that a tag says. -/
def Kind.ofTag (tag : String) : Kind :=
  let named : List (String × Kind) := [("null", .null), ("bool", .bool), ("int", .int),
    ("float", .float), ("binary", .binary), ("timestamp", .timestamp), ("str", .text),
    ("seq", .list), ("map", .map), ("set", .set), ("omap", .pairs), ("pairs", .pairs),
    ("merge", .merge), ("value", .value)]
  match named.find? fun e => ownTags ++ e.1 == tag with
  | some e => e.2
  | none => .unknown

/-- The words for truth values. -/
def boolWords : List (String × Bool) :=
  [("yes", true), ("no", false), ("true", true), ("false", false), ("on", true), ("off", false)]

/-- Whether a text looks like a truth value: a word for one in small letters,
in capitals, or with a capital at its start. -/
def isBool (cs : List Char) : Bool :=
  boolWords.any fun (w, _) =>
    let w := w.toList
    cs == w || cs == w.map Char.toUpper || cs == (w.take 1).map Char.toUpper ++ w.drop 1

/-- The kind that a text without a tag looks like. -/
def Kind.ofLooks (cs : List Char) : Kind :=
  if isBool cs then .bool
  else if isFloat cs then .float
  else if isInteger cs then .int
  else if cs == "<<".toList then .merge
  else if ["~", "null", "Null", "NULL"].contains (String.ofList cs) then .null
  else if isDate cs then .timestamp
  else if cs == ['='] then .value
  else .text

/-- The kind that a scalar without a tag looks like; a line feed at its end does
not count. -/
def Kind.ofText (s : String) : Kind :=
  match s.toList with
  | [] => .null
  | cs =>
    let looks := ofLooks cs
    if looks = .text ∧ cs.getLast? = some '\n' then ofLooks cs.dropLast else looks

end ProxyTrial.Yaml
