/-!
# Regular expressions as trees

A pattern is a sequence of nodes.  Characters are kept as code points, because
an escape may name a code point that is no character.

## Main definitions

* `Node`: what a pattern is made of
* `Flags`: the switches that change what a node means
* `Node.width`, `sequenceWidth`: the least and the greatest number of
  characters that a node can match
-/

namespace ProxyTrial.Pattern

/-- The switches of a pattern or of one of its groups. -/
structure Flags where
  /-- Letters match in either case. -/
  ignoreCase : Bool := false
  /-- `^` and `$` match at every line. -/
  multiline : Bool := false
  /-- The dot matches a line feed too. -/
  dotAll : Bool := false
  /-- Blanks and comments in the pattern are skipped. -/
  verbose : Bool := false
  /-- Classes and letter case know ASCII only. -/
  ascii : Bool := false
  /-- Classes and letter case know all of Unicode. -/
  unicode : Bool := false
  /-- The pattern may not repeat anything. -/
  template : Bool := false
  deriving DecidableEq, Repr, Inhabited

namespace Flags

/-- The switches that are on in either. -/
def union (a b : Flags) : Flags where
  ignoreCase := a.ignoreCase || b.ignoreCase
  multiline := a.multiline || b.multiline
  dotAll := a.dotAll || b.dotAll
  verbose := a.verbose || b.verbose
  ascii := a.ascii || b.ascii
  unicode := a.unicode || b.unicode
  template := a.template || b.template

/-- The switches that are on in the first but not in the second. -/
def diff (a b : Flags) : Flags where
  ignoreCase := a.ignoreCase && !b.ignoreCase
  multiline := a.multiline && !b.multiline
  dotAll := a.dotAll && !b.dotAll
  verbose := a.verbose && !b.verbose
  ascii := a.ascii && !b.ascii
  unicode := a.unicode && !b.unicode
  template := a.template && !b.template

/-- Whether two sets of switches have one in common. -/
def meets (a b : Flags) : Bool :=
  (a.ignoreCase && b.ignoreCase) || (a.multiline && b.multiline) || (a.dotAll && b.dotAll)
    || (a.verbose && b.verbose) || (a.ascii && b.ascii) || (a.unicode && b.unicode)
    || (a.template && b.template)

/-- The switches inside a group that turns some on and some off; a choice
between ASCII and Unicode replaces the one in force. -/
def within (outer on off : Flags) : Flags :=
  let kept :=
    if on.ascii || on.unicode then { outer with ascii := false, unicode := false } else outer
  (kept.union on).diff off

end Flags

/-- A named class of characters. -/
inductive CharClass where
  | digit
  | notDigit
  | space
  | notSpace
  | word
  | notWord
  deriving DecidableEq, Repr

/-- A member of a set of characters. -/
inductive SetItem where
  | char (code : Nat)
  | range (first last : Nat)
  | cls (c : CharClass)
  deriving DecidableEq, Repr

/-- A place in the text. -/
inductive Anchor where
  /-- The start of the text, or of a line. -/
  | lineStart
  /-- The end of the text or before its last line feed, or the end of a line. -/
  | lineEnd
  /-- The start of the text. -/
  | textStart
  /-- The end of the text. -/
  | textEnd
  /-- Between a word character and another one. -/
  | boundary
  /-- Anywhere else. -/
  | notBoundary
  deriving DecidableEq, Repr

/-- Which repetition is tried first, and whether others are tried at all. -/
inductive Greed where
  /-- The longest first. -/
  | greedy
  /-- The shortest first. -/
  | lazy
  /-- The longest only. -/
  | possessive
  deriving DecidableEq, Repr

/-- The least and the greatest number of characters of a match. -/
abbrev Width := Nat × Nat

/-- A node of a pattern.  A missing upper bound of a repetition is `none`; a
conditional without a second branch has an empty one; a look behind knows the
width of what it looks for. -/
inductive Node where
  | char (code : Nat)
  | notChar (code : Nat)
  | set (negated : Bool) (items : List SetItem)
  | any
  | anchor (a : Anchor)
  | group (index : Option Nat) (on off : Flags) (body : List Node)
  | atomic (body : List Node)
  | alternatives (branches : List (List Node))
  | repeated (greed : Greed) (least : Nat) (most : Option Nat) (body : List Node)
  | backReference (group : Nat)
  | conditional (group : Nat) (yes no : List Node)
  | look (behind : Option Width) (negated : Bool) (body : List Node)
  deriving Repr, Inhabited

/-- Widths are not told apart from here on. -/
def widthLimit : Nat := Nat.pow 2 64

/-- The width of two matches in a row. -/
def Width.append (a b : Width) : Width :=
  (min (a.1 + b.1) widthLimit, min (a.2 + b.2) widthLimit)

mutual

/-- The width of a node, given those of the closed groups. -/
def Node.width (groups : Array (Option Width)) : Node → Width
  | .char _ | .notChar _ | .set _ _ | .any => (1, 1)
  | .anchor _ | .look _ _ _ => (0, 0)
  | .group _ _ _ body => sequenceWidth groups body
  | .atomic body => sequenceWidth groups body
  | .alternatives branches => (branchesWidth groups branches).getD (0, 0)
  | .repeated _ least most body =>
    let (lo, hi) := sequenceWidth groups body
    (min (lo * least) widthLimit,
      match most with
      | none => if hi = 0 then 0 else widthLimit
      | some most => min (hi * most) widthLimit)
  | .backReference g => ((groups[g]?).getD none).getD (0, 0)
  | .conditional _ yes no =>
    let a := sequenceWidth groups yes
    let b := sequenceWidth groups no
    (min a.1 b.1, max a.2 b.2)

/-- The width of a sequence. -/
def sequenceWidth (groups : Array (Option Width)) : List Node → Width
  | [] => (0, 0)
  | n :: ns => (Node.width groups n).append (sequenceWidth groups ns)

/-- The width of a choice, if it has a branch. -/
def branchesWidth (groups : Array (Option Width)) : List (List Node) → Option Width
  | [] => none
  | b :: bs =>
    let w := sequenceWidth groups b
    match branchesWidth groups bs with
    | none => some w
    | some v => some (min w.1 v.1, max w.2 v.2)

end

end ProxyTrial.Pattern
