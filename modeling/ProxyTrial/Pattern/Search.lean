import ProxyTrial.Pattern.Casing
import ProxyTrial.Pattern.Parse
/-!
# Searching a text for a pattern

A match is found by trying: what is still to be matched is a list of goals,
and wherever there is a choice the first alternative is tried with all the
goals after it before the next one is.  A repetition does not go round again
at the place where its last round began, so every path through a pattern is
bounded, and the bound is the fuel of the search.
-/

namespace ProxyTrial.Pattern

/-- How far a match has come: the position in the text, and the start and end
of each group that has matched. -/
structure Place where
  position : Nat
  groups : Array (Option (Nat × Nat))
  deriving Repr

/-- What is still to be matched. -/
inductive Goal where
  /-- A sequence of nodes. -/
  | nodes (flags : Flags) (ns : List Node)
  /-- The end of a group. -/
  | close (group start : Nat)
  /-- A further round of a repetition, or its end: `count` rounds are done,
  and the last one began at `last`. -/
  | round (flags : Flags) (greed : Greed) (least : Nat) (most : Option Nat)
    (body : List Node) (count : Nat) (last : Option Nat)

/-- The first answer of `f` for `least + n`, …, `least`. -/
def firstDown {α : Type} (f : Nat → Option α) (least : Nat) : Nat → Option α
  | 0 => f least
  | n + 1 => f (least + n + 1) <|> firstDown f least n

/-- The first answer of `f` for `n` numbers from `least` on. -/
def firstUp {α : Type} (f : Nat → Option α) (least : Nat) : Nat → Option α
  | 0 => none
  | n + 1 => f least <|> firstUp f (least + 1) n

/-- Whether a node that stands for one character matches this one. -/
def Node.unitMatches (flags : Flags) (c : Char) : Node → Bool
  | .char n => flags.casing.charMatches n c.toNat
  | .notChar n => !flags.casing.charMatches n c.toNat
  | .set negated items => setHolds flags.casing (!flags.unicode) items c.toNat != negated
  | .any => flags.dotAll || c != '\n'
  | _ => false

/-- Whether a node stands for exactly one character. -/
def Node.isUnit : Node → Bool
  | .char _ | .notChar _ | .set _ _ | .any => true
  | _ => false

/-- How many characters from a position on match a node, at most `limit`. -/
def unitRun (text : Array Char) (flags : Flags) (n : Node) (position : Nat) : (limit : Nat) → Nat
  | 0 => 0
  | limit + 1 =>
    match text[position]? with
    | none => 0
    | some c =>
      if n.unitMatches flags c then unitRun text flags n (position + 1) limit + 1 else 0

/-- Whether a position is one of the places that an anchor names. -/
def Anchor.holds (flags : Flags) (text : Array Char) (i : Nat) : Anchor → Bool
  | .textStart => i == 0
  | .textEnd => i == text.size
  | .lineStart => i == 0 || (flags.multiline && text[i - 1]? == some '\n')
  | .lineEnd =>
    i == text.size
      || (text[i]? == some '\n' && (flags.multiline || i + 1 == text.size))
  | .boundary => !text.isEmpty && wordBefore != wordAfter
  | .notBoundary => !text.isEmpty && wordBefore == wordAfter
where
  /-- Whether a character is a word character. -/
  isWord (c : Option Char) : Bool :=
    match c with
    | none => false
    | some c => CharClass.word.holds (!flags.unicode) c.toNat
  /-- Whether a word character stands before the position. -/
  wordBefore : Bool := i != 0 && isWord text[i - 1]?
  /-- Whether a word character stands at the position. -/
  wordAfter : Bool := isWord text[i]?

/-- Whether the `n` characters from `i` and from `j` on are the same. -/
def sameText (k : Casing) (text : Array Char) (i j : Nat) : (n : Nat) → Bool
  | 0 => true
  | n + 1 =>
    match text[i]?, text[j]? with
    | some c, some d => k.sameChar c.toNat d.toNat && sameText k text (i + 1) (j + 1) n
    | _, _ => false

/-- Matches the goals one after another from a place on; the answer is the
place reached. -/
def run (text : Array Char) : (fuel : Nat) → List Goal → Place → Option Place
  | 0, _, _ => none
  | _ + 1, [], place => some place
  | fuel + 1, .close group start :: goals, place =>
    run text fuel goals
      { place with groups := place.groups.setIfInBounds group (some (start, place.position)) }
  | fuel + 1, .round flags greed least most body count last :: goals, place =>
    let again (last : Option Nat) := Goal.round flags greed least most body (count + 1) last
    let here := some place.position
    let more := (match most with | none => true | some m => count < m) && here != last
    match greed with
    | .greedy =>
      if count < least then run text fuel (.nodes flags body :: again last :: goals) place
      else if more then
        run text fuel (.nodes flags body :: again here :: goals) place <|> run text fuel goals place
      else run text fuel goals place
    | .lazy =>
      if count < least then run text fuel (.nodes flags body :: again last :: goals) place
      else run text fuel goals place <|>
        if more then run text fuel (.nodes flags body :: again here :: goals) place else none
    | .possessive =>
      if count < least then
        match run text fuel [.nodes flags body] place with
        | none => none
        | some after => run text fuel (again last :: goals) after
      else if more then
        match run text fuel [.nodes flags body] place with
        | none => run text fuel goals place
        | some after => run text fuel (again here :: goals) after
      else run text fuel goals place
  | fuel + 1, .nodes _ [] :: goals, place => run text fuel goals place
  | fuel + 1, .nodes flags (n :: ns) :: goals, place =>
    let after := Goal.nodes flags ns :: goals
    match n with
    | .anchor a => if a.holds flags text place.position then run text fuel after place else none
    | .group index on off body =>
      let inner := flags.within on off
      match index with
      | none => run text fuel (.nodes inner body :: after) place
      | some g => run text fuel (.nodes inner body :: .close g place.position :: after) place
    | .atomic body =>
      match run text fuel [.nodes flags body] place with
      | none => none
      | some reached => run text fuel after reached
    | .alternatives branches =>
      branches.findSome? fun branch => run text fuel (.nodes flags branch :: after) place
    | .repeated greed least most body =>
      match body with
      | [n] =>
        if n.isUnit then
          let limit := match most with
            | none => text.size - place.position
            | some m => min m (text.size - place.position)
          let found := unitRun text flags n place.position limit
          let goOn (k : Nat) := run text fuel after { place with position := place.position + k }
          if found < least then none
          else match greed with
            | .greedy => firstDown goOn least (found - least)
            | .lazy => firstUp goOn least (found - least + 1)
            | .possessive => goOn found
        else run text fuel (.round flags greed least most body 0 none :: after) place
      | _ => run text fuel (.round flags greed least most body 0 none :: after) place
    | .backReference g =>
      match (place.groups[g]?).getD none with
      | none => none
      | some (first, last) =>
        if place.position + (last - first) ≤ text.size
            && sameText flags.casing text first place.position (last - first) then
          run text fuel after { place with position := place.position + (last - first) }
        else none
    | .conditional g yes no =>
      let branch := if ((place.groups[g]?).getD none).isSome then yes else no
      run text fuel (.nodes flags branch :: after) place
    | .look behind negated body =>
      let back := match behind with
        | none => 0
        | some w => w.1
      let found :=
        if back ≤ place.position then
          run text fuel [.nodes flags body] { place with position := place.position - back }
        else none
      match found, negated with
      | some reached, false => run text fuel after { reached with position := place.position }
      | none, true => run text fuel after place
      | _, _ => none
    | n =>
      match text[place.position]? with
      | none => none
      | some c =>
        if n.unitMatches flags c then
          run text fuel after { place with position := place.position + 1 }
        else none

mutual

/-- A bound on the goals that a node gives rise to on one path through a text
of `n` characters. -/
def Node.work (n : Nat) : Node → Nat
  | .char _ | .notChar _ | .set _ _ | .any | .anchor _ | .backReference _ => 1
  | .group _ _ _ body => 2 + sequenceWork n body
  | .atomic body => 1 + sequenceWork n body
  | .alternatives branches => 1 + branchesWork n branches
  | .repeated _ least _ body => 2 + (least + n + 3) * (2 + sequenceWork n body)
  | .conditional _ yes no => 1 + sequenceWork n yes + sequenceWork n no
  | .look _ _ body => 1 + sequenceWork n body

/-- The bound for a sequence. -/
def sequenceWork (n : Nat) : List Node → Nat
  | [] => 2
  | m :: ms => 1 + Node.work n m + sequenceWork n ms

/-- The bound for a choice. -/
def branchesWork (n : Nat) : List (List Node) → Nat
  | [] => 0
  | b :: bs => sequenceWork n b + branchesWork n bs

end

/-- The end of the match that starts at a position, if there is one. -/
def matchAt (p : Pattern) (text : Array Char) (position : Nat) : Option Nat :=
  let place : Place := ⟨position, (List.replicate p.groups none).toArray⟩
  (run text (sequenceWork text.size p.tree + 1) [.nodes p.flags p.tree] place).map (·.position)

/-- Whether the pattern matches somewhere in a text. -/
def occursIn (p : Pattern) (s : String) : Bool :=
  let text := s.toList.toArray
  (List.range (text.size + 1)).any fun i => (p.matchAt text i).isSome

end ProxyTrial.Pattern
