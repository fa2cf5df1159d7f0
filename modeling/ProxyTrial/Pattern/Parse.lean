import ProxyTrial.Pattern.Reader
import ProxyTrial.Text.CharacterName
import ProxyTrial.Text.Identifier
import ProxyTrial.Text.Integer
/-!
# The tree of a pattern

`readPattern` reads the text of a pattern into its tree.  Groups that neither
capture nor change a switch leave no trace in it: their contents take their
place.
-/

namespace ProxyTrial.Pattern

open Reading

/-- Repetition counts are below this number. -/
def repeatLimit : Nat := 4294967295

/-- Group numbers are below this number. -/
def groupLimit : Nat := 1073741823

/-! ## Escapes -/

/-- The class that an escape letter stands for. -/
def classOf : Char → Option CharClass
  | 'd' => some .digit
  | 'D' => some .notDigit
  | 's' => some .space
  | 'S' => some .notSpace
  | 'w' => some .word
  | 'W' => some .notWord
  | _ => none

/-- The place that an escape letter stands for. -/
def anchorOf : Char → Option Anchor
  | 'A' => some .textStart
  | 'b' => some .boundary
  | 'B' => some .notBoundary
  | 'Z' => some .textEnd
  | _ => none

/-- The character that an escape letter stands for. -/
def controlOf : Char → Option Nat
  | 'a' => some 7
  | 'b' => some 8
  | 'f' => some 12
  | 'n' => some 10
  | 'r' => some 13
  | 't' => some 9
  | 'v' => some 11
  | '\\' => some 92
  | _ => none

/-- Whether the character is an octal digit. -/
def isOctal (c : Char) : Bool := '0' ≤ c && c ≤ '7'

/-- The value of octal digits. -/
def octalValue (cs : List Char) : Nat := Text.ofDigits 8 (cs.map fun c => c.toNat - 48)

/-- The text of an escape. -/
def escapeText (cs : List Char) : String := String.ofList ('\\' :: cs)

/-- Reads the hexadecimal digits of an escape. -/
def readHex (letter : Char) (digits : Nat) : Reading Nat := do
  let ds ← takeSome Text.isHexDigit digits
  if ds.length ≠ digits then
    fail (.incompleteEscape (escapeText (letter :: ds))) (ds.length + 2)
  let n := Text.ofHexDigits ds
  if n > 0x10FFFF then fail (.badEscape (escapeText (letter :: ds))) (ds.length + 2)
  return n

/-- Reads an escape that names a code point by number or by name, if the
letter introduces one. -/
def readCodePoint (letter : Char) : Reading (Option Nat) := do
  match letter with
  | 'x' => return some (← readHex letter 2)
  | 'u' => return some (← readHex letter 4)
  | 'U' => return some (← readHex letter 8)
  | 'N' =>
    if !(← accept '{') then fail (.missing "\x7b")
    let name ← takeName '}' "character name"
    match Text.named? (String.ofList name) with
    | some n => return some n
    | none => fail (.undefinedCharacter (String.ofList name)) (name.length + 4)
  | _ => return none

/-- Reads the rest of an octal escape that begins with a digit; three digits
may go beyond an octet. -/
def readOctal (digits : List Char) : Reading Nat := do
  let n := octalValue digits
  if n > 0o377 then fail (.largeOctal (escapeText digits)) (digits.length + 1)
  return n

/-- The character that an escaped character stands for when it has no meaning
of its own; letters are reserved. -/
def plainEscape (c : Char) : Reading Nat := do
  if c.isAlpha then fail (.badEscape (escapeText [c])) 2
  return c.toNat

/-- Reads an escape inside a set of characters. -/
def readSetEscape (c : Char) : Reading SetItem := do
  if let some n := controlOf c then return .char n
  if let some k := classOf c then return .cls k
  if let some n ← readCodePoint c then return .char n
  if isOctal c then
    return .char (← readOctal (c :: (← takeSome isOctal 2)))
  if c.isDigit then fail (.badEscape (escapeText [c])) 2
  return .char (← plainEscape c)

/-- Refers back to a group by its number, written with these digits. -/
def groupReference (digits : List Char) : Reading Node := do
  let group := Text.ofDigits 10 (digits.map fun c => c.toNat - 48)
  if group < (← widths).size then
    if !(← isClosed group) then fail .openGroup (digits.length + 1)
    checkLookbehind group
    return .backReference group
  fail (.invalidGroup group) digits.length

/-- Reads an escape outside sets. -/
def readEscape (c : Char) : Reading Node := do
  if let some k := classOf c then return .set false [.cls k]
  if let some a := anchorOf c then return .anchor a
  if let some n := controlOf c then return .char n
  if let some n ← readCodePoint c then return .char n
  if c = '0' then
    return .char (octalValue (c :: (← takeSome isOctal 2)))
  if c.isDigit then
    match ← takeSome Char.isDigit 1 with
    | [d] =>
      if isOctal c && isOctal d then
        match ← takeSome isOctal 1 with
        | [e] => return .char (← readOctal [c, d, e])
        | _ => groupReference [c, d]
      else groupReference [c, d]
    | _ => groupReference [c]
  else return .char (← plainEscape c)

/-! ## Sets of characters -/

/-- Reads a member of a set that begins with the given token. -/
def readMember : Token → Reading SetItem
  | .escaped c => readSetEscape c
  | .plain c => return .char c.toNat

/-- Reads the members of a set that starts at `start`, after the members
`items`. -/
def readMembers (start : Nat) : (fuel : Nat) → (items : List SetItem) → Reading (List SetItem)
  | 0, items => return items
  | fuel + 1, items => do
    let some this ← take | failAt .unterminatedSet start
    if this = .plain ']' && !items.isEmpty then return items
    let first ← readMember this
    if !(← accept '-') then
      return ← readMembers start fuel (items ++ [first])
    let some that ← take | failAt .unterminatedSet start
    if that = .plain ']' then return items ++ [first, .char 45]
    let last ← readMember that
    let bad := Fault.badRange this.text that.text
    let width := this.chars.length + 1 + that.chars.length
    match first, last with
    | .char lo, .char hi =>
      if hi < lo then fail bad width
      readMembers start fuel (items ++ [.range lo hi])
    | _, _ => fail bad width

/-- Reads a set, its opening bracket having been taken. -/
def readSet : Reading Node := do
  let start := (← position) - 1
  let negated ← accept '^'
  let items ← readMembers start ((← get).reader.rest.length + 2) []
  match negated, items.eraseDups with
  | false, [.char n] => return .char n
  | true, [.char n] => return .notChar n
  | _, items => return .set negated items

/-! ## Repetition -/

/-- A repetition count. -/
def readCount (digits : List Char) : Reading Nat := do
  if digits.length > Text.digitLimit then throw (.longNumber digits.length)
  let n := Text.ofDigits 10 (digits.map fun c => c.toNat - 48)
  if n ≥ repeatLimit then throw .largeRepeat
  return n

/-- Reads the bounds of a repetition after its opening brace.  A brace that
does not open any stands for itself. -/
def readBounds : Reading (Option (Nat × Option Nat)) := do
  let here ← position
  let saved ← get
  if (← peek) = some (.plain '}') then return none
  let lo ← takeDigits
  let hi ← if ← accept ',' then takeDigits else pure lo
  if !(← accept '}') then
    set saved
    return none
  let least ← if lo.isEmpty then pure 0 else readCount lo
  if hi.isEmpty then return some (least, none)
  let most ← readCount hi
  if most < least then failAt .crossedBounds here
  return some (least, some most)

/-- The bounds that a repetition sign stands for, its character having been
taken. -/
def readQuantity : Char → Reading (Option (Nat × Option Nat))
  | '?' => return some (0, some 1)
  | '*' => return some (0, none)
  | '+' => return some (1, none)
  | _ => readBounds

/-- What a repetition repeats: the contents of a bare group, or the node. -/
def repeatedBody : Node → List Node
  | .group none on off body =>
    if on = {} ∧ off = {} then body else [.group none on off body]
  | n => [n]

/-- Reads the mark after a repetition sign that says how much is taken
first. -/
def readGreed : Reading Greed := do
  if ← accept '?' then return .lazy
  if ← accept '+' then return .possessive
  return .greedy

/-- Reads a repetition sign that follows the nodes `items`, newest first. -/
def readRepeat (sign : Char) (items : List Node) : Reading (List Node) := do
  let start := (← position) - 1
  let some (least, most) ← readQuantity sign | return .char sign.toNat :: items
  match items with
  | [] | .anchor _ :: _ => failAt .nothingToRepeat start
  | .repeated _ _ _ _ :: _ => failAt .multipleRepeat start
  | item :: earlier =>
    return .repeated (← readGreed) least most (repeatedBody item) :: earlier

/-! ## Switches -/

/-- The switch of a letter. -/
def flagOf : Char → Option Flags
  | 'i' => some { ignoreCase := true }
  | 'm' => some { multiline := true }
  | 's' => some { dotAll := true }
  | 'x' => some { verbose := true }
  | 'a' => some { ascii := true }
  | 'u' => some { unicode := true }
  | 't' => some { template := true }
  | 'L' => some {}
  | _ => none

/-- The fault of a token that is no switch. -/
def flagFault (t : Token) (missing : String) : Fault :=
  match t with
  | .plain c => if Text.isLetter c then .unknownFlag else .missing missing
  | .escaped _ => .missing missing

/-- Reads the switches to turn on, from the letter `c`, up to the character
that ends them. -/
def readOn : (fuel : Nat) → (c : Char) → (on : Flags) → Reading (Flags × Char)
  | 0, c, on => return (on, c)
  | fuel + 1, c, on => do
    if c = 'L' then fail .localeFlag
    let on := on.union ((flagOf c).getD {})
    if (c = 'a' || c = 'u') && on.ascii && on.unicode then fail .clashingFlags
    match ← take with
    | none => fail (.missing "-, : or )")
    | some t =>
      match t with
      | .plain d =>
        if d = ')' || d = '-' || d = ':' then return (on, d)
        if (flagOf d).isSome then return ← readOn fuel d on
        fail (flagFault t "-, : or )") 1
      | .escaped _ => fail (flagFault t "-, : or )") 2

/-- Reads the switches to turn off, from the letter `c`, up to the colon. -/
def readOff : (fuel : Nat) → (c : Char) → (off : Flags) → Reading Flags
  | 0, _, off => return off
  | fuel + 1, c, off => do
    if c = 'a' || c = 'u' || c = 'L' then fail .fixedFlagOff
    let off := off.union ((flagOf c).getD {})
    match ← take with
    | none => fail (.missing ":")
    | some t =>
      match t with
      | .plain d =>
        if d = ':' then return off
        if (flagOf d).isSome then return ← readOff fuel d off
        fail (flagFault t ":") 1
      | .escaped _ => fail (flagFault t ":") 2

/-- Reads the switches of a group, from its first character.  Without a colon
they hold for the whole pattern and the answer is `none`. -/
def readFlags (c : Char) : Reading (Option (Flags × Flags)) := do
  let fuel := (← get).reader.rest.length + 2
  let (on, ending) ← if c = '-' then pure ({}, '-') else readOn fuel c {}
  if ending = ')' then
    modify fun s => { s with flags := s.flags.union on }
    return none
  if on.template then fail .globalOn 1
  let off ← if ending = '-' then readOffStart fuel else pure {}
  if off.template then fail .globalOff 1
  if on.meets off then fail .flagOnAndOff 1
  return some (on, off)
where
  /-- The first switch to turn off. -/
  readOffStart (fuel : Nat) : Reading Flags := do
    match ← take with
    | none => fail (.missing "flag")
    | some t =>
      match t with
      | .plain d =>
        if (flagOf d).isSome then readOff fuel d {} else fail (flagFault t "flag") 1
      | .escaped _ => fail (flagFault t "flag") 2

/-! ## Groups -/

/-- Opens a capturing group. -/
def openGroup (name : Option (List Char)) : Reading Nat := do
  let group := (← widths).size
  modify fun s => { s with widths := s.widths.push none }
  if let some cs := name then
    let name := String.ofList cs
    match (← get).names.lookup name with
    | some earlier => fail (.redefinedGroup name group earlier) (cs.length + 1)
    | none => modify fun s => { s with names := (name, group) :: s.names }
  return group

/-- Closes a capturing group with the given contents. -/
def closeGroup (group : Nat) (body : List Node) : Reading Unit :=
  modify fun s =>
    { s with widths := s.widths.setIfInBounds group (some (sequenceWidth s.widths body)) }

/-- Reads the name of a group and checks it. -/
def readGroupName (terminator : Char) : Reading (List Char) := do
  let name ← takeName terminator "group name"
  if !Text.isIdentifier name then
    fail (.badGroupName (String.ofList name)) (name.length + 1)
  return name

/-- Reads a reference to a named group. -/
def readNamedReference : Reading Node := do
  let name ← readGroupName ')'
  match (← get).names.lookup (String.ofList name) with
  | none => fail (.unknownGroup (String.ofList name)) (name.length + 1)
  | some group =>
    if !(← isClosed group) then fail .openGroup (name.length + 1)
    checkLookbehind group
    return .backReference group

/-- Reads the group that a conditional asks for. -/
def readCondition : Reading Nat := do
  let name ← takeName ')' "group name"
  let text := String.ofList name
  let back := name.length + 1
  let group ←
    if Text.isIdentifier name then
      match (← get).names.lookup text with
      | none => fail (.unknownGroup text) back
      | some group => pure group
    else
      match Text.integer? text with
      | some (.ofNat group) =>
        if group = 0 then fail .zeroGroup back
        if group ≥ groupLimit then fail (.invalidGroup group) back
        let place := (← position) - back
        modify fun s =>
          if (s.conditions.lookup group).isSome then s
          else { s with conditions := s.conditions ++ [(group, place)] }
        pure group
      | _ => fail (.badGroupName text) back
  checkLookbehind group
  return group

/-- Skips a comment up to its closing parenthesis. -/
def skipComment (start : Nat) : (fuel : Nat) → Reading Unit
  | 0 => return
  | fuel + 1 => do
    if (← peek).isNone then failAt .unterminatedComment start
    if (← take) = some (.plain ')') then return
    skipComment start fuel

/-- Skips a comment up to the end of its line. -/
def skipLine : (fuel : Nat) → Reading Unit
  | 0 => return
  | fuel + 1 => do
    match ← take with
    | none => return
    | some t => if t = .plain '\n' then return else skipLine fuel

/-- The contents of a choice. -/
def joinBranches : List (List Node) → List Node
  | [branch] => branch
  | branches => [.alternatives branches]

/-- A finished sequence, from its nodes, newest first: bare groups are
replaced by their contents. -/
def finishSequence (items : List Node) : List Node :=
  items.reverse.flatMap fun n =>
    match n with
    | .group none on off body => if on = {} ∧ off = {} then body else [n]
    | n => [n]

/-- What a parenthesis turns out to be. -/
inductive Opening where
  /-- It has been read whole, and stands for these nodes. -/
  | whole (nodes : List Node)
  /-- Switches for the whole pattern. -/
  | switches
  /-- A group that captures, perhaps by a name. -/
  | capture (name : Option (List Char))
  /-- A group that does not capture. -/
  | bare (on off : Flags)
  /-- A group that is not retried. -/
  | atomic
  /-- A look around. -/
  | look (behind negated : Bool)
  /-- A conditional. -/
  | condition

/-- Reads what follows an opening parenthesis, as far as the contents of the
group. -/
def readOpening (start : Nat) : Reading Opening := do
  if !(← accept '?') then return .capture none
  let some t ← take | fail .unexpectedEnd
  match t with
  | .plain 'P' =>
    if ← accept '<' then return .capture (some (← readGroupName '>'))
    if ← accept '=' then return .whole [← readNamedReference]
    let some u ← take | fail .unexpectedEnd
    fail (.unknownExtension ("P" ++ u.text)) (u.chars.length + 2)
  | .plain ':' => return .bare {} {}
  | .plain '#' =>
    skipComment start ((← get).reader.rest.length + 2)
    return .whole []
  | .plain '=' => return .look false false
  | .plain '!' => return .look false true
  | .plain '<' =>
    let some u ← take | fail .unexpectedEnd
    match u with
    | .plain '=' => return .look true false
    | .plain '!' => return .look true true
    | u => fail (.unknownExtension ("<" ++ u.text)) (u.chars.length + 2)
  | .plain '(' => return .condition
  | .plain '>' => return .atomic
  | t =>
    match t with
    | .plain c =>
      if (flagOf c).isSome || c = '-' then
        match ← readFlags c with
        | none => return .switches
        | some (on, off) => return .bare on off
      fail (.unknownExtension t.text) (t.chars.length + 1)
    | .escaped _ => fail (.unknownExtension t.text) (t.chars.length + 1)

/-- Takes the closing parenthesis of a group that starts at `start`. -/
def closeParenthesis (start : Nat) : Reading Unit := do
  if !(← accept ')') then failAt .unterminatedGroup start

mutual

/-- Reads the branches of a choice.  Switches for the whole pattern may stand
at the start of its first branch only, `first` and `top` being set there. -/
def readBranches (top : Bool) :
    (fuel : Nat) → (verbose first : Bool) → Reading (List (List Node))
  | 0, _, _ => return []
  | fuel + 1, verbose, first => do
    let branch ← readSequence fuel verbose (top && first) []
    if ← accept '|' then
      let flags := (← get).flags
      let verbose := if top then flags.verbose else verbose
      return branch :: (← readBranches top fuel verbose false)
    return [branch]

/-- Reads a group, its opening parenthesis having been taken at `start`. -/
def readGroup (start : Nat) (verbose : Bool) : (fuel : Nat) → Opening → Reading (List Node)
  | 0, _ => return []
  | fuel + 1, opening => do
    match opening with
    | .whole nodes => return nodes
    | .switches => return []
    | .condition =>
      let group ← readCondition
      let yes ← readSequence fuel verbose false []
      let no ←
        if ← accept '|' then
          let no ← readSequence fuel verbose false []
          if (← peek) = some (.plain '|') then fail .thirdBranch
          pure no
        else pure []
      closeParenthesis start
      return [.conditional group yes no]
    | .look behind negated =>
      let outer := (← get).lookbehind
      if behind && outer.isNone then
        modify fun s => { s with lookbehind := some s.widths.size }
      let body := joinBranches (← readBranches false fuel verbose true)
      if behind && outer.isNone then
        modify fun s => { s with lookbehind := none }
      closeParenthesis start
      let width := sequenceWidth (← get).widths body
      return [.look (if behind then some width else none) negated body]
    | .capture name =>
      let group ← openGroup name
      let body := joinBranches (← readBranches false fuel verbose true)
      closeParenthesis start
      closeGroup group body
      return [.group (some group) {} {} body]
    | .atomic =>
      let body := joinBranches (← readBranches false fuel verbose true)
      closeParenthesis start
      return [.atomic body]
    | .bare on off =>
      let inner := (verbose || on.verbose) && !off.verbose
      let body := joinBranches (← readBranches false fuel inner true)
      closeParenthesis start
      return [.group none on off body]

/-- Reads a sequence up to the end of its branch, after the nodes `items`,
newest first. -/
def readSequence :
    (fuel : Nat) → (verbose first : Bool) → (items : List Node) → Reading (List Node)
  | 0, _, _, items => return finishSequence items
  | fuel + 1, verbose, first, items => do
    match ← peek with
    | none | some (.plain '|') | some (.plain ')') => return finishSequence items
    | some t =>
      let _ ← take
      match t with
      | .escaped c => readSequence fuel verbose first ((← readEscape c) :: items)
      | .plain c =>
        if verbose && (c = ' ' || (9 ≤ c.toNat && c.toNat ≤ 13)) then
          readSequence fuel verbose first items
        else if verbose && c = '#' then
          skipLine ((← get).reader.rest.length + 2)
          readSequence fuel verbose first items
        else match c with
        | '[' => readSequence fuel verbose first ((← readSet) :: items)
        | '*' | '+' | '?' | '{' => readSequence fuel verbose first (← readRepeat c items)
        | '.' => readSequence fuel verbose first (.any :: items)
        | '^' => readSequence fuel verbose first (.anchor .lineStart :: items)
        | '$' => readSequence fuel verbose first (.anchor .lineEnd :: items)
        | '(' =>
          let start := (← position) - 1
          match ← readOpening start with
          | .switches =>
            if !first || !items.isEmpty then failAt .lateFlags start
            let flags := (← get).flags
            readSequence fuel flags.verbose first items
          | opening =>
            let nodes ← readGroup start verbose fuel opening
            readSequence fuel verbose first (nodes.reverse ++ items)
        | c => readSequence fuel verbose first (.char c.toNat :: items)

end

/-! ## Checks on the tree -/

/-- The name of a repetition in a message. -/
def Greed.operator : Greed → String
  | .greedy => "MAX_REPEAT"
  | .lazy => "MIN_REPEAT"
  | .possessive => "POSSESSIVE_REPEAT"

/-- Whether a lookbehind can step back by the width of its contents. -/
def checkWidth (w : Width) : Except PatternError Unit :=
  if w.1 > repeatLimit then .error (.faultOverall .lookbehindTooFar)
  else if w.1 ≠ w.2 then .error (.faultOverall .lookbehindWidth)
  else .ok ()

mutual

/-- Checks the lookbehinds of a node, and that a template repeats nothing. -/
def checkNode (template : Bool) : Node → Except PatternError Unit
  | .char _ | .notChar _ | .set _ _ | .any | .anchor _ | .backReference _ => .ok ()
  | .group _ _ _ body => checkNodes template body
  | .atomic body => checkNodes template body
  | .alternatives branches => checkBranches template branches
  | .repeated greed _ _ body => do
    if template then throw (.faultOverall (.repeatInTemplate greed.operator))
    checkNodes template body
  | .conditional _ yes no => do
    checkNodes template yes
    checkNodes template no
  | .look behind _ body => do
    if let some w := behind then checkWidth w
    checkNodes template body

/-- Checks the nodes of a sequence. -/
def checkNodes (template : Bool) : List Node → Except PatternError Unit
  | [] => .ok ()
  | n :: ns => do
    checkNode template n
    checkNodes template ns

/-- Checks the branches of a choice. -/
def checkBranches (template : Bool) : List (List Node) → Except PatternError Unit
  | [] => .ok ()
  | b :: bs => do
    checkNodes template b
    checkBranches template bs

end

/-- Reads a whole pattern. -/
def readWhole : Reading (List Node) := do
  let length := (← get).reader.source.length
  let tree := joinBranches (← readBranches true (3 * length + 10) false true)
  let flags := (← get).flags
  if flags.ascii && flags.unicode then throw .asciiAndUnicode
  modify fun s => { s with flags := { flags with unicode := !flags.ascii } }
  if (← peek).isSome then fail .unbalanced
  for (group, place) in (← get).conditions do
    if group ≥ (← widths).size then failAt (.invalidGroup group) place
  return tree

end ProxyTrial.Pattern

namespace ProxyTrial

/-- A pattern that can be searched for. -/
structure Pattern where
  /-- Its text. -/
  source : String
  /-- Its tree. -/
  tree : List Pattern.Node
  /-- The switches of the whole pattern. -/
  flags : Pattern.Flags
  /-- The number of groups, the whole pattern among them. -/
  groups : Nat
  deriving Repr

/-- The pattern with this text. -/
def Pattern.ofText (source : String) : Except PatternError Pattern := do
  let reader ← Pattern.Reader.ofText source
  let (tree, progress) ← Pattern.readWhole.run { reader }
  Pattern.checkNodes progress.flags.template tree
  return { source, tree, flags := progress.flags, groups := progress.widths.size }

end ProxyTrial
