/-!
# Prefix codes

A canonical prefix code is given by the length of the code word of each symbol.
Code words are consecutive binary numbers, the shorter ones first, and among
those of one length the symbols are in order.  A code word is read bit by bit
from its first one on.
-/

namespace ProxyTrial.Deflate

/-- The longest code word. -/
def longestWord : Nat := 15

/-- A canonical prefix code. -/
structure PrefixCode where
  /-- How many code words there are of each length from one on. -/
  counts : List Nat
  /-- The symbols in the order of their code words. -/
  symbols : Array Nat

namespace PrefixCode

/-- The symbols whose code words have a length, in order. -/
def symbolsOf (lengths : List Nat) (length : Nat) : List Nat :=
  (List.range lengths.length).filter fun s => lengths[s]? == some length

/-- The code in which the symbols have code words of these lengths; zero stands
for no code word. -/
def ofLengths (lengths : List Nat) : PrefixCode :=
  let groups := (List.range longestWord).map fun n => symbolsOf lengths (n + 1)
  { counts := groups.map List.length, symbols := groups.flatten.toArray }

/-- The length of the longest code word; at least one bit is read. -/
def depth (c : PrefixCode) : Nat :=
  max 1 (lastPositive c.counts)
where
  /-- The number of elements up to the last one that is not zero. -/
  lastPositive (xs : List Nat) : Nat := (xs.reverse.dropWhile (· == 0)).length

/-- What is left of the binary tree after the code words of the lengths from
`room` places on; nothing if there are too many. -/
def leftOver (room : Nat) : List Nat → Option Nat
  | [] => some room
  | count :: counts => if 2 * room < count then none else leftOver (2 * room - count) counts

/-- Whether a code may be used.  A code must not have too many code words; if
it has too few, it may have a single one of one bit, or none at all. -/
def isUsable (c : PrefixCode) (strict : Bool) : Bool :=
  c.symbols.isEmpty || match leftOver 1 c.counts with
    | none => false
    | some 0 => true
    | some _ => !strict && c.depth == 1

/-- The outcome of reading a code word. -/
inductive Reading where
  | symbol (s : Nat) (rest : List Bool)
  /-- No code word begins like this. -/
  | none
  /-- The bits end inside a code word. -/
  | ended

/-- Reads on after bits of value `code`, the code words of that length starting
at `first` and their symbols at `index`. -/
def readFrom (symbols : Array Nat) (code first index : Nat) : List Nat → List Bool → Reading
  | [], _ => .none
  | _ :: _, [] => .ended
  | count :: counts, bit :: bits =>
    let code := 2 * code + bit.toNat
    let first := 2 * first
    if code < first + count then
      match symbols[index + (code - first)]? with
      | some s => .symbol s bits
      | Option.none => .none
    else readFrom symbols code (first + count) (index + count) counts bits

/-- Reads a code word. -/
def read (c : PrefixCode) (bits : List Bool) : Reading :=
  readFrom c.symbols 0 0 0 (c.counts.take c.depth) bits

end PrefixCode

end ProxyTrial.Deflate
