/-!
# Sets of characters as code point intervals

A character class of Unicode is kept as an array of closed intervals in
increasing order and looked up by halving.
-/

namespace ProxyTrial.Text

/-- A set of code points: closed intervals, in increasing order. -/
abbrev CodeRanges := Array (Nat × Nat)

namespace CodeRanges

/-- Whether `n` lies in one of the intervals `lo, …, hi - 1` of the table. -/
def search (table : CodeRanges) (n lo hi : Nat) : Bool :=
  if lo < hi then
    let mid := (lo + hi) / 2
    match table[mid]? with
    | none => false
    | some (first, last) =>
      if n < first then search table n lo mid
      else if last < n then search table n (mid + 1) hi
      else true
  else false
termination_by hi - lo

/-- Whether the character belongs to the set. -/
def contains (table : CodeRanges) (c : Char) : Bool :=
  search table c.toNat 0 table.size

end CodeRanges

end ProxyTrial.Text
