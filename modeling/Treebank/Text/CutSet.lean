/-!
# Sets of code points

A set of code points is kept as the sorted places where membership changes: a code point belongs to
it when an odd number of places lie at or below it.
-/

namespace Treebank.Text

/-- The sorted places where membership changes, beginning outside the set. -/
structure CutSet where
  cuts : Array Nat

namespace CutSet

/-- The number of cuts at or below `n` among those from `lo` up to `hi`, counted from the first. -/
def rankBetween (cuts : Array Nat) (n : Nat) : (fuel lo hi : Nat) → Nat
  | 0, lo, _ => lo
  | fuel + 1, lo, hi =>
    if lo < hi then
      let mid := (lo + hi) / 2
      if cuts.getD mid 0 ≤ n then rankBetween cuts n fuel (mid + 1) hi
      else rankBetween cuts n fuel lo mid
    else lo

/-- The number of cuts at or below a code point. -/
def rank (s : CutSet) (n : Nat) : Nat := rankBetween s.cuts n s.cuts.size 0 s.cuts.size

/-- Membership of a code point. -/
def containsCode (s : CutSet) (n : Nat) : Bool := s.rank n % 2 == 1

/-- Membership of a character. -/
def contains (s : CutSet) (c : Char) : Bool := s.containsCode c.toNat

end CutSet

end Treebank.Text
