import Treebank.Text.Number

/-!
# Indices of labels

A label may end in a hyphen and a number, its index; a line feed may follow the number.
-/

namespace Treebank.Surgery

open Text

/-- The digits of the index of a label, given the characters of the label from the last on. -/
def indexDigits (rev : List Char) : Option (List Char) :=
  let digits := rev.takeWhile isDecimal
  if !digits.isEmpty && (rev.drop digits.length).head? == some '-' then some digits.reverse
  else none

/-- The digits of the index at the end of a label, if it has one. -/
def labelDigits (label : String) : Option (List Char) :=
  let rev := label.toList.reverse
  indexDigits (if rev.head? == some '\n' then rev.drop 1 else rev)

/-- The index at the end of a label, if it has one. -/
def labelIndex (label : String) : Except NumberFault (Option Nat) :=
  match labelDigits label with
  | none => .ok none
  | some digits => some <$> readNat digits digits

/-- The least number above all indices of labels. -/
def freshIndex (labels : List String) : Except NumberFault Nat := do
  let indices ← labels.mapM labelIndex
  return (indices.filterMap id).foldl max 0 + 1

end Treebank.Surgery
