import Treebank.Reduction

/-!
# Results

What has become of the trees that were reduced, one by one and in total.
-/

namespace Treebank

/-- What has become of a tree. Trees are told by their top nodes while there is work on the forest,
and then read off it. -/
structure Result (τ : Type) where
  index : Int
  /-- The tree as it was given; for a tree reduced by itself, what hangs from its former top. -/
  given : τ
  tree : Option τ
  applications : Nat
  ruleCounts : List (String × Nat)
  budgetExhausted : Bool
  error : Option Diagnostic
deriving DecidableEq

/-- What has become of a tree, with the trees themselves. -/
abbrev TreeResult := Result Tree

namespace Result

variable {τ : Type}

/-- Some rule was applied. -/
def matched (r : Result τ) : Bool := r.applications != 0

/-- The whole tree was removed. -/
def deleted (r : Result τ) : Bool := r.tree.isNone && r.error.isNone

/-- The result of reduction that was not interrupted. -/
def ofProgress (given : NodeId) (p : Progress) : Result NodeId where
  index := p.index
  given := given
  tree := p.root
  applications := p.applications
  ruleCounts := p.ruleCounts
  budgetExhausted := p.budgetExhausted
  error := none

/-- The result for a tree whose surgery failed. -/
def ofFailure (index : Int) (given tree : NodeId) (d : Diagnostic) : Result NodeId where
  index := index
  given := given
  tree := some tree
  applications := 0
  ruleCounts := []
  budgetExhausted := false
  error := some d

/-- The result with the trees that hang from its nodes. -/
def read (f : Forest) (r : Result NodeId) : TreeResult :=
  { r with given := f.tree r.given, tree := r.tree.map f.tree }

end Result

/-- Totals over trees. -/
structure Totals where
  ruleCounts : List (String × Nat)
  trees : Nat
  matched : Nat
  deleted : Nat
  failed : Nat
  budgetExhausted : Nat
deriving Repr, DecidableEq

namespace Totals

def zero : Totals := ⟨[], 0, 0, 0, 0, 0⟩

/-- One more if a condition holds. -/
def countIf (b : Bool) (n : Nat) : Nat := if b then n + 1 else n

/-- The totals with a further result. Of a failed tree no more is counted than its failure. -/
def add {τ : Type} (s : Totals) (r : Result τ) : Totals :=
  if r.error.isSome then { s with trees := s.trees + 1, failed := s.failed + 1 }
  else
    { s with
      trees := s.trees + 1
      ruleCounts := r.ruleCounts.foldl (fun counts (name, n) => addCount name n counts) s.ruleCounts
      matched := countIf r.matched s.matched
      deleted := countIf r.tree.isNone s.deleted
      budgetExhausted := countIf r.budgetExhausted s.budgetExhausted }

/-- The totals as a record, with the names of the rules in use. -/
def toJson (rules : List String) (s : Totals) : Json := .obj [
  ("rules", .arr (rules.map .str)),
  ("rule_counts", .obj (s.ruleCounts.map fun (name, n) => (name, .num n))),
  ("trees", .num s.trees),
  ("matched", .num s.matched),
  ("deleted", .num s.deleted),
  ("failed", .num s.failed),
  ("budget_exhausted", .num s.budgetExhausted)]

end Totals

end Treebank
