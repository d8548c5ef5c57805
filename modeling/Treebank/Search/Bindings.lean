import Treebank.Relation.Candidates

/-!
# Bindings of capture names

A match binds capture names to nodes of the tree. The names stand in the order in which they were
bound.
-/

namespace Treebank

/-- Capture names and their nodes, in the order of binding. -/
abbrev Bindings := List (String × Site)

namespace Bindings

/-- The node of a name. -/
def find? (b : Bindings) (name : String) : Option Site := b.lookup name

/-- The bindings with a name bound to a node as well, if it is free or bound to that node. -/
def bind? (b : Bindings) (name : String) (s : Site) : Option Bindings :=
  match b.find? name with
  | none => some (b ++ [(name, s)])
  | some t => if t.same s then some b else none

/-- The bindings with a node bound to a name as well, if there is a name and it is free or bound to
that node. -/
def capture? (b : Bindings) (name : Option String) (s : Site) : Option Bindings :=
  match name with
  | none => some b
  | some n => b.bind? n s

/-- The bindings of some names only. -/
def restrict (b : Bindings) (names : List String) : Bindings :=
  b.filter fun (n, _) => names.contains n

/-- The names and where their nodes stand. -/
def places (b : Bindings) : List (String × List Nat) := b.map fun (n, s) => (n, s.steps)

/-- The names and where their nodes stand, by name; equal for the same bindings in any order. -/
def sortedPlaces (b : Bindings) : List (String × List Nat) :=
  b.places.mergeSort fun x y => decide (x.1 ≤ y.1)

end Bindings

end Treebank
