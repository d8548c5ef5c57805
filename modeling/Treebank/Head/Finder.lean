import Treebank.Head.Category
import Treebank.Site
import Treebank.Text.Quoted

/-!
# Heads of phrases

A head finder tells which child is the head of a phrase. The finders of this module take the first
child, the last child, or the child that a table of head rules prefers. A rule of the table gives a
direction in which the children are looked at, and categories in order of preference.
-/

namespace Treebank

/-- The index of the head among the children of a node; a leaf has no head. A finder may look at the
whole tree around the node. -/
abbrev HeadFinder := Site → Option Nat

/-- The side from which children are looked at. -/
inductive Direction where
  | left
  | right
deriving Repr, DecidableEq

namespace Direction

/-- The direction of this name. -/
def ofName? : String → Option Direction
  | "left" => some left
  | "right" => some right
  | _ => none

/-- The members of a list, each with its index, as they are met in this direction. -/
def arrange (d : Direction) (xs : List α) : List (Nat × α) :=
  let numbered := xs.zipIdx.map fun (x, i) => (i, x)
  match d with
  | left => numbered
  | right => numbered.reverse

end Direction

/-- How the head of a phrase of one category is chosen. -/
structure HeadRule where
  direction : Direction
  priorities : List String
deriving Repr, DecidableEq

/-- Rules by category, and what holds where the table is silent. -/
structure HeadTable where
  rules : List (String × HeadRule)
  category : BasicCategory
  default : Direction

namespace HeadFinder

def firstChild : HeadFinder := fun s => if s.tree.children.isEmpty then none else some 0

def lastChild : HeadFinder := fun s =>
  if s.tree.children.isEmpty then none else some (s.tree.children.length - 1)

end HeadFinder

namespace HeadTable

/-- The first child, in a direction, whose category passes a test. -/
def seek (table : HeadTable) (d : Direction) (test : String → Bool) (children : List Tree) :
    Option Nat :=
  ((d.arrange children).find? fun (_, c) => test (table.category c.label)).map (·.1)

/-- The outermost child in a direction. -/
def outermost (d : Direction) (children : List Tree) : Nat :=
  match d with
  | .left => 0
  | .right => children.length - 1

/-- The searches for the head of a noun phrase, one after the other. -/
def nounPhraseSearches : List (Direction × List String) := [
  (.right, ["NN", "NNP", "NNPS", "NNS", "NX", "POS", "JJR"]),
  (.left, ["NP"]),
  (.right, ["$", "ADJP", "PRN"]),
  (.right, ["CD"]),
  (.right, ["JJ", "JJS", "RB", "QP"])]

/-- The head of a noun phrase: a final possessive marker, else the first hit of the searches, else
the last child. -/
def nounPhraseHead (table : HeadTable) (children : List Tree) : Nat :=
  let last := children.length - 1
  if (children.getLast?.map fun c => table.category c.label) == some "POS" then last
  else
    (nounPhraseSearches.findSome? fun (d, wanted) => table.seek d wanted.contains children).getD last

/-- The head that a rule prefers: the first child of the first category that has one, else the
outermost child. -/
def ruleHead (table : HeadTable) (rule : HeadRule) (children : List Tree) : Nat :=
  (rule.priorities.findSome? fun wanted =>
      table.seek rule.direction (· == wanted) children).getD
    (outermost rule.direction children)

/-- The head finder of a table. Noun phrases have a procedure of their own, unless the table has a
rule for them. -/
def finder (table : HeadTable) : HeadFinder := fun s =>
  match s.tree.children with
  | [] => none
  | [_] => some 0
  | children =>
    let category := table.category s.label
    match table.rules.lookup category with
    | some rule => some (table.ruleHead rule children)
    | none =>
      if category == "NP" then some (table.nounPhraseHead children)
      else some (outermost table.default children)

end HeadTable

end Treebank
