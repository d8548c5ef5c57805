import Treebank.Head.Finder
import Treebank.Relation
import Treebank.Site

/-!
# The nodes in a relation to a node

For every relation and every node `A`, the nodes `B` such that `A` stands in the relation to `B`:
children from left to right, descendants in preorder, ancestors the nearest first, and all others in
the preorder of the whole tree.

Most relations pick one child of each node: the first, the last, the only one, the head, or one by
its number. Such a pick gives four relations, of one step or many, down or up.
-/

namespace Treebank

/-- What a relation is looked up in: the nodes of the tree in preorder with the words they cover,
and the notions of head and category. -/
structure Grounds where
  nodes : List (Site × Span)
  head : HeadFinder
  category : BasicCategory

namespace Grounds

/-- The grounds that a tree gives. -/
def ofTree (t : Tree) (head : HeadFinder) (category : BasicCategory) : Grounds :=
  ⟨(Site.top t).preorder.map fun s => (s, s.span), head, category⟩

end Grounds

/-! ## Picks -/

/-- A choice of at most one child of a node, by its index. -/
abbrev Pick := Site → Option Nat

namespace Pick

def first : Pick := fun s => if s.tree.children.isEmpty then none else some 0

def last : Pick := fun s =>
  if s.tree.children.isEmpty then none else some (s.tree.children.length - 1)

def only : Pick := fun s => if s.tree.children.length == 1 then some 0 else none

/-- Child number `index`, from the left if positive, from the right if negative. -/
def ith (index : Option Int) : Pick := fun s =>
  let count := s.tree.children.length
  match index with
  | none => none
  | some (.ofNat 0) => none
  | some (.ofNat (n + 1)) => if n < count then some n else none
  | some (.negSucc n) => if n < count then some (count - 1 - n) else none

end Pick

namespace Site

/-- The child that is picked. -/
def picked (pick : Pick) (s : Site) : List Site :=
  match pick s with
  | none => []
  | some i => (s.child? i).toList

/-- The node above, if it picks this one. -/
def pickedBy (pick : Pick) (s : Site) : List Site :=
  match s.above with
  | [] => []
  | (i, p) :: rest => if pick ⟨p, rest⟩ == some i then [⟨p, rest⟩] else []

/-- The picked child, the one that it picks, and so on. -/
def pickedDown (pick : Pick) (s : Site) : List Site := descend pick s.above s.tree

/-- The nodes above as long as each picks the one below. -/
def pickedUp (pick : Pick) (s : Site) : List Site := climb (fun i p => pick p == some i) s.above

/-! ## Sisters -/

/-- The children of the node above with their indices, and the index of this one among them. -/
def family (s : Site) : Option (Nat × List (Nat × Site)) :=
  match s.above with
  | [] => none
  | (i, p) :: rest =>
    some (i, p.children.zipIdx.map fun (c, j) => (j, ⟨c, (j, p) :: rest⟩))

/-- The sisters whose index, compared with the own one, passes a test. -/
def sistersBy (test : Nat → Nat → Bool) (s : Site) : List Site :=
  match s.family with
  | none => []
  | some (i, all) => (all.filter fun (j, _) => test i j).map (·.2)

end Site

namespace Relation

/-- The nodes of the tree whose words compare with the words of this node as a test tells. -/
def spanning (g : Grounds) (s : Site) (test : Span → Span → Bool) : List Site :=
  let here := s.span
  (g.nodes.filter fun (_, other) => test here other).map (·.1)

/-- The nodes that a node stands in the relation to. -/
def candidates (r : Relation) (g : Grounds) (s : Site) : List Site :=
  match r with
  | parentOf => s.children
  | childOf => s.parent?.toList
  | dominates => s.descendants
  | dominatedBy => s.ancestors
  | sister => s.sistersBy fun i j => j != i
  | immediateLeftSister => s.sistersBy fun i j => j == i + 1
  | immediateRightSister => s.sistersBy fun i j => j + 1 == i
  | leftSister => s.sistersBy fun i j => i < j
  | rightSister => s.sistersBy fun i j => j < i
  | immediatelyPrecedes => spanning g s fun here other => other.start == here.stop
  | precedes => spanning g s fun here other => here.stop ≤ other.start
  | immediatelyFollows => spanning g s fun here other => other.stop == here.start
  | follows => spanning g s fun here other => other.stop ≤ here.start
  | identity => [s]
  | immediatelyHeadedBy => s.picked g.head
  | immediateHeadOf => s.pickedBy g.head
  | headedBy => s.pickedDown g.head
  | headOf => s.pickedUp g.head
  | firstChild => s.picked Pick.first
  | lastChild => s.picked Pick.last
  | onlyChild => s.picked Pick.only
  | firstChildOf => s.pickedBy Pick.first
  | lastChildOf => s.pickedBy Pick.last
  | onlyChildOf => s.pickedBy Pick.only
  | leftmostDescendant => s.pickedDown Pick.first
  | rightmostDescendant => s.pickedDown Pick.last
  | leftmostDescendantOf => s.pickedUp Pick.first
  | rightmostDescendantOf => s.pickedUp Pick.last
  | unaryPathTo => s.pickedDown Pick.only
  | unaryPathFrom => s.pickedUp Pick.only
  | ithChild i => s.picked (Pick.ith i)
  | ithChildOf i => s.pickedBy (Pick.ith i)
  | dominatesVia d =>
    Site.descendThroughAll (d.accepts g.category) s.above s.tree 0 s.tree.children
  | dominatedByVia d => Site.climbThrough (d.accepts g.category) s.above

end Relation

end Treebank
