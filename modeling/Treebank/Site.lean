import Treebank.Tree

/-!
# Nodes in their trees

A site is a node seen from where it stands: the tree below it, and the nodes above it, each with the
index of the child that leads down. Two sites of one tree are the same node when they have the same
address, the list of indices from the top.
-/

namespace Treebank

structure Site where
  tree : Tree
  /-- The nodes above, the nearest first, each with the index of the child that leads here. -/
  above : List (Nat × Tree)
deriving DecidableEq

/-- The words that a node covers: from number `start` on, up to but without number `stop`. -/
structure Span where
  start : Nat
  stop : Nat
deriving Repr, DecidableEq

namespace Site

/-- The topmost node of a tree. -/
def top (t : Tree) : Site := ⟨t, []⟩

def label (s : Site) : String := s.tree.label

/-- The indices of the children on the way down to the node, the last first. -/
def steps (s : Site) : List Nat := s.above.map (·.1)

/-- The indices of the children on the way down to the node. -/
def address (s : Site) : List Nat := s.steps.reverse

/-- The same node of one tree. -/
def same (s t : Site) : Bool := s.steps == t.steps

/-! ## Steps through the tree -/

/-- The node above. -/
def parent? (s : Site) : Option Site :=
  match s.above with
  | [] => none
  | (_, p) :: rest => some ⟨p, rest⟩

/-- The child of this index. -/
def child? (s : Site) (i : Nat) : Option Site :=
  s.tree.children[i]?.map fun c => ⟨c, (i, s.tree) :: s.above⟩

/-- The children from left to right. -/
def children (s : Site) : List Site :=
  s.tree.children.zipIdx.map fun (c, i) => ⟨c, (i, s.tree) :: s.above⟩

mutual
/-- A node and all nodes below it in preorder. -/
def preorderFrom (above : List (Nat × Tree)) : Tree → List Site
  | .node l cs => ⟨.node l cs, above⟩ :: preorderFromAll above (.node l cs) 0 cs
def preorderFromAll (above : List (Nat × Tree)) (parent : Tree) (i : Nat) : List Tree → List Site
  | [] => []
  | c :: cs => preorderFrom ((i, parent) :: above) c ++ preorderFromAll above parent (i + 1) cs
end

/-- The node and all nodes below it in preorder. -/
def preorder (s : Site) : List Site := preorderFrom s.above s.tree

/-- All nodes below the node in preorder. -/
def descendants (s : Site) : List Site := preorderFromAll s.above s.tree 0 s.tree.children

/-- The nodes above, as long as a test on the child's index and the node holds; the nearest first. -/
def climb (test : Nat → Site → Bool) : List (Nat × Tree) → List Site
  | [] => []
  | (i, p) :: rest => if test i ⟨p, rest⟩ then ⟨p, rest⟩ :: climb test rest else []

/-- All nodes above, the nearest first. -/
def ancestors (s : Site) : List Site := climb (fun _ _ => true) s.above

/-- The nodes above up to the first that fails a test on its label, that one included. -/
def climbThrough (test : String → Bool) : List (Nat × Tree) → List Site
  | [] => []
  | (_, p) :: rest => ⟨p, rest⟩ :: if test p.label then climbThrough test rest else []

mutual
/-- The nodes below one that is passed through only if its label passes a test. -/
def descendThrough (test : String → Bool) (above : List (Nat × Tree)) : Tree → List Site
  | .node l cs => if test l then descendThroughAll test above (.node l cs) 0 cs else []
/-- Children and the nodes reached through them, in preorder. -/
def descendThroughAll (test : String → Bool) (above : List (Nat × Tree)) (parent : Tree) (i : Nat) :
    List Tree → List Site
  | [] => []
  | c :: cs =>
    ⟨c, (i, parent) :: above⟩ :: descendThrough test ((i, parent) :: above) c
      ++ descendThroughAll test above parent (i + 1) cs
end

mutual
/-- The nodes met on the way down when each node picks one of its children. -/
def descend (pick : Site → Option Nat) (above : List (Nat × Tree)) : Tree → List Site
  | .node l cs =>
    match pick ⟨.node l cs, above⟩ with
    | none => []
    | some i => descendAt pick above (.node l cs) i i cs
/-- The way down through child number `i`, the one that `skip` further ones stand before. -/
def descendAt (pick : Site → Option Nat) (above : List (Nat × Tree)) (parent : Tree)
    (i skip : Nat) : List Tree → List Site
  | [] => []
  | c :: cs =>
    match skip with
    | 0 => ⟨c, (i, parent) :: above⟩ :: descend pick ((i, parent) :: above) c
    | skip + 1 => descendAt pick above parent i skip cs
end

/-! ## Words covered -/

/-- The number of words of the whole tree that stand before a node. -/
def wordsBefore : List (Nat × Tree) → Nat
  | [] => 0
  | (i, p) :: rest => wordsBefore rest + Tree.leafCounts (p.children.take i)

/-- The words that a node covers. -/
def span (s : Site) : Span :=
  let start := wordsBefore s.above
  ⟨start, start + s.tree.leafCount⟩

end Site

end Treebank
