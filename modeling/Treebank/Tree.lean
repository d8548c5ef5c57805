import Treebank.Json

/-!
# Ordered labelled trees

A tree is a label over a list of trees. A word is a tree without children, a preterminal has one
word below it.
-/

namespace Treebank

inductive Tree where
  | node (label : String) (children : List Tree)
deriving Repr

namespace Tree

instance : Inhabited Tree := ⟨node "" []⟩

def label : Tree → String
  | node l _ => l

def children : Tree → List Tree
  | node _ cs => cs

/-- A tree without children. -/
def leaf (label : String) : Tree := node label []

/-- No children. -/
def isLeaf (t : Tree) : Bool := t.children.isEmpty

/-- Exactly one child, and that a leaf. -/
def isPreterminal (t : Tree) : Bool :=
  match t.children with
  | [c] => c.isLeaf
  | _ => false

mutual
/-- Equality of labels and shape, decided node by node. -/
def decideEq : (a b : Tree) → Decidable (a = b)
  | node l cs, node m ds =>
    match decEq l m, decideEqs cs ds with
    | isTrue hl, isTrue hc => isTrue (by rw [hl, hc])
    | isFalse hl, _ => isFalse fun h => hl (by injection h)
    | _, isFalse hc => isFalse fun h => hc (by injection h)
def decideEqs : (cs ds : List Tree) → Decidable (cs = ds)
  | [], [] => isTrue rfl
  | [], _ :: _ => isFalse nofun
  | _ :: _, [] => isFalse nofun
  | c :: cs, d :: ds =>
    match decideEq c d, decideEqs cs ds with
    | isTrue hc, isTrue hs => isTrue (by rw [hc, hs])
    | isFalse hc, _ => isFalse fun h => hc (by injection h)
    | _, isFalse hs => isFalse fun h => hs (by injection h)
end

instance : DecidableEq Tree := decideEq

mutual
/-- The number of nodes. -/
def size : Tree → Nat
  | node _ cs => 1 + sizes cs
def sizes : List Tree → Nat
  | [] => 0
  | c :: cs => size c + sizes cs
end

mutual
/-- The number of nodes on the longest way down. -/
def height : Tree → Nat
  | node _ cs => 1 + heights cs
def heights : List Tree → Nat
  | [] => 0
  | c :: cs => max (height c) (heights cs)
end

mutual
/-- The number of leaves; a leaf has one, itself. -/
def leafCount : Tree → Nat
  | node _ [] => 1
  | node _ (c :: cs) => leafCount c + leafCounts cs
def leafCounts : List Tree → Nat
  | [] => 0
  | c :: cs => leafCount c + leafCounts cs
end

mutual
/-- The labels of the leaves from left to right. -/
def words : Tree → List String
  | node l [] => [l]
  | node _ (c :: cs) => words c ++ wordsOf cs
def wordsOf : List Tree → List String
  | [] => []
  | c :: cs => words c ++ wordsOf cs
end

mutual
/-- Depth and label of every node in preorder, the topmost at the given depth. -/
def outline (depth : Nat) : Tree → List (Nat × String)
  | node l cs => (depth, l) :: outlines (depth + 1) cs
def outlines (depth : Nat) : List Tree → List (Nat × String)
  | [] => []
  | c :: cs => outline depth c ++ outlines depth cs
end

/-- The node reached by taking the children with these indices one after the other. -/
def get? : Tree → List Nat → Option Tree
  | t, [] => some t
  | t, i :: path =>
    match t.children[i]? with
    | some c => c.get? path
    | none => none

mutual
/-- A tree as a JSON value of labels and children. -/
def toJson : Tree → Json
  | node l cs => .obj [("label", .str l), ("children", .arr (toJsons cs))]
def toJsons : List Tree → List Json
  | [] => []
  | c :: cs => toJson c :: toJsons cs
end

end Tree

end Treebank
