import Treebank.Text.Quoted
import Treebank.Tree.Bracketed

/-!
# Forests of editable nodes

A forest holds every node that was ever made, in the order of making; a node is known by its number
in that order, which no later edit changes. A node knows its label, its parent and its children.
Nodes that an edit cuts off stay in the forest, as the tops of trees of their own.

An edit of the forest may fail. It then leaves behind what it had done before the failure.
-/

namespace Treebank

/-- The number of a node in the order of making. -/
abbrev NodeId := Nat

/-- A node of a forest. -/
structure Node where
  label : String
  parent : Option NodeId
  children : List NodeId
deriving Repr, DecidableEq

instance : Inhabited Node := ⟨"", none, []⟩

structure Forest where
  nodes : Array Node
deriving Repr, DecidableEq

namespace Forest

/-- The forest without nodes. -/
def empty : Forest := ⟨#[]⟩

/-- The number of nodes made so far. -/
def size (f : Forest) : Nat := f.nodes.size

/-- The node with this number; a number not given out yet has no parent, no children and no text. -/
def node (f : Forest) (n : NodeId) : Node := f.nodes.getD n default

def label (f : Forest) (n : NodeId) : String := (f.node n).label

def parent? (f : Forest) (n : NodeId) : Option NodeId := (f.node n).parent

def children (f : Forest) (n : NodeId) : List NodeId := (f.node n).children

/-- A node without children. -/
def isLeaf (f : Forest) (n : NodeId) : Bool := (f.children n).isEmpty

/-- A node with exactly one child, which is a leaf. -/
def isPreterminal (f : Forest) (n : NodeId) : Bool :=
  match f.children n with
  | [c] => f.isLeaf c
  | _ => false

/-- The forest with one node changed. -/
def adjust (f : Forest) (n : NodeId) (change : Node → Node) : Forest :=
  ⟨f.nodes.modify n change⟩

def setLabel (f : Forest) (n : NodeId) (label : String) : Forest :=
  f.adjust n fun v => { v with label }

def setParent (f : Forest) (n : NodeId) (parent : Option NodeId) : Forest :=
  f.adjust n fun v => { v with parent }

def setChildren (f : Forest) (n : NodeId) (children : List NodeId) : Forest :=
  f.adjust n fun v => { v with children }

/-- A new node without children, and the forest that has it. -/
def alloc (f : Forest) (label : String) (parent : Option NodeId) : NodeId × Forest :=
  (f.size, ⟨f.nodes.push ⟨label, parent, []⟩⟩)

/-! ## Looking around -/

/-- The nodes above a node, the nearest first, up to a number of them. -/
def ancestorsUpTo (f : Forest) : Nat → NodeId → List NodeId
  | 0, _ => []
  | fuel + 1, n =>
    match f.parent? n with
    | none => []
    | some p => p :: f.ancestorsUpTo fuel p

/-- The nodes above a node, the nearest first. Their number is below the size of the forest, since
no node is above itself. -/
def ancestors (f : Forest) (n : NodeId) : List NodeId := f.ancestorsUpTo f.size n

/-- The topmost node of the tree that a node stands in. -/
def root (f : Forest) (n : NodeId) : NodeId := (f.ancestors n).getLastD n

/-- `a` is above `b`. -/
def dominates (f : Forest) (a b : NodeId) : Bool := (f.ancestors b).contains a

/-- The way up from a node leads back to where it has been. -/
def endlessAbove (f : Forest) (n : NodeId) : Bool := f.size ≤ (f.ancestors n).length

/-- The nodes from a node downwards in preorder, as deep as the first argument tells. -/
def preorderUpTo (f : Forest) : Nat → NodeId → List NodeId
  | 0, n => [n]
  | fuel + 1, n => n :: (f.children n).flatMap (f.preorderUpTo fuel)

/-- A node and the nodes below it in preorder. -/
def preorder (f : Forest) (n : NodeId) : List NodeId := f.preorderUpTo f.size n

/-- The tree from a node downwards, as deep as the first argument tells. -/
def treeUpTo (f : Forest) : Nat → NodeId → Tree
  | 0, n => .node (f.label n) []
  | fuel + 1, n => .node (f.label n) ((f.children n).map (f.treeUpTo fuel))

/-- The tree that a node is the top of. -/
def tree (f : Forest) (n : NodeId) : Tree := f.treeUpTo f.size n

/-- Some way down from a node leads back to where it has been. -/
def endlessBelow (f : Forest) (n : NodeId) : Bool := f.size < (f.tree n).height

/-- The node reached from another by taking the children with these indices. -/
def follow? (f : Forest) : NodeId → List Nat → Option NodeId
  | n, [] => some n
  | n, i :: path => ((f.children n)[i]?).bind (f.follow? · path)

/-- The indices of the children that lead from the topmost node above down to a node. -/
def path (f : Forest) (n : NodeId) : List Nat :=
  let spine := n :: f.ancestors n
  ((spine.zip spine.tail).map fun (c, p) => (f.children p).idxOf c).reverse

/-- The text of the tree below a node; a word within a tree is its bare label. -/
def bracketed (f : Forest) (n : NodeId) : String :=
  String.ofList ((f.tree n).spellAt (f.parent? n).isNone)

/-- The indented form of the tree below a node. -/
def pretty (f : Forest) (n : NodeId) (indent : Int) : String :=
  String.ofList ((f.tree n).layout (f.parent? n).isNone indent)

/-! ## Adding whole trees -/

mutual
/-- The nodes of a tree are made in preorder, and its top is put under the given parent. -/
def plantUnder (parent : Option NodeId) : Tree → Forest → NodeId × Forest
  | .node l cs, f =>
    let (n, f) := f.alloc l parent
    let (ids, f) := plantAllUnder n cs f
    (n, f.setChildren n ids)
def plantAllUnder (parent : NodeId) : List Tree → Forest → List NodeId × Forest
  | [], f => ([], f)
  | c :: cs, f =>
    let (n, f) := plantUnder (some parent) c f
    let (ns, f) := plantAllUnder parent cs f
    (n :: ns, f)
end

/-- The forest with a further tree, and the top of it. -/
def plant (f : Forest) (t : Tree) : NodeId × Forest := plantUnder none t f

/-- A forest of one tree, and its top. -/
def ofTree (t : Tree) : NodeId × Forest := empty.plant t

/-- The forest with further trees, and their tops. -/
def plantEach (f : Forest) : List Tree → List NodeId × Forest
  | [] => ([], f)
  | t :: ts =>
    let (n, f) := f.plant t
    let (ns, f) := f.plantEach ts
    (n :: ns, f)

/-- The forest with a further tree like the one below a node, and the top of it. -/
def duplicate (f : Forest) (n : NodeId) : NodeId × Forest := f.plant (f.tree n)

mutual
/-- The nodes of a tree are made in postorder, every node after its children. -/
def graft : Tree → Forest → NodeId × Forest
  | .node l cs, f =>
    let (ids, f) := graftAll cs f
    let (n, f) := f.alloc l none
    (n, (ids.foldl (fun f c => f.setParent c (some n)) f).setChildren n ids)
def graftAll : List Tree → Forest → List NodeId × Forest
  | [], f => ([], f)
  | c :: cs, f =>
    let (n, f) := graft c f
    let (ns, f) := graftAll cs f
    (n :: ns, f)
end

/-- A copy of the tree below a node, made of new nodes. -/
def deepCopy (f : Forest) (n : NodeId) : NodeId × Forest := graft (f.tree n) f

end Forest

end Treebank
