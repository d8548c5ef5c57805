import Treebank.Forest

/-!
# Edits of a forest

The primitive edits, each with the condition under which it refuses. A refused insertion, removal or
detachment changes nothing; a replacement by several nodes keeps what was put in before the refusal.
-/

namespace Treebank.Forest

/-- Why a primitive edit is refused. -/
inductive Error where
  /-- The node to put in stands below another one. -/
  | attached (label : String)
  /-- There is no such slot among the children. -/
  | slotOutOfRange (slot : Int) (label : String)
  /-- The node to take out is no child of the other. -/
  | notAChild (child parent : String)
  /-- A topmost node has no slot to be replaced in. -/
  | replacesRoot (label : String)
deriving Repr, DecidableEq

open Text in
/-- The wording of a refusal. -/
def Error.message : Error → String
  | attached l => s!"node {quoted l} already has a parent; detach it first"
  | slotOutOfRange i l => s!"child index {i} out of range for {quoted l}"
  | notAChild c p => s!"{quoted c} is not a child of {quoted p}"
  | replacesRoot l => s!"cannot replace root node {quoted l} in place"

/-- An edit of a forest, which keeps its changes also when it fails. -/
abbrev Edit (α : Type) := ExceptT Error (StateM Forest) α

/-- Puts a topmost node among the children of another: at a slot, or after all of them. -/
def addChild (parent child : NodeId) (slot : Option Int) : Edit Unit := do
  let f ← get
  if (f.parent? child).isSome then throw (.attached (f.label child))
  let siblings := f.children parent
  let slot := slot.getD siblings.length
  if slot < 0 || slot > siblings.length then throw (.slotOutOfRange slot (f.label parent))
  set ((f.setChildren parent (siblings.insertIdx slot.toNat child)).setParent child (some parent))

/-- The slot of a child. -/
def childIndex (parent child : NodeId) : Edit Nat := do
  let f ← get
  match (f.children parent).idxOf? child with
  | some i => return i
  | none => throw (.notAChild (f.label child) (f.label parent))

/-- Makes a child a topmost node, and tells the slot it had. -/
def removeChild (parent child : NodeId) : Edit Nat := do
  let i ← childIndex parent child
  modify fun f => (f.setChildren parent ((f.children parent).eraseIdx i)).setParent child none
  return i

/-- Makes a node a topmost one, and tells the slot it had, if it had one. -/
def detach (n : NodeId) : Edit (Option Nat) := do
  match (← get).parent? n with
  | none => return none
  | some p => some <$> removeChild p n

/-- Puts nodes among the children of another, one after the other from a slot on. -/
def addChildren (parent : NodeId) (slot : Nat) : List NodeId → Edit Unit
  | [] => return
  | c :: cs => do
    addChild parent c (some slot)
    addChildren parent (slot + 1) cs

/-- Puts other nodes into the slot of a node, in their order, and tells the node above the slot. -/
def replaceWith (n : NodeId) (others : List NodeId) : Edit NodeId := do
  let f ← get
  match f.parent? n with
  | none => throw (.replacesRoot (f.label n))
  | some p =>
    let i ← removeChild p n
    addChildren p i others
    return p

/-- A new node over topmost nodes, put below it one after the other. -/
def newNode (label : String) (children : List NodeId) : Edit NodeId := do
  let (n, f) := (← get).alloc label none
  set f
  for c in children do
    addChild n c none
  return n

/-- The outcome of an edit and the forest after it. -/
def runEdit (f : Forest) (edit : Edit α) : Except Error α × Forest := edit.run.run f

end Treebank.Forest
