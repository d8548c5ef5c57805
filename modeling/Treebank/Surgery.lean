import Treebank.Forest.Edit
import Treebank.Regex.Error
import Treebank.Search.Bindings

/-!
# Trees under surgery

While statements are carried out on a tree, its nodes stand in a forest, together with the copies
put in and the nodes cut off. A table tells which node a name stands for. A statement that fails
leaves behind what it had done before the failure.
-/

namespace Treebank

namespace Surgery

/-- A tree under surgery. -/
structure State where
  forest : Forest
  /-- The top of the tree, until the whole tree is removed. -/
  root : Option NodeId
  names : List (String × NodeId)
deriving DecidableEq

/-- Why a statement cannot be carried out. -/
inductive Error where
  | unbound (name : String)
  /-- The root has no sisters. -/
  | sisterOfRoot (name : String)
  | noSuchPlace (index : Int) (target : String) (count : Nat)
  | notAbove (outer inner : String)
  /-- The node has left the tree. -/
  | cutOff (name : String)
  /-- Only a root with a single child can be cut out. -/
  | rootWithChildren (name : String) (count : Nat)
  /-- The replacement text cannot be applied. -/
  | badReplacement (name replacement : String) (e : Regex.Error)
  /-- The replacement text refers to a group by a name that there is not. -/
  | unknownGroup (group : String)
  | movesRoot (name : String)
  | movesIntoSelf (name : String)
  /-- The tree of an adjunction has no foot. -/
  | footless
  /-- An index of a label cannot be read, or the next one not be written. -/
  | badIndex (f : Text.NumberFault)
  /-- A primitive edit is refused. -/
  | refused (e : Forest.Error)
  /-- A walk through the nodes never ends. -/
  | endless
deriving Repr, DecidableEq

/-- The wording of a failure. -/
def Error.message : Error → String
  | unbound n => s!"capture '{n}' is not bound in this match"
  | sisterOfRoot n => s!"cannot place a sister next to root node '{n}'"
  | noSuchPlace i t c => s!"child position {i} is out of range for '{t}' with {c} children"
  | notAbove o i => s!"excise requires '{o}' to dominate or equal '{i}'"
  | cutOff n => s!"node '{n}' is no longer part of the tree"
  | rootWithChildren n k =>
    s!"excising the root requires '{n}' to have exactly one child, found {k}"
  | badReplacement n replacement e => s!"cannot relabel '{n}': {e.message replacement}"
  | unknownGroup g => (Regex.Problem.unknownName g).message
  | movesRoot n => s!"cannot move root node '{n}'"
  | movesIntoSelf n => s!"cannot move '{n}' into its own subtree"
  | footless => ""
  | badIndex f => f.message
  | refused e => e.message
  | endless => ""

/-- The failure of a relabelling whose replacement text cannot be applied. A group that there is not
is told as it is. -/
def Error.ofReplacement (name replacement : String) : Regex.Error → Error
  | .malformed (.unknownName g) _ => unknownGroup g
  | e => badReplacement name replacement e

namespace State

/-- The name stands for the node from now on. -/
def bind (s : State) (name : String) (n : NodeId) : State :=
  if (s.names.lookup name).isSome then
    { s with names := s.names.map fun (m, k) => if m == name then (m, n) else (m, k) }
  else { s with names := s.names ++ [(name, n)] }

/-- The names stand for their nodes from now on; of a name given twice the last node counts. -/
def bindAll (s : State) (named : List (String × NodeId)) : State :=
  named.foldl (fun s (name, n) => s.bind name n) s

/-- A tree of a forest before surgery, with the nodes of it that names stand for. -/
def within (f : Forest) (top : NodeId) (b : Bindings) : State :=
  ⟨f, some top, b.filterMap fun (name, s) => (f.follow? top s.address).map (name, ·)⟩

/-- A tree by itself before surgery, with the nodes of it that names stand for. -/
def start (t : Tree) (b : Bindings) : State :=
  let (top, forest) := Forest.ofTree t
  within forest top b

/-- The tree, unless it is removed. -/
def tree? (s : State) : Option Tree := s.root.map s.forest.tree

end State

end Surgery

/-- A step of surgery, which keeps its changes also when it fails. -/
abbrev Surgery (α : Type) := ExceptT Surgery.Error (StateM Surgery.State) α

namespace Surgery

def forest : Surgery Forest := return (← get).forest

def root : Surgery (Option NodeId) := return (← get).root

def setRoot (root : Option NodeId) : Surgery Unit := modify fun s => { s with root }

/-- A primitive edit of the forest. -/
def edit {α : Type} (e : Forest.Edit α) : Surgery α := do
  let (outcome, forest) := (← forest).runEdit e
  modify fun s => { s with forest }
  match outcome with
  | .ok a => return a
  | .error e => throw (.refused e)

/-- The node that a name stands for. -/
def node (name : String) : Surgery NodeId := do
  match (← get).names.lookup name with
  | some n => return n
  | none => throw (.unbound name)

/-- A new tree of its own in the forest, and its top. -/
def plant (t : Tree) : Surgery NodeId := do
  let (n, forest) := (← forest).plant t
  modify fun s => { s with forest }
  return n

/-- A node is above another one, as is found on the way up from that one. -/
def isAbove (a b : NodeId) : Surgery Bool := do
  let f ← forest
  if f.dominates a b then return true
  if f.endlessAbove b then throw .endless
  return false

/-- A new tree like the one below a node, and its top. -/
def duplicate (n : NodeId) : Surgery NodeId := do
  let f ← forest
  if f.endlessBelow n then throw .endless
  plant (f.tree n)

/-- The outcome of a step and the state after it. -/
def runFrom {α : Type} (s : State) (step : Surgery α) : Except Error α × State := step.run.run s

end Surgery

end Treebank
