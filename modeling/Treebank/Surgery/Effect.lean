import Treebank.Regex.Replacement
import Treebank.Search.Cursor
import Treebank.Statement
import Treebank.Surgery
import Treebank.Surgery.Index

/-!
# What statements do

Every statement as a step of surgery. What a statement takes out stays in the forest, so names may go
on standing for nodes that have left the tree, and later statements may go on editing those.
-/

namespace Treebank

namespace Surgery

/-! ## Taking nodes out -/

/-- Takes a node out of its tree, and tells the node that was above it. Taking out the root removes
the whole tree. -/
def remove (n : NodeId) : Surgery (Option NodeId) := do
  if (← root) == some n then
    setRoot none
    return none
  match (← forest).parent? n with
  | none => return none
  | some p => do
    let _ ← edit (Forest.removeChild p n)
    return some p

/-- Takes a node out if it is left without children and not the root; then the nodes above it, up to
a number of them. -/
def removeEmptied : Nat → NodeId → Surgery Unit
  | 0, _ => return
  | fuel + 1, n => do
    if (← root) == some n || !(← forest).isLeaf n then return
    match ← remove n with
    | none => return
    | some p => removeEmptied fuel p

/-- Takes out the nodes of the names. -/
def deleteAll : List String → Surgery Unit
  | [] => return
  | name :: names => do
    let _ ← remove (← node name)
    if (← root).isNone then return
    deleteAll names

/-- Takes out the nodes of the names, each with the nodes above that are then left empty. -/
def pruneAll : List String → Surgery Unit
  | [] => return
  | name :: names => do
    let above ← remove (← node name)
    if (← root).isNone then return
    match above with
    | none => pure ()
    | some p => removeEmptied (← forest).size p
    pruneAll names

/-- Takes children from a node, one after the other. -/
def releaseAll (parent : NodeId) : List NodeId → Forest.Edit Unit
  | [] => return
  | c :: cs => do
    let _ ← Forest.removeChild parent c
    releaseAll parent cs

/-- Puts nodes in the slot of a node; at the root there is one of them, which becomes the root. -/
def supersede (n : NodeId) (others : List NodeId) : Surgery Unit := do
  if (← root) == some n then setRoot others.head?
  else
    let _ ← edit (Forest.replaceWith n others)

/-- Puts the children of a node in its slot. -/
def dissolve (name : String) (n : NodeId) : Surgery Unit := do
  let children := (← forest).children n
  if (← root) == some n && children.length != 1 then
    throw (.rootWithChildren name children.length)
  edit (releaseAll n children)
  supersede n children

/-- Of two nodes the outer one is above the inner one, or they are the same. -/
def checkNested (outerName innerName : String) (outer inner : NodeId) : Surgery Unit := do
  if outer == inner then return
  if ← isAbove outer inner then return
  throw (.notAbove outerName innerName)

/-- Cuts out everything from one node down to another, which takes its place. -/
def excise (outerName innerName : String) : Surgery Unit := do
  let outer ← node outerName
  let inner ← node innerName
  checkNested outerName innerName outer inner
  if ((← forest).parent? outer).isNone && (← root) != some outer then throw (.cutOff outerName)
  if outer == inner then dissolve innerName inner
  else
    let _ ← edit (Forest.detach inner)
    supersede outer [inner]

/-! ## Putting nodes in -/

/-- The node that a place is relative to. -/
def targetOf (p : Place) : Surgery NodeId := do
  let t ← node p.target
  match p with
  | .childOf .. => return t
  | _ =>
    if ((← forest).parent? t).isNone then throw (.sisterOfRoot p.target)
    return t

/-- The slot of child number `index` among `count` children and the new one. -/
def slotOf (index : Int) (count : Nat) : Int :=
  if index > 0 then index - 1 else count + index + 1

/-- Puts a topmost node in a place. -/
def putAt (n : NodeId) (p : Place) : Surgery Unit := do
  let t ← targetOf p
  let f ← forest
  match p with
  | .childOf name index =>
    let count := (f.children t).length
    let slot := slotOf index count
    if slot < 0 || slot > count then throw (.noSuchPlace index name count)
    edit (Forest.addChild t n (some slot))
  | _ =>
    match f.parent? t with
    | none => throw (.sisterOfRoot p.target)
    | some parent =>
      edit do
        let i ← Forest.childIndex parent t
        let slot := match p with
          | .leftOf _ => i
          | _ => i + 1
        Forest.addChild parent n (some slot)

/-- A copy of a literal tree: its top, the named nodes, and the foot. -/
def instantiate (t : Template) :
    Surgery (NodeId × List (String × NodeId) × Option NodeId) := do
  let top ← plant t.tree
  let f ← forest
  let named := t.names.filterMap fun (name, path) => (f.follow? top path).map (name, ·)
  return (top, named, t.foot.bind (f.follow? top))

/-- A copy of the node that a source tells; the names of a literal tree become known. -/
def materialize : Source → Surgery NodeId
  | .node name => do
    let n ← node name
    duplicate n
  | .template t => do
    let (top, named, _) ← instantiate t
    modify fun s => s.bindAll named
    return top

/-- Puts a copy of a source in a place. -/
def insert (source : Source) (p : Place) : Surgery Unit := do
  let _ ← targetOf p
  putAt (← materialize source) p

/-- The target is neither the node itself nor below it. -/
def checkOutside (name : String) (n target : NodeId) : Surgery Unit := do
  if target == n then throw (.movesIntoSelf name)
  if ← isAbove n target then throw (.movesIntoSelf name)

/-- Takes a node to another place. -/
def move (name : String) (p : Place) : Surgery Unit := do
  let n ← node name
  let t ← targetOf p
  let f ← forest
  if (← root) == some n || (f.parent? n).isNone then throw (.movesRoot name)
  checkOutside name n t
  let _ ← edit (Forest.detach n)
  putAt n p

/-- Puts a copy of a source in the place of a node. -/
def replace (name : String) (source : Source) : Surgery Unit := do
  let n ← node name
  let copy ← materialize source
  if (← root) != some n && ((← forest).parent? n).isNone then throw (.cutOff name)
  supersede n [copy]

/-- Takes children from one node to the end of those of another. -/
def transferAll (source dest : NodeId) : List NodeId → Forest.Edit Unit
  | [] => return
  | c :: cs => do
    let _ ← Forest.removeChild source c
    Forest.addChild dest c none
    transferAll source dest cs

/-- Puts a copy of a tree in the place of a node, whose children come to stand under the foot. -/
def adjoin (aux : Template) (name : String) : Surgery Unit := do
  let n ← node name
  if (← root) != some n && ((← forest).parent? n).isNone then throw (.cutOff name)
  let (top, named, foot) ← instantiate aux
  match foot with
  | none => throw .footless
  | some foot => edit (transferAll n foot ((← forest).children n))
  supersede n [top]
  modify fun s => s.bindAll named

/-! ## Changing labels -/

def setLabel (n : NodeId) (label : String) : Surgery Unit :=
  modify fun s => { s with forest := s.forest.setLabel n label }

def relabel (name : String) (change : Relabeling) : Surgery Unit := do
  let n ← node name
  match change with
  | .literal label => setLabel n label
  | .substitution r replacement =>
    match r.substitute replacement ((← forest).label n) with
    | .ok label => setLabel n label
    | .error e => throw (.ofReplacement name replacement e)

/-- The number that the next coindexing attaches: above the indices of all nodes with children. -/
def nextIndex : Surgery Nat := do
  match ← root with
  | none => return 1
  | some r => do
    let f ← forest
    if f.endlessBelow r then throw .endless
    match freshIndex (((f.preorder r).filter (!f.isLeaf ·)).map f.label) with
    | .ok k => return k
    | .error e => throw (.badIndex e)

/-- Attaches an index to the label of a node. -/
def attachIndex (index : String) (n : NodeId) : Surgery Unit := do
  setLabel n ((← forest).label n ++ "-" ++ index)

/-- Attaches a fresh number to the labels of the nodes; once more for a node given again. -/
def coindex (names : List String) : Surgery Unit := do
  let nodes ← names.mapM node
  match Text.writeNat (← nextIndex) with
  | .ok index => nodes.forM (attachIndex index)
  | .error e => throw (.badIndex e)

end Surgery

open Surgery in
/-- What a statement does. -/
def Statement.apply : Statement → Surgery Unit
  | delete names => deleteAll names
  | prune names => pruneAll names
  | excise outer inner => Surgery.excise outer inner
  | relabel name change => Surgery.relabel name change
  | insert source place => Surgery.insert source place
  | move name place => Surgery.move name place
  | replace target source => Surgery.replace target source
  | adjoin aux name => Surgery.adjoin aux name
  | coindex names => Surgery.coindex names

/-- Statements one after the other, as long as there is a tree. -/
def Statement.applyAll : List Statement → Surgery Unit
  | [] => return
  | s :: rest => do
    s.apply
    if (← Surgery.root).isNone then return
    applyAll rest

namespace Surgery

/-- What has become of a tree that statements were carried out on. -/
structure Outcome where
  failure : Option Error
  state : State
  /-- The node that was the top of the tree before. -/
  top : NodeId

/-- The tree that hangs from the node that was the top before. -/
def Outcome.former (o : Outcome) : Tree := o.state.forest.tree o.top

/-- The node that was the top before is the root. -/
def Outcome.sameTop (o : Outcome) : Bool := o.state.root == some o.top

/-- Carries out statements on a tree, with names bound to nodes of it. -/
def operate (statements : List Statement) (t : Tree) (b : Bindings) : Outcome :=
  let (outcome, state) := (Statement.applyAll statements).runFrom (.start t b)
  let failure := match outcome with
    | .ok () => none
    | .error e => some e
  ⟨failure, state, (Forest.ofTree t).1⟩

end Surgery

end Treebank
