import Treebank.Reduction

/-!
# Reduction with snapshots

Who follows a reduction is given copies of the tree as it is before and after every application of a
rule. The copies stand in the forest beside the tree, which goes on to be edited, and the event is read
off them whenever it is asked for.
-/

namespace Treebank

/-- What is kept of an application of a rule: an event with the tops of copies in place of trees. -/
structure Snapshot where
  rule : String
  step : Nat
  index : Int
  anchor : String
  bindings : List (String × String)
  before : NodeId
  after : Option NodeId

namespace Snapshot

/-- The tops of the copies. -/
def copies (s : Snapshot) : List NodeId := s.before :: s.after.toList

/-- The event, with the trees that the copies are in a forest. -/
def read (f : Forest) (s : Snapshot) : Event where
  rule := s.rule
  step := s.step
  index := s.index
  anchor := s.anchor
  bindings := s.bindings
  before := f.tree s.before
  after := s.after.map f.tree

end Snapshot

/-- The state of a tree under reduction, and what has been kept of the applications of rules to it. -/
structure Recording where
  progress : Progress
  snapshots : Array Snapshot

/-- The state before the first rule. -/
def Recording.start (index : Int) (f : Forest) (top : NodeId) : Recording := ⟨.start index f top, #[]⟩

/-- A part of the reduction of a tree that is recorded. -/
abbrev Recorder (α : Type) := ExceptT Interruption (StateM Recording) α

namespace Recorder

def progress : Recorder Progress := return (← get).progress

/-- A part of the reduction of which nothing is kept. -/
def perform {α : Type} (x : Reduction α) : Recorder α := do
  let (outcome, p) := x.run.run (← progress)
  modify fun w => { w with progress := p }
  match outcome with
  | .ok a => return a
  | .error e => throw e

/-- A copy of the tree below a node, and its top. -/
def duplicate (n : NodeId) : Recorder NodeId := do
  let p ← progress
  let (copy, forest) := p.forest.duplicate n
  modify fun w => { w with progress := { p with forest } }
  return copy

def keep (s : Snapshot) : Recorder Unit :=
  modify fun w => { w with snapshots := w.snapshots.push s }

end Recorder

open Recorder

namespace Rule

/-- Carries out the statements of the rule at a match, and keeps a snapshot of this. -/
def recordAt (r : Rule) (top : NodeId) (m : Match) : Recorder Unit := do
  let before ← duplicate top
  let anchor := m.anchor.label
  let bindings := m.bindings.map fun (n, s) => (n, s.label)
  perform (r.applyAt top m)
  let p ← progress
  let after ← p.root.mapM duplicate
  keep { rule := r.name, step := p.applications, index := p.index, anchor, bindings, before, after }

/-- Applies the rule once if it matches, and tells whether it may match again. -/
def recordTurn (budget : Option Nat) (r : Rule) : Recorder Bool := do
  let p ← progress
  match p.root with
  | none => return false
  | some top => do
    if p.forest.endlessBelow top then throw .unfinished
    match r.pattern.firstMatch? (p.forest.tree top) with
    | none => return false
    | some m =>
      match budget.filter (· ≤ p.applications) with
      | some b => do
        perform (set (p.exhausted r.name b))
        return false
      | none => do
        r.recordAt top m
        return true

end Rule

namespace Recorder

/-- A turn of the first of the rules, if there is anything left to do; the outcome is the rules that
are left. -/
def turn (budget : Option Nat) : List Rule → Recorder (List Rule)
  | [] => return []
  | r :: rs => do
    if (← progress).isOver then return []
    if ← r.recordTurn budget then return r :: rs
    return rs

/-- Takes turns until no rule is left, up to a number of them. -/
def byRules (budget : Option Nat) : (turns : Nat) → List Rule → Recorder Unit
  | _, [] => return
  | 0, _ :: _ => throw .unfinished
  | turns + 1, r :: rs => do byRules budget turns (← turn budget (r :: rs))

end Recorder

/-- Reduces a tree of a forest by rules with snapshots, and tells why it stopped early if it did. -/
def record (rules : List Rule) (budget : Option Nat) (turns : Nat) (index : Int) (f : Forest)
    (top : NodeId) : Option Interruption × Recording :=
  match (Recorder.byRules budget turns rules).run.run (.start index f top) with
  | (.ok (), w) => (none, w)
  | (.error e, w) => (some e, w)

end Treebank
