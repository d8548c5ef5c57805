import Treebank.Event
import Treebank.Notice
import Treebank.Rule
import Treebank.Surgery.Effect

/-!
# Reduction of a tree

A tree of a forest is reduced where it stands. The rules are taken in their order. Each is applied at
its first match as long as it has one, the tree has not been removed, and the budget is not used up.
Rules may go on matching for ever; a limit on the number of turns makes reduction total, and a run
that reaches it is not finished.
-/

namespace Treebank

/-- The state of a tree under reduction. -/
structure Progress where
  /-- The number of the tree. -/
  index : Int
  forest : Forest
  /-- The node that was the top at first. -/
  origin : NodeId
  /-- The top of the tree, unless the tree is removed. -/
  root : Option NodeId
  applications : Nat
  /-- The rules applied, in the order of their first application, with the number of times. -/
  ruleCounts : List (String × Nat)
  budgetExhausted : Bool
  events : Array Event
  notices : Array Notice

/-- Why reduction stops early. -/
inductive Interruption where
  | failed (d : Diagnostic)
  /-- The limit on turns is reached, or a walk through the nodes never ends. -/
  | unfinished
deriving Repr, DecidableEq

/-- A part of the reduction of a tree, which keeps its progress also when it stops early. -/
abbrev Reduction (α : Type) := ExceptT Interruption (StateM Progress) α

/-- Adds to the number of a name; a new name comes last. -/
def addCount (name : String) (n : Nat) (counts : List (String × Nat)) : List (String × Nat) :=
  if (counts.lookup name).isSome then
    counts.map fun (m, k) => if m == name then (m, k + n) else (m, k)
  else counts ++ [(name, n)]

namespace Progress

/-- The state before the first rule. -/
def start (index : Int) (f : Forest) (top : NodeId) : Progress where
  index := index
  forest := f
  origin := top
  root := some top
  applications := 0
  ruleCounts := []
  budgetExhausted := false
  events := #[]
  notices := #[]

/-- The tree, unless it is removed. -/
def tree? (p : Progress) : Option Tree := p.root.map p.forest.tree

/-- There is no tree left to reduce, or the budget for it is used up. -/
def isOver (p : Progress) : Bool := p.root.isNone || p.budgetExhausted

/-- The state after an application of a rule that has led to a state of surgery. -/
def applied (p : Progress) (rule : String) (before : Tree) (m : Match) (s : Surgery.State) :
    Progress :=
  let step := p.applications + 1
  let anchor := m.anchor.label
  { p with
    forest := s.forest
    root := s.root
    applications := step
    ruleCounts := addCount rule 1 p.ruleCounts
    notices := p.notices.push (.applied p.index rule anchor)
    events := p.events.push {
      rule, step, index := p.index, anchor,
      bindings := m.bindings.map fun (n, s) => (n, s.label), before, after := s.tree? } }

/-- The state when the budget is found to be used up. -/
def exhausted (p : Progress) (rule : String) (budget : Nat) : Progress :=
  { p with
    budgetExhausted := true
    notices := p.notices.push (.budgetExhausted p.index budget rule) }

end Progress

namespace Rule

/-- Why reduction stops early when the statements of the rule fail. -/
def interruption (r : Rule) : Surgery.Error → Interruption
  | .endless => .unfinished
  | e => .failed (.within r.source (.surgery e))

/-- Carries out the statements of the rule at a match in the tree below a node. -/
def applyAt (r : Rule) (top : NodeId) (m : Match) : Reduction Unit := do
  let p ← get
  match (Statement.applyAll r.statements).runFrom (.within p.forest top m.bindings) with
  | (.ok (), s) => set (p.applied r.name (p.forest.tree top) m s)
  | (.error e, s) => do
    set { p with forest := s.forest }
    throw (r.interruption e)

/-- Applies the rule once if it matches, and tells whether it may match again. -/
def turn (budget : Option Nat) (r : Rule) : Reduction Bool := do
  let p ← get
  match p.root with
  | none => return false
  | some top => do
    if p.forest.endlessBelow top then throw .unfinished
    match r.pattern.firstMatch? (p.forest.tree top) with
    | none => return false
    | some m =>
      match budget.filter (· ≤ p.applications) with
      | some b => do
        set (p.exhausted r.name b)
        return false
      | none => do
        r.applyAt top m
        return true

end Rule

namespace Reduction

/-- A turn of the first of the rules, if there is anything left to do; the outcome is the rules that
are left. -/
def turn (budget : Option Nat) : List Rule → Reduction (List Rule)
  | [] => return []
  | r :: rs => do
    let p ← get
    if p.isOver then return []
    if ← r.turn budget then return r :: rs
    return rs

/-- Takes turns until no rule is left, up to a number of them. -/
def byRules (budget : Option Nat) : (turns : Nat) → List Rule → Reduction Unit
  | _, [] => return
  | 0, _ :: _ => throw .unfinished
  | turns + 1, r :: rs => do byRules budget turns (← turn budget (r :: rs))

end Reduction

/-- Reduces a tree of a forest by rules, and tells why it stopped early if it did. -/
def reduce (rules : List Rule) (budget : Option Nat) (turns : Nat) (index : Int) (f : Forest)
    (top : NodeId) : Option Interruption × Progress :=
  match (Reduction.byRules budget turns rules).run.run (.start index f top) with
  | (.ok (), p) => (none, p)
  | (.error e, p) => (some e, p)

end Treebank
