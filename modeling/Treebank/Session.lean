import Treebank.Reduction.Result

/-!
# Sessions

A session holds the rules and the budget with which trees are reduced, and keeps totals over the
trees. The trees of a corpus do not touch each other: one whose surgery fails is reported as it was
before, and the others are reduced all the same.
-/

namespace Treebank

/-- Why there is no session or no run of it as asked for. -/
inductive SessionError where
  | budgetNotPositive
  /-- Several rules have one name; these names are given sorted. -/
  | duplicateRules (names : List String)
  | workersNotPositive
deriving Repr, DecidableEq

/-- The wording of a refusal. -/
def SessionError.message : SessionError → String
  | budgetNotPositive => "max_steps must be positive when provided"
  | duplicateRules names =>
    "Duplicate rule names: [" ++ String.intercalate ", " (names.map Text.quoted) ++ "]"
  | workersNotPositive => "workers must be positive when provided"

structure Session where
  rules : List Rule
  /-- The greatest number of applications to one tree. -/
  budget : Option Nat
  totals : Totals

/-- What a part of a session has to report. -/
structure Report where
  notices : List Notice
  events : List Event

namespace Session

/-- The names that several rules have, sorted. -/
def duplicates (names : List String) : List String :=
  sortedNames (names.filter fun n => names.count n > 1)

/-- A session with these rules, which need different names. -/
def start (rules : List Rule) (budget : Option Int) : Except SessionError Session :=
  if budget.any (· ≤ 0) then .error .budgetNotPositive
  else
    match duplicates (rules.map Rule.name) with
    | [] => .ok ⟨rules, budget.map Int.toNat, .zero⟩
    | names => .error (.duplicateRules names)

def record {τ : Type} (s : Session) (r : Result τ) : Session := { s with totals := s.totals.add r }

/-- The totals so far as a record. -/
def summary (s : Session) : Json := s.totals.toJson (s.rules.map Rule.name)

/-- What a run of the session works with: the forest that the trees stand in, and the reports. -/
structure Desk where
  session : Session
  forest : Forest
  notices : Array Notice
  events : Array Event

/-- A run of the session. -/
abbrev Run (α : Type) := ExceptT Interruption (StateM Desk) α

namespace Run

/-- A new tree like the one below a node, and its top. -/
def duplicate (n : NodeId) : Run NodeId := do
  let d ← get
  let (copy, forest) := d.forest.duplicate n
  set { d with forest }
  return copy

/-- Takes over what the reduction of a tree has come to. -/
def keep (p : Progress) : Run Unit :=
  modify fun d => { d with
    forest := p.forest, notices := d.notices ++ p.notices, events := d.events ++ p.events }

def give (n : Notice) : Run Unit := modify fun d => { d with notices := d.notices.push n }

def count (r : Result NodeId) : Run Unit := modify fun d => { d with session := d.session.record r }

end Run

open Run in
/-- Reduces one tree of a corpus. A copy is made before, and another one of that if surgery fails. -/
def reduceOne (turns : Nat) (index : Nat) (top : NodeId) : Run (Result NodeId) := do
  let copy ← duplicate top
  let d ← get
  let (interruption, p) := reduce d.session.rules d.session.budget turns index d.forest top
  keep p
  match interruption with
  | none =>
    let r := Result.ofProgress copy p
    count r
    return r
  | some (.failed e) =>
    if !e.fault.isPlaced then throw (.failed e)
    give (.surgeryFailed index e.message)
    let r := Result.ofFailure index copy (← duplicate copy) e
    count r
    return r
  | some .unfinished => throw .unfinished

/-- Reduces trees one after the other, the first being number `index`. -/
def reduceEach (turns : Nat) : (index : Nat) → List NodeId → Run (List (Result NodeId))
  | _, [] => return []
  | index, n :: ns => do
    let r ← reduceOne turns index n
    let rs ← reduceEach turns (index + 1) ns
    return r :: rs

/-- The number of workers is one that trees can be shared out to. -/
def checkWorkers (workers : Option Int) : Except SessionError Unit :=
  if workers.any (· ≤ 0) then .error .workersNotPositive else .ok ()

/-- Reduces the trees of a corpus, all in one forest, and reads the results off at the end. -/
def reduceCorpus (s : Session) (turns : Nat) (ts : List Tree) :
    Except Interruption (List TreeResult) × Session × Report :=
  let (tops, forest) := Forest.empty.plantEach ts
  let (outcome, d) := (reduceEach turns 0 tops).run.run ⟨s, forest, #[], #[]⟩
  (outcome.map (·.map (·.read d.forest)), d.session, ⟨d.notices.toList, d.events.toList⟩)

/-- Reduces a tree by itself. A failure is told together with what is left of the tree, and is not
counted. -/
def reduceTree (s : Session) (turns : Nat) (index : Int) (t : Tree) :
    Except (Interruption × Tree) TreeResult × Session × Report :=
  let (top, forest) := Forest.ofTree t
  let (interruption, p) := reduce s.rules s.budget turns index forest top
  let report : Report := ⟨p.notices.toList, p.events.toList⟩
  match interruption with
  | none =>
    let r := (Result.ofProgress top p).read p.forest
    (.ok r, s.record r, report)
  | some e => (.error (e, p.forest.tree top), s, report)

end Session

end Treebank
