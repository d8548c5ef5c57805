import Treebank.Session

/-!
# Pools of workers

The trees of a corpus may be shared out to several workers. A worker takes the first tree that no
other one has taken, and goes on with it until there is a result, turn by turn; what it does in a turn
is not seen by the others, for no two of them work on the same nodes. Which worker takes the next turn
is left open. The results stand in the order of the trees, whenever they are reached.
-/

namespace Treebank

/-- How far the work on one tree of a corpus has come. -/
inductive Stage where
  /-- No worker has taken the tree. -/
  | waiting
  /-- There is a copy of the tree, and these rules are left. -/
  | active (copy : NodeId) (p : Progress) (rules : List Rule)
  /-- Surgery has failed. -/
  | failing (copy : NodeId) (d : Diagnostic)
  | done (r : Result NodeId)
  /-- The work has been broken off without a result. -/
  | broken (i : Interruption)

namespace Stage

/-- The stage that an interruption of reduction leads to. -/
def interrupted (copy : NodeId) : Interruption → Stage
  | .failed d => if d.fault.isPlaced then failing copy d else broken (.failed d)
  | .unfinished => broken .unfinished

/-- The next stage of the work on a tree with the given number and top, and the forest then. -/
def next (rules : List Rule) (budget : Option Nat) (index : Nat) (top : NodeId) (f : Forest) :
    Stage → Option (Stage × Forest)
  | waiting =>
    let (copy, f) := f.duplicate top
    some (active copy (.start index f top) rules, f)
  | active copy p [] => some (done (.ofProgress copy p), f)
  | active copy p (r :: rest) =>
    match (Reduction.turn budget (r :: rest)).run.run { p with forest := f } with
    | (.ok left, q) => some (active copy q left, q.forest)
    | (.error e, q) => some (interrupted copy e, q.forest)
  | failing copy d =>
    let (again, f) := f.duplicate copy
    some (done (.ofFailure index copy again d), f)
  | done _ => none
  | broken _ => none

/-- A worker is at work on the tree. -/
def isBusy : Stage → Bool
  | active .. => true
  | failing .. => true
  | _ => false

def isWaiting : Stage → Bool
  | waiting => true
  | _ => false

def result? : Stage → Option (Result NodeId)
  | done r => some r
  | _ => none

end Stage

/-- The work on one tree of a corpus. -/
structure Job where
  top : NodeId
  stage : Stage

/-- The work on a corpus under way. -/
structure Pool where
  session : Session
  forest : Forest
  jobs : List Job

namespace Pool

/-- The work on trees of a forest before it has begun. -/
def start (s : Session) (f : Forest) (tops : List NodeId) : Pool := ⟨s, f, tops.map (⟨·, .waiting⟩)⟩

/-- The number of workers at work. -/
def busy (w : Pool) : Nat := w.jobs.countP (·.stage.isBusy)

/-- The results so far, in the order of the trees. -/
def results (w : Pool) : List (Result NodeId) := w.jobs.filterMap (·.stage.result?)

/-- There is a result for every tree. -/
def IsFinished (w : Pool) : Prop := ∀ job ∈ w.jobs, job.stage.result?.isSome

/-- A tree can be taken if all trees before it have been taken and some worker is free. -/
def CanTake (w : Pool) (workers i : Nat) : Prop :=
  (∀ job ∈ w.jobs.take i, job.stage.isWaiting = false) ∧ w.busy < workers

/-- The pool after a tree has come to a further stage. A result is counted as soon as it is there. -/
def advance (w : Pool) (i : Nat) (top : NodeId) (stage : Stage) (f : Forest) : Pool where
  session := match stage.result? with
    | some r => w.session.record r
    | none => w.session
  forest := f
  jobs := w.jobs.set i ⟨top, stage⟩

/-- One tree is taken, or comes a turn further. -/
inductive Step (workers : Nat) (w : Pool) : Pool → Prop where
  | advance {i : Nat} {top : NodeId} {stage stage' : Stage} {f : Forest} :
      w.jobs[i]? = some ⟨top, stage⟩ →
      (stage.isWaiting = true → w.CanTake workers i) →
      stage.next w.session.rules w.session.budget i top w.forest = some (stage', f) →
      Step workers w (w.advance i top stage' f)

/-- So many steps of a pool lead from one state to another. -/
inductive Steps (workers : Nat) : Nat → Pool → Pool → Prop where
  | refl {w : Pool} : Steps workers 0 w w
  | tail {n : Nat} {w w' w'' : Pool} : Steps workers n w w' → Step workers w' w'' →
      Steps workers (n + 1) w w''

end Pool

end Treebank
