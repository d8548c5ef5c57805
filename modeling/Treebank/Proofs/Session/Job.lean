import Treebank.Proofs.Reduction.Structure
import Treebank.Proofs.Session.Totals
import Treebank.Session.Pool

/-!
# The work on one tree

The work on a tree of a corpus comes to a result stage by stage, and to the same result when it is done
in one go. The result for a tree by itself has the tree as it was given.
-/

namespace Treebank

open Reduction

variable {rules : List Rule} {budget : Option Nat} {index : Nat} {top copy : NodeId}

namespace Stage

/-- So many stages on, there is this result, with this forest. -/
inductive Finishes (rules : List Rule) (budget : Option Nat) (index : Nat) (top : NodeId) :
    Nat → Stage → Forest → Result NodeId → Forest → Prop where
  | done {r : Result NodeId} {f : Forest} : Finishes rules budget index top 0 (.done r) f r f
  | next {k : Nat} {stage stage' : Stage} {f f' g : Forest} {r : Result NodeId} :
      stage.next rules budget index top f = some (stage', f') →
      Finishes rules budget index top k stage' f' r g →
      Finishes rules budget index top (k + 1) stage f r g

variable {stage : Stage} {f g : Forest} {r : Result NodeId} {k : Nat} {p q : Progress}

theorem Finishes.of_done {s : Result NodeId} (h : Finishes rules budget index top k (.done s) f r g) :
    k = 0 ∧ r = s ∧ g = f := by
  cases h with
  | done => exact ⟨rfl, rfl, rfl⟩
  | next hnext => cases hnext

theorem Finishes.not_broken {i : Interruption} :
    ¬Finishes rules budget index top k (.broken i) f r g := by
  intro h
  cases h with
  | next hnext => cases hnext

theorem Finishes.of_next {stage' : Stage} {f' : Forest}
    (h : Finishes rules budget index top k stage f r g)
    (hnext : stage.next rules budget index top f = some (stage', f')) :
    ∃ j, k = j + 1 ∧ Finishes rules budget index top j stage' f' r g := by
  cases h with
  | done => cases hnext
  | next hnext' hrest =>
      rw [hnext] at hnext'
      cases hnext'
      exact ⟨_, rfl, hrest⟩

theorem Finishes.of_reduced (h : Finishes rules budget index top k (active copy p []) f r g) :
    r = .ofProgress copy p ∧ g = f := by
  obtain ⟨_, _, hrest⟩ := h.of_next rfl
  exact hrest.of_done.2

theorem Finishes.of_failing {d : Diagnostic}
    (h : Finishes rules budget index top k (failing copy d) f r g) :
    r = .ofFailure index copy (f.duplicate copy).1 d ∧ g = (f.duplicate copy).2 := by
  obtain ⟨_, _, hrest⟩ := h.of_next rfl
  exact hrest.of_done.2

/-- The stage after reduction has come to its end or has been interrupted. -/
def afterRules (copy : NodeId) : Except Interruption Unit × Progress → Stage
  | (.ok (), q) => active copy q []
  | (.error e, _) => interrupted copy e

theorem next_of_waiting : waiting.next rules budget index top f =
    some (active (f.duplicate top).1 (.start index (f.duplicate top).2 top) rules,
      (f.duplicate top).2) := rfl

theorem next_of_turn {rule : Rule} {rest left : List Rule}
    (h : runFrom { p with forest := f } (turn budget (rule :: rest)) = (.ok left, q)) :
    (active copy p (rule :: rest)).next rules budget index top f =
      some (active copy q left, q.forest) := by
  rw [runFrom] at h
  rw [Stage.next, h]

theorem next_of_interrupted {rule : Rule} {rest : List Rule} {e : Interruption}
    (h : runFrom { p with forest := f } (turn budget (rule :: rest)) = (.error e, q)) :
    (active copy p (rule :: rest)).next rules budget index top f =
      some (interrupted copy e, q.forest) := by
  rw [runFrom] at h
  rw [Stage.next, h]

/-- What comes of a tree after its reduction comes of it after the turns of the reduction. -/
theorem finishes_of_byRules {turns : Nat} {left : List Rule}
    (h : Finishes rules budget index top k
      (afterRules copy (runFrom p (byRules budget turns left)))
      (runFrom p (byRules budget turns left)).2.forest r g) :
    ∃ j ≤ turns, Finishes rules budget index top (j + k) (active copy p left) p.forest r g := by
  induction turns generalizing p left with
  | zero =>
      cases left with
      | nil => exact ⟨0, Nat.le_refl 0, (Nat.zero_add k).symm ▸ h⟩
      | cons rule rest => exact absurd h Finishes.not_broken
  | succ turns ih =>
      cases left with
      | nil => exact ⟨0, Nat.zero_le _, (Nat.zero_add k).symm ▸ h⟩
      | cons rule rest =>
          rw [runFrom_byRules_succ] at h
          rcases hturn : runFrom p (turn budget (rule :: rest)) with ⟨e | left, q⟩
          · rw [hturn] at h
            refine ⟨1, Nat.succ_pos _, ?_⟩
            rw [Nat.add_comm]
            exact .next (next_of_interrupted hturn) h
          · rw [hturn] at h
            obtain ⟨j, hj, hrest⟩ := ih h
            refine ⟨j + 1, Nat.succ_le_succ hj, ?_⟩
            rw [Nat.add_right_comm]
            exact .next (next_of_turn hturn) hrest

/-- What comes of a tree after turns of reduction comes of it after reduction in one go. -/
theorem Finishes.byRules (turns : Nat) {left : List Rule} (hk : k ≤ turns + 1)
    (h : Finishes rules budget index top k (active copy p left) p.forest r g) :
    ∃ j, Finishes rules budget index top j
      (afterRules copy (runFrom p (byRules budget turns left)))
      (runFrom p (byRules budget turns left)).2.forest r g := by
  induction turns generalizing k p left with
  | zero =>
      cases left with
      | nil => exact ⟨k, h⟩
      | cons rule rest =>
          cases h with
          | @next j _ stage' _ f' _ _ hnext hrest =>
              obtain rfl : j = 0 := by omega
              rcases hturn : runFrom p (turn budget (rule :: rest)) with ⟨e | left, q⟩
              · rw [next_of_interrupted hturn] at hnext
                cases hnext
                cases e with
                | unfinished => cases hrest
                | failed d =>
                    simp only [interrupted] at hrest
                    split at hrest <;> cases hrest
              · rw [next_of_turn hturn] at hnext
                cases hnext
                cases hrest
  | succ turns ih =>
      cases left with
      | nil => exact ⟨k, h⟩
      | cons rule rest =>
          cases h with
          | @next j _ stage' _ f' _ _ hnext hrest =>
              rw [runFrom_byRules_succ]
              rcases hturn : runFrom p (turn budget (rule :: rest)) with ⟨e | left, q⟩
              · rw [next_of_interrupted hturn] at hnext
                cases hnext
                exact ⟨j, hrest⟩
              · rw [next_of_turn hturn] at hnext
                cases hnext
                exact ih (by omega) hrest

end Stage

/-! ## In one go -/

namespace Session

variable {d d' : Desk} {r : Result NodeId} {g : Forest} {turns k : Nat}

/-- The work on one tree copies it, reduces it, and settles what has come of it. -/
theorem run_reduceOne_steps (turns index : Nat) (top : NodeId) (d : Desk) :
    (reduceOne turns index top).run.run d =
      (match reduce d.session.rules d.session.budget turns index (d.forest.duplicate top).2 top with
        | (interruption, p) => (do
          Run.keep p
          match interruption with
          | none =>
            let r := Result.ofProgress (d.forest.duplicate top).1 p
            Run.count r
            return r
          | some (.failed e) =>
            if !e.fault.isPlaced then throw (Interruption.failed e)
            Run.give (.surgeryFailed index e.message)
            let again ← Run.duplicate (d.forest.duplicate top).1
            let r := Result.ofFailure index (d.forest.duplicate top).1 again e
            Run.count r
            return r
          | some .unfinished => throw Interruption.unfinished : Run (Result NodeId))).run.run
        { d with forest := (d.forest.duplicate top).2 } := rfl

/-- What the work on one tree leaves in the forest, and its result if there is one. -/
theorem run_reduceOne (turns index : Nat) (top : NodeId) (d : Desk) : ∃ notices events,
    (reduceOne turns index top).run.run d =
      match reduce d.session.rules d.session.budget turns index (d.forest.duplicate top).2 top with
      | (none, p) =>
        let r := Result.ofProgress (d.forest.duplicate top).1 p
        (.ok r, ⟨d.session.record r, p.forest, notices, events⟩)
      | (some (.failed e), p) =>
        if e.fault.isPlaced then
          let again := p.forest.duplicate (d.forest.duplicate top).1
          let r := Result.ofFailure index (d.forest.duplicate top).1 again.1 e
          (.ok r, ⟨d.session.record r, again.2, notices, events⟩)
        else (.error (.failed e), ⟨d.session, p.forest, notices, events⟩)
      | (some .unfinished, p) => (.error .unfinished, ⟨d.session, p.forest, notices, events⟩) := by
  rw [run_reduceOne_steps]
  rcases reduce d.session.rules d.session.budget turns index (d.forest.duplicate top).2 top with
    ⟨_ | e | _, p⟩
  · exact ⟨_, _, rfl⟩
  · simp only
    cases e.fault.isPlaced with
    | true => exact ⟨_, _, rfl⟩
    | false => exact ⟨_, _, rfl⟩
  · exact ⟨_, _, rfl⟩

open Stage

/-- A result that is reached in one go is reached stage by stage. -/
theorem finishes_of_reduceOne (h : (reduceOne turns index top).run.run d = (.ok r, d')) :
    ∃ k ≤ turns + 2, Finishes d.session.rules d.session.budget index top k .waiting d.forest r
      d'.forest := by
  obtain ⟨notices, events, hrun⟩ := run_reduceOne turns index top d
  rw [h, reduce_eq] at hrun
  have hthrough : ∀ g, Finishes d.session.rules d.session.budget index top 1
      (afterRules (d.forest.duplicate top).1 (runFrom (.start index (d.forest.duplicate top).2 top)
        (byRules d.session.budget turns d.session.rules)))
      (runFrom (.start index (d.forest.duplicate top).2 top)
        (byRules d.session.budget turns d.session.rules)).2.forest r g →
      ∃ k ≤ turns + 2,
        Finishes d.session.rules d.session.budget index top k .waiting d.forest r g := by
    intro g hfinishes
    obtain ⟨j, hj, hactive⟩ := finishes_of_byRules hfinishes
    exact ⟨j + 1 + 1, by omega, .next next_of_waiting hactive⟩
  rcases hout : runFrom (.start index (d.forest.duplicate top).2 top)
    (byRules d.session.budget turns d.session.rules) with ⟨e | _, q⟩
  · rw [hout] at hrun hthrough
    cases e with
    | unfinished => cases hrun
    | failed e =>
        simp only at hrun
        split at hrun
        · rename_i hplaced
          cases hrun
          refine hthrough _ ?_
          simp only [afterRules, interrupted, hplaced, if_true]
          exact .next rfl .done
        · cases hrun
  · rw [hout] at hrun hthrough
    cases hrun
    exact hthrough _ (.next rfl .done)

/-- A result that is reached stage by stage is reached in one go. -/
theorem reduceOne_of_finishes (hk : k ≤ turns + 2)
    (h : Finishes d.session.rules d.session.budget index top k .waiting d.forest r g) :
    ∃ notices events, (reduceOne turns index top).run.run d =
      (.ok r, ⟨d.session.record r, g, notices, events⟩) := by
  obtain ⟨notices, events, hrun⟩ := run_reduceOne turns index top d
  refine ⟨notices, events, ?_⟩
  obtain ⟨j, rfl, hactive⟩ := h.of_next next_of_waiting
  obtain ⟨i, hafter⟩ := hactive.byRules turns (by omega)
  rw [hrun, reduce_eq]
  rcases hout : runFrom (.start index (d.forest.duplicate top).2 top)
    (byRules d.session.budget turns d.session.rules) with ⟨e | _, q⟩
  · rw [hout] at hafter
    cases e with
    | unfinished => exact absurd hafter Finishes.not_broken
    | failed e =>
        simp only [afterRules, interrupted] at hafter ⊢
        split at hafter
        · rename_i hplaced
          obtain ⟨rfl, rfl⟩ := hafter.of_failing
          rw [if_pos hplaced]
        · exact absurd hafter Finishes.not_broken
  · rw [hout] at hafter
    obtain ⟨rfl, rfl⟩ := hafter.of_reduced
    rfl

/-! ## A corpus one by one -/

theorem run_reduceEach_cons (turns index : Nat) (n : NodeId) (ns : List NodeId) (d : Desk) :
    (reduceEach turns index (n :: ns)).run.run d =
      match (reduceOne turns index n).run.run d with
      | (.error e, d') => (.error e, d')
      | (.ok r, d') =>
        match (reduceEach turns (index + 1) ns).run.run d' with
        | (.error e, d'') => (.error e, d'')
        | (.ok rs, d'') => (.ok (r :: rs), d'') := by
  rw [reduceEach, run_bind]
  rcases (reduceOne turns index n).run.run d with ⟨e | r, d'⟩
  · rfl
  · simp only [run_bind]
    rcases (reduceEach turns (index + 1) ns).run.run d' with ⟨e | rs, d''⟩ <;> rfl

theorem reduceCorpus_one (s : Session) (turns : Nat) (t : Tree) :
    (s.reduceCorpus turns [t]).1 =
      match (reduceEach turns 0 [(Forest.empty.plant t).1]).run.run
        ⟨s, (Forest.empty.plant t).2, #[], #[]⟩ with
      | (outcome, d) => outcome.map (·.map (·.read d.forest)) := rfl

/-- A corpus of one tree has a result if the work on the tree comes to one stage by stage. -/
theorem reduceCorpus_singleton {s : Session} {t : Tree} {rs : List TreeResult} :
    (s.reduceCorpus turns [t]).1 = .ok rs ↔ ∃ k ≤ turns + 2, ∃ r g, rs = [r.read g] ∧
      Stage.Finishes s.rules s.budget 0 (Forest.empty.plant t).1 k .waiting (Forest.empty.plant t).2
        r g := by
  rw [reduceCorpus_one, run_reduceEach_cons]
  constructor
  · intro h
    rcases hone : (reduceOne turns 0 (Forest.empty.plant t).1).run.run
      ⟨s, (Forest.empty.plant t).2, #[], #[]⟩ with ⟨e | r, d⟩
    · rw [hone] at h
      cases h
    · rw [hone] at h
      cases h
      obtain ⟨k, hk, hfinishes⟩ := finishes_of_reduceOne hone
      exact ⟨k, hk, r, d.forest, rfl, hfinishes⟩
  · rintro ⟨k, hk, r, g, rfl, hfinishes⟩
    obtain ⟨notices, events, hone⟩ :=
      reduceOne_of_finishes (d := ⟨s, (Forest.empty.plant t).2, #[], #[]⟩) hk hfinishes
    rw [hone]
    rfl

end Session

end Treebank
