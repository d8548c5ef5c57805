import Treebank.Proofs.Basic
import Treebank.Reduction

/-!
# Turns

What one turn of reduction does: there is nothing to do, the budget is found to be used up, a rule has
been applied, or its surgery has failed. Reduction is a series of such turns.
-/

namespace Treebank

variable {budget : Option Nat} {p q : Progress} {r : Rule} {rules rest : List Rule}

/-- The outcome of a part of reduction and the progress after it. -/
def Reduction.runFrom {α : Type} (p : Progress) (x : Reduction α) :
    Except Interruption α × Progress := x.run.run p

open Reduction

theorem Reduction.runFrom_get_bind {α : Type} (p : Progress) (k : Progress → Reduction α) :
    runFrom p (get >>= k) = runFrom p (k p) := rfl

theorem Reduction.runFrom_bind {α β : Type} (p : Progress) (x : Reduction α)
    (k : α → Reduction β) : runFrom p (x >>= k) = match runFrom p x with
      | (.ok a, q) => runFrom q (k a)
      | (.error e, q) => (.error e, q) := by
  rw [runFrom, run_bind, runFrom]
  rcases x.run.run p with ⟨_ | _, _⟩ <;> rfl

namespace Rule

theorem runFrom_applyAt (r : Rule) (top : NodeId) (m : Match) (p : Progress) :
    runFrom p (r.applyAt top m) =
      match (Statement.applyAll r.statements).runFrom (.within p.forest top m.bindings) with
      | (.ok (), s) => (.ok (), p.applied r.name (p.forest.tree top) m s)
      | (.error e, s) => (.error (r.interruption e), { p with forest := s.forest }) := by
  show runFrom p (match (Statement.applyAll r.statements).runFrom
      (.within p.forest top m.bindings) with
    | (.ok (), s) => set (p.applied r.name (p.forest.tree top) m s)
    | (.error e, s) => do
      set { p with forest := s.forest }
      throw (r.interruption e)) = _
  rcases (Statement.applyAll r.statements).runFrom (.within p.forest top m.bindings) with
    ⟨_ | _, _⟩ <;> rfl

/-- What a turn of a rule can come to. -/
inductive Turned (budget : Option Nat) (r : Rule) (p : Progress) :
    Except Interruption Bool × Progress → Prop where
  | gone : p.root = none → Turned budget r p (.ok false, p)
  | endless {top : NodeId} : p.root = some top → p.forest.endlessBelow top = true →
      Turned budget r p (.error .unfinished, p)
  | unmatched {top : NodeId} : p.root = some top → p.forest.endlessBelow top = false →
      r.pattern.firstMatch? (p.forest.tree top) = none → Turned budget r p (.ok false, p)
  | exhausted {top : NodeId} {m : Match} {b : Nat} : p.root = some top →
      p.forest.endlessBelow top = false → r.pattern.firstMatch? (p.forest.tree top) = some m →
      budget = some b → b ≤ p.applications → Turned budget r p (.ok false, p.exhausted r.name b)
  | applied {top : NodeId} {m : Match} {s : Surgery.State} : p.root = some top →
      p.forest.endlessBelow top = false → r.pattern.firstMatch? (p.forest.tree top) = some m →
      (∀ b, budget = some b → p.applications < b) →
      (Statement.applyAll r.statements).runFrom (.within p.forest top m.bindings) = (.ok (), s) →
      Turned budget r p (.ok true, p.applied r.name (p.forest.tree top) m s)
  | failed {top : NodeId} {m : Match} {e : Surgery.Error} {s : Surgery.State} :
      p.root = some top → r.pattern.firstMatch? (p.forest.tree top) = some m →
      (Statement.applyAll r.statements).runFrom (.within p.forest top m.bindings) = (.error e, s) →
      Turned budget r p (.error (r.interruption e), { p with forest := s.forest })

theorem turned (budget : Option Nat) (r : Rule) (p : Progress) :
    r.Turned budget p (runFrom p (r.turn budget)) := by
  rw [turn, runFrom_get_bind]
  split
  · rename_i hroot
    exact .gone hroot
  · rename_i top hroot
    cases hends : p.forest.endlessBelow top with
    | true => exact .endless hroot hends
    | false =>
        simp only [Bool.false_eq_true, if_false]
        split
        · rename_i hmatch
          exact .unmatched hroot hends hmatch
        · rename_i m hmatch
          split
          · rename_i b hb
            obtain ⟨hbudget, hle⟩ := Option.filter_eq_some_iff.mp hb
            exact .exhausted hroot hends hmatch hbudget (decide_eq_true_iff.mp hle)
          · rename_i hb
            rw [runFrom_bind, runFrom_applyAt]
            rcases hrun : (Statement.applyAll r.statements).runFrom
              (.within p.forest top m.bindings) with ⟨e | _, s⟩
            · exact .failed hroot hmatch hrun
            · refine .applied hroot hends hmatch (fun b hbudget => ?_) hrun
              rw [hbudget, Option.filter_some] at hb
              simpa using hb

theorem runFrom_turn_of_endless {top : NodeId} (hroot : p.root = some top)
    (hends : p.forest.endlessBelow top = true) :
    runFrom p (r.turn budget) = (.error .unfinished, p) := by
  rw [turn, runFrom_get_bind]
  simp only [hroot, hends, if_true]
  rfl

theorem runFrom_turn_of_no_match {top : NodeId} (hroot : p.root = some top)
    (hends : p.forest.endlessBelow top = false)
    (hmatch : r.pattern.firstMatch? (p.forest.tree top) = none) :
    runFrom p (r.turn budget) = (.ok false, p) := by
  rw [turn, runFrom_get_bind]
  simp only [hroot, hends, Bool.false_eq_true, if_false, hmatch]
  rfl

theorem runFrom_turn_of_match {top : NodeId} {m : Match} (hroot : p.root = some top)
    (hends : p.forest.endlessBelow top = false)
    (hmatch : r.pattern.firstMatch? (p.forest.tree top) = some m)
    (hbudget : ∀ b, budget = some b → p.applications < b) :
    runFrom p (r.turn budget) =
      match (Statement.applyAll r.statements).runFrom (.within p.forest top m.bindings) with
      | (.ok (), s) => (.ok true, p.applied r.name (p.forest.tree top) m s)
      | (.error e, s) => (.error (r.interruption e), { p with forest := s.forest }) := by
  have hwithin : budget.filter (· ≤ p.applications) = none := by
    cases budget with
    | none => rfl
    | some b => simpa using hbudget b rfl
  have happly : runFrom p (r.turn budget) = runFrom p (do r.applyAt top m; return true) := by
    rw [turn, runFrom_get_bind]
    simp only [hroot, hends, Bool.false_eq_true, if_false, hmatch, hwithin]
  rw [happly, runFrom_bind, runFrom_applyAt]
  rcases (Statement.applyAll r.statements).runFrom (.within p.forest top m.bindings) with
    ⟨_ | _, _⟩ <;> rfl

theorem runFrom_turn_of_exhausted {top : NodeId} {m : Match} {b : Nat} (hroot : p.root = some top)
    (hends : p.forest.endlessBelow top = false)
    (hmatch : r.pattern.firstMatch? (p.forest.tree top) = some m) (hb : b ≤ p.applications) :
    runFrom p (r.turn (some b)) = (.ok false, p.exhausted r.name b) := by
  rw [turn, runFrom_get_bind]
  simp only [hroot, hends, Bool.false_eq_true, if_false, hmatch, Option.filter_some,
    decide_eq_true hb, if_true]
  rfl

end Rule

namespace Reduction

theorem runFrom_turn_cons (budget : Option Nat) (r : Rule) (rest : List Rule) (p : Progress) :
    runFrom p (turn budget (r :: rest)) =
      if p.isOver then (.ok [], p)
      else match runFrom p (r.turn budget) with
        | (.ok true, q) => (.ok (r :: rest), q)
        | (.ok false, q) => (.ok rest, q)
        | (.error e, q) => (.error e, q) := by
  rw [turn, runFrom_get_bind]
  cases p.isOver with
  | true => rfl
  | false =>
      show runFrom p (r.turn budget >>= fun again => if again then pure (r :: rest) else pure rest) = _
      rw [runFrom_bind, if_neg Bool.false_ne_true]
      rcases runFrom p (r.turn budget) with ⟨_ | _ | _, _⟩ <;> rfl

theorem runFrom_byRules_nil (budget : Option Nat) (turns : Nat) (p : Progress) :
    runFrom p (byRules budget turns []) = (.ok (), p) := by
  cases turns <;> rfl

theorem runFrom_byRules_succ (budget : Option Nat) (turns : Nat) (r : Rule) (rest : List Rule)
    (p : Progress) : runFrom p (byRules budget (turns + 1) (r :: rest)) =
      match runFrom p (turn budget (r :: rest)) with
      | (.ok rules, q) => runFrom q (byRules budget turns rules)
      | (.error e, q) => (.error e, q) := by
  rw [byRules, runFrom_bind]
  rcases runFrom p (turn budget (r :: rest)) with ⟨_ | _, _⟩ <;> rfl

/-- When there is nothing left to do, a turn is enough to end the run. -/
theorem runFrom_byRules_of_isOver (budget : Option Nat) {turns : Nat} (h : p.isOver = true)
    (hturns : rules.length ≤ turns) : runFrom p (byRules budget turns rules) = (.ok (), p) := by
  cases rules with
  | nil => exact runFrom_byRules_nil budget turns p
  | cons r rest =>
      cases turns with
      | zero => exact absurd hturns (Nat.not_succ_le_zero _)
      | succ turns =>
          rw [runFrom_byRules_succ, runFrom_turn_cons, if_pos h]
          exact runFrom_byRules_nil budget turns p

/-- A rule without a match is passed over. -/
theorem runFrom_byRules_of_no_match {top : NodeId} {turns : Nat} (hnot : p.isOver = false)
    (hroot : p.root = some top) (hends : p.forest.endlessBelow top = false)
    (hmatch : r.pattern.firstMatch? (p.forest.tree top) = none) :
    runFrom p (byRules budget (turns + 1) (r :: rest)) = runFrom p (byRules budget turns rest) := by
  rw [runFrom_byRules_succ, runFrom_turn_cons, hnot, Rule.runFrom_turn_of_no_match hroot hends hmatch]
  rfl

/-- A rule with a match is applied, and stays the first one, unless its statements fail. -/
theorem runFrom_byRules_of_match {top : NodeId} {m : Match} {turns : Nat} (hnot : p.isOver = false)
    (hroot : p.root = some top) (hends : p.forest.endlessBelow top = false)
    (hmatch : r.pattern.firstMatch? (p.forest.tree top) = some m)
    (hbudget : ∀ b, budget = some b → p.applications < b) :
    runFrom p (byRules budget (turns + 1) (r :: rest)) =
      match (Statement.applyAll r.statements).runFrom (.within p.forest top m.bindings) with
      | (.ok (), s) => runFrom (p.applied r.name (p.forest.tree top) m s)
          (byRules budget turns (r :: rest))
      | (.error e, s) => (.error (r.interruption e), { p with forest := s.forest }) := by
  rw [runFrom_byRules_succ, runFrom_turn_cons, hnot,
    Rule.runFrom_turn_of_match hroot hends hmatch hbudget]
  rcases (Statement.applyAll r.statements).runFrom (.within p.forest top m.bindings) with
    ⟨_ | _, _⟩ <;> rfl

/-- What holds of the progress whatever the forest, and after an application of a rule and the
exhaustion of the budget if it holds before. -/
structure Kept (I : Progress → Prop) : Prop where
  forest : ∀ p f, I p → I { p with forest := f }
  applied : ∀ p rule before m s, I p → I (p.applied rule before m s)
  exhausted : ∀ p rule b, I p → I (p.exhausted rule b)

theorem Kept.turn {I : Progress → Prop} (hI : Kept I) (budget : Option Nat) (rules : List Rule)
    (hp : I p) :
    I (runFrom p (turn budget rules)).2 := by
  cases rules with
  | nil => exact hp
  | cons r rest =>
      rw [runFrom_turn_cons]
      split
      · exact hp
      · have hturned := r.turned budget p
        generalize runFrom p (r.turn budget) = out at hturned
        cases hturned with
        | gone => exact hp
        | endless => exact hp
        | unmatched => exact hp
        | exhausted => exact hI.exhausted p r.name _ hp
        | applied => exact hI.applied p r.name _ _ _ hp
        | failed => exact hI.forest p _ hp

/-- What every turn leaves as it is holds at the end of a run if it holds at its beginning. -/
theorem byRules_of_turn {I : Progress → Prop} (turns : Nat) (rules : List Rule)
    (hturn : ∀ rules p, I p → I (runFrom p (turn budget rules)).2) (hp : I p) :
    I (runFrom p (byRules budget turns rules)).2 := by
  induction turns generalizing p rules with
  | zero =>
      cases rules with
      | nil => exact hp
      | cons r rest => exact hp
  | succ turns ih =>
      cases rules with
      | nil => exact hp
      | cons r rest =>
          have hfirst := hturn (r :: rest) p hp
          rw [runFrom_byRules_succ]
          rcases hrun : runFrom p (Reduction.turn budget (r :: rest)) with ⟨_ | rules, q⟩
          · rw [hrun] at hfirst
            exact hfirst
          · rw [hrun] at hfirst
            exact ih rules hfirst

theorem Kept.byRules {I : Progress → Prop} (hI : Kept I) (turns : Nat) (rules : List Rule)
    (hp : I p) : I (runFrom p (byRules budget turns rules)).2 :=
  byRules_of_turn turns rules (fun rules _ => hI.turn budget rules) hp

/-- Unless there is work left, the tree has been removed or is known to end. -/
def Settled (rules : List Rule) (p : Progress) : Prop :=
  rules = [] ∨ p.isOver = true → ∀ top, p.root = some top → p.forest.endlessBelow top = false

theorem Settled.turn (h : Settled rules p)
    (hrun : runFrom p (turn budget rules) = (.ok rest, q)) : Settled rest q := by
  cases rules with
  | nil =>
      cases hrun
      exact h
  | cons r rules =>
      rw [runFrom_turn_cons] at hrun
      split at hrun
      · rename_i hover
        cases hrun
        exact fun _ => h (Or.inr hover)
      · rename_i hnot
        have hturned := r.turned budget p
        generalize runFrom p (r.turn budget) = out at hturned hrun
        cases hturned with
        | gone hroot =>
            cases hrun
            intro _ top htop
            rw [hroot] at htop
            cases htop
        | endless => cases hrun
        | unmatched hroot hends =>
            cases hrun
            intro _ top htop
            cases hroot.symm.trans htop
            exact hends
        | exhausted hroot hends =>
            cases hrun
            intro _ top htop
            cases hroot.symm.trans htop
            exact hends
        | @applied top m s hroot hends hmatch hbudget happly =>
            cases hrun
            rintro (hnil | hover) top htop
            · cases hnil
            · simp only [Progress.isOver, Bool.or_eq_true, Option.isNone_iff_eq_none] at hover hnot
              rcases hover with hnone | hexhausted
              · rw [htop] at hnone
                cases hnone
              · exact absurd (Or.inr hexhausted) hnot
        | failed => cases hrun

/-- Where reduction has come to its end, the tree that is left ends. -/
theorem Settled.byRules {turns : Nat} (h : Settled rules p)
    (hrun : runFrom p (byRules budget turns rules) = (.ok (), q)) :
    ∀ top, q.root = some top → q.forest.endlessBelow top = false := by
  induction turns generalizing rules p with
  | zero =>
      cases rules with
      | nil =>
          cases hrun
          exact h (Or.inl rfl)
      | cons r rules => cases hrun
  | succ turns ih =>
      cases rules with
      | nil =>
          cases hrun
          exact h (Or.inl rfl)
      | cons r rules =>
          rw [runFrom_byRules_succ] at hrun
          split at hrun
          · rename_i hturn
            exact ih (h.turn hturn) hrun
          · cases hrun

end Reduction

theorem reduce_eq (rules : List Rule) (budget : Option Nat) (turns : Nat) (index : Int) (f : Forest)
    (top : NodeId) : reduce rules budget turns index f top =
      match runFrom (.start index f top) (Reduction.byRules budget turns rules) with
      | (.ok (), p) => (none, p)
      | (.error e, p) => (some e, p) := rfl

theorem snd_reduce (rules : List Rule) (budget : Option Nat) (turns : Nat) (index : Int) (f : Forest)
    (top : NodeId) : (reduce rules budget turns index f top).2 =
      (runFrom (.start index f top) (Reduction.byRules budget turns rules)).2 := by
  rw [reduce_eq]
  split <;> simp [*]

theorem fst_reduce_eq_some {turns : Nat} {index : Int} {f : Forest} {top : NodeId}
    {i : Interruption} : (reduce rules budget turns index f top).1 = some i ↔
      (runFrom (.start index f top) (Reduction.byRules budget turns rules)).1 = .error i := by
  rw [reduce_eq]
  split <;> simp [*]

theorem fst_reduce_eq_none {turns : Nat} {index : Int} {f : Forest} {top : NodeId} :
    (reduce rules budget turns index f top).1 = none ↔
      (runFrom (.start index f top) (Reduction.byRules budget turns rules)).1 = .ok () := by
  rw [reduce_eq]
  split <;> simp [*]

/-- Where reduction of a tree has come to its end, the tree that is left ends. -/
theorem not_endlessBelow_of_reduce {turns : Nat} {index : Int} {f : Forest} {top : NodeId}
    (hends : f.endlessBelow top = false)
    (h : (reduce rules budget turns index f top).1 = none) (root : NodeId)
    (hroot : (reduce rules budget turns index f top).2.root = some root) :
    (reduce rules budget turns index f top).2.forest.endlessBelow root = false := by
  have hstart : Reduction.Settled rules (.start index f top) := by
    intro _ root hroot
    cases hroot
    exact hends
  rw [reduce_eq] at h hroot ⊢
  split at h
  · rename_i p hrun
    rw [hrun] at hroot
    exact hstart.byRules hrun root hroot
  · cases h

end Treebank
