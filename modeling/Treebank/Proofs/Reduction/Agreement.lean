import Treebank.Proofs.Reduction.Turn
import Treebank.Proofs.Surgery.Structure

/-!
# The same reduction of corresponding trees

Reduction of a tree takes the same course wherever the tree stands: it finds the same matches, applies
the same rules, and stops early for the same reason.
-/

namespace Treebank

variable {R : Pairing} {p p' : Progress} {f f' : Forest} {top top' : NodeId}

/-- The same has been done, and what is left of the trees corresponds. -/
structure Progress.Similar (R : Pairing) (p p' : Progress) : Prop where
  root : Option.Rel R p.root p'.root
  applications_eq : p.applications = p'.applications
  ruleCounts_eq : p.ruleCounts = p'.ruleCounts
  budgetExhausted_eq : p.budgetExhausted = p'.budgetExhausted

structure Progress.Pairs (R : Pairing) (p p' : Progress) : Prop extends p.Similar R p' where
  forest : Forest.Pairs R p.forest p'.forest

theorem Progress.Pairs.isOver_eq (h : p.Pairs R p') : p.isOver = p'.isOver := by
  rw [isOver, isOver, Option.Rel.isNone_eq h.root, h.budgetExhausted_eq]

theorem Progress.Pairs.start (h : Forest.Pairs R f f') (htop : R top top') (index index' : Int) :
    (start index f top).Pairs R (start index' f' top') := ⟨⟨.some htop, rfl, rfl, rfl⟩, h⟩

/-- Bindings of a match stand for corresponding nodes. -/
theorem Surgery.State.Pairs.within (h : Forest.Pairs R f f') (htop : R top top') (b : Bindings) :
    (within f top b).Pairs R (within f' top' b) where
  forest := h
  root := .some htop
  names := by
    have hrel := Surgery.followEach_rel h htop (b.map fun e => (e.1, e.2.address))
    rwa [List.filterMap_map, List.filterMap_map] at hrel

namespace Reduction

/-- The outcomes are the same, and the progress after them corresponds. -/
def Agree {α : Type} (R : Pairing) (p p' : Progress) (out out' : Except Interruption α × Progress) :
    Prop :=
  ∃ R₁, Forest.Leads R p.forest p'.forest R₁ out.2.forest out'.2.forest ∧
    out.2.Pairs R₁ out'.2 ∧ out.1 = out'.1

theorem agree_here {α : Type} (h : p.Pairs R p') (a : Except Interruption α) :
    Agree R p p' (a, p) (a, p') := ⟨R, h.forest.leads, h, rfl⟩

end Reduction

open Reduction

theorem Rule.turn_agree (budget : Option Nat) (r : Rule) (h : p.Pairs R p') :
    Agree R p p' (runFrom p (r.turn budget)) (runFrom p' (r.turn budget)) := by
  have hroot := h.root
  rw [turn, runFrom_get_bind, runFrom_get_bind]
  cases hr : p.root <;> cases hr' : p'.root <;> rw [hr, hr'] at hroot <;> cases hroot
  · exact agree_here h (.ok false)
  · rename_i top top' htop
    simp only
    rw [← h.forest.endlessBelow_eq htop]
    cases hends : p.forest.endlessBelow top with
    | true => exact agree_here h (.error .unfinished)
    | false =>
        simp only [Bool.false_eq_true, if_false]
        rw [← h.forest.tree_eq htop hends, ← h.applications_eq]
        split
        · exact agree_here h (.ok false)
        · rename_i m _
          split
          · rename_i b _
            refine ⟨R, h.forest.leads, ?_, rfl⟩
            exact ⟨⟨hr ▸ hr' ▸ .some htop, h.applications_eq, h.ruleCounts_eq, rfl⟩, h.forest⟩
          · rw [runFrom_bind, runFrom_bind, runFrom_applyAt, runFrom_applyAt]
            obtain ⟨R₁, hleads, hpairs, houtcome⟩ :=
              Statement.applyAll_agree r.statements (.within h.forest htop m.bindings)
            rcases hrun : (Statement.applyAll r.statements).runFrom
              (.within p.forest top m.bindings) with ⟨o, s⟩
            rcases hrun' : (Statement.applyAll r.statements).runFrom
              (.within p'.forest top' m.bindings) with ⟨o', s'⟩
            rw [hrun, hrun'] at hleads hpairs houtcome
            cases houtcome with
            | ok =>
                refine ⟨R₁, hleads, ⟨⟨hpairs.root, ?_, ?_, ?_⟩, hpairs.forest⟩, rfl⟩
                · exact congrArg (· + 1) h.applications_eq
                · exact congrArg (addCount r.name 1) h.ruleCounts_eq
                · exact h.budgetExhausted_eq
            | error =>
                refine ⟨R₁, hleads, ⟨⟨?_, h.applications_eq, h.ruleCounts_eq,
                  h.budgetExhausted_eq⟩, hpairs.forest⟩, rfl⟩
                exact Option.Rel.mono h.root hleads.le

namespace Reduction

theorem turn_agree (budget : Option Nat) (rules : List Rule) (h : p.Pairs R p') :
    Agree R p p' (runFrom p (turn budget rules)) (runFrom p' (turn budget rules)) := by
  cases rules with
  | nil => exact agree_here h (.ok [])
  | cons r rest =>
      rw [runFrom_turn_cons, runFrom_turn_cons, h.isOver_eq]
      split
      · exact agree_here h (.ok [])
      · obtain ⟨R₁, hleads, hpairs, hsame⟩ := r.turn_agree budget h
        rcases hrun : runFrom p (r.turn budget) with ⟨o, q⟩
        rcases hrun' : runFrom p' (r.turn budget) with ⟨o', q'⟩
        rw [hrun, hrun'] at hleads hpairs hsame
        cases hsame
        rcases o with _ | _ | _ <;> exact ⟨R₁, hleads, hpairs, rfl⟩

theorem byRules_agree (budget : Option Nat) (turns : Nat) (rules : List Rule)
    (h : p.Pairs R p') :
    Agree R p p' (runFrom p (byRules budget turns rules))
      (runFrom p' (byRules budget turns rules)) := by
  induction turns generalizing R p p' rules with
  | zero =>
      cases rules with
      | nil => exact agree_here h (.ok ())
      | cons r rest => exact agree_here h (.error .unfinished)
  | succ turns ih =>
      cases rules with
      | nil => exact agree_here h (.ok ())
      | cons r rest =>
          rw [runFrom_byRules_succ, runFrom_byRules_succ]
          obtain ⟨R₁, hleads, hpairs, hsame⟩ := turn_agree budget (r :: rest) h
          rcases hrun : runFrom p (turn budget (r :: rest)) with ⟨o, q⟩
          rcases hrun' : runFrom p' (turn budget (r :: rest)) with ⟨o', q'⟩
          rw [hrun, hrun'] at hleads hpairs hsame
          cases hsame
          cases o with
          | error e => exact ⟨R₁, hleads, hpairs, rfl⟩
          | ok rules =>
              obtain ⟨R₂, hmore, hrest⟩ := ih rules hpairs
              exact ⟨R₂, hleads.trans hmore, hrest⟩

end Reduction

/-- Reduction of corresponding trees ends in corresponding ones, or is interrupted in the same way. -/
theorem reduce_agree (rules : List Rule) (budget : Option Nat) (turns : Nat) (index index' : Int)
    (h : Forest.Pairs R f f') (htop : R top top') :
    ∃ R₁, Forest.Leads R f f' R₁ (reduce rules budget turns index f top).2.forest
        (reduce rules budget turns index' f' top').2.forest ∧
      (reduce rules budget turns index f top).2.Pairs R₁
        (reduce rules budget turns index' f' top').2 ∧
      (reduce rules budget turns index f top).1 = (reduce rules budget turns index' f' top').1 := by
  obtain ⟨R₁, hleads, hpairs, hsame⟩ :=
    byRules_agree budget turns rules (.start h htop index index')
  rw [reduce_eq, reduce_eq]
  rcases hrun : runFrom (.start index f top) (byRules budget turns rules) with ⟨o, q⟩
  rcases hrun' : runFrom (.start index' f' top') (byRules budget turns rules) with ⟨o', q'⟩
  rw [hrun, hrun'] at hleads hpairs hsame
  cases hsame
  cases o <;> exact ⟨R₁, hleads, hpairs, rfl⟩

end Treebank
