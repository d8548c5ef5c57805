import Treebank.Proofs.Reduction.Structure
import Treebank.Proofs.Surgery.Linked

/-!
# A tree among others is reduced as if it stood alone

Whatever is done to a tree that stands alone, its forest stays linked, and the search for a match comes
to an end. Reduction of a tree like it among others does the same, turn by turn, and reports the same
events.
-/

namespace Treebank

variable {budget : Option Nat} {R : Pairing} {p p' q q' : Progress} {r : Rule} {top : NodeId}
  {f : Forest} {t : Tree}

open Reduction

/-! ## A tree that stands alone -/

namespace Progress

/-- The forest is linked, and the root is one of its topmost nodes. -/
structure Linked (p : Progress) : Prop where
  linked : p.forest.Linked
  root_top : ∀ r, p.root = some r → r < p.forest.size ∧ p.forest.parent? r = none

theorem Linked.not_endlessBelow (h : p.Linked) (hroot : p.root = some top) :
    p.forest.endlessBelow top = false := by
  obtain ⟨hlt, htop⟩ := h.root_top top hroot
  exact h.linked.not_endlessBelow (.top htop) hlt

theorem linked_start (index : Int) (t : Tree) :
    (start index (Forest.ofTree t).2 (Forest.ofTree t).1).Linked := by
  have halone := Forest.treeAt_plant Forest.empty t
  refine ⟨(Forest.wellFormed_ofTree t).linked, ?_⟩
  rintro r hr
  cases hr
  exact ⟨halone.lt_size, halone.parent_top⟩

theorem Linked.applied (h : p.Linked) {m : Match} {s : Surgery.State} (hroot : p.root = some top)
    (hrun : (Statement.applyAll r.statements).runFrom (.within p.forest top m.bindings) = (.ok (), s)) :
    (p.applied r.name (p.forest.tree top) m s).Linked := by
  obtain ⟨hlt, htop⟩ := h.root_top top hroot
  have hs := (Surgery.leaves_applyAll r.statements
    (Surgery.State.linked_within h.linked hlt htop m.bindings)).of_ok hrun
  exact ⟨hs.linked, hs.root_top⟩

end Progress

theorem Rule.Turned.linked {again : Bool} (h : r.Turned budget p (.ok again, q)) (hp : p.Linked) :
    q.Linked := by
  cases h with
  | gone _ => exact hp
  | unmatched _ _ _ => exact hp
  | exhausted _ _ _ _ _ => exact ⟨hp.linked, hp.root_top⟩
  | applied hroot _ _ _ hrun => exact hp.applied hroot hrun

/-- A turn that is no application reports no event. -/
theorem Rule.Turned.events_eq {o : Except Interruption Bool} (h : r.Turned budget p (o, q))
    (ho : o ≠ .ok true) : q.events = p.events ∧ q.index = p.index := by
  cases h with
  | gone _ => exact ⟨rfl, rfl⟩
  | endless _ _ => exact ⟨rfl, rfl⟩
  | unmatched _ _ _ => exact ⟨rfl, rfl⟩
  | exhausted _ _ _ _ _ => exact ⟨rfl, rfl⟩
  | applied _ _ _ _ _ => exact absurd rfl ho
  | failed _ _ _ => exact ⟨rfl, rfl⟩

/-! ## A tree among others -/

/-- The trees at corresponding tops are the same, if the search in one of them comes to an end. -/
theorem Forest.Pairs.map_tree_eq {f' : Forest} {o o' : Option NodeId} (h : Forest.Pairs R f f')
    (ho : Option.Rel R o o') (hends : ∀ n, o' = some n → f'.endlessBelow n = false) :
    o.map f.tree = o'.map f'.tree := by
  cases ho with
  | none => rfl
  | some hn => exact congrArg some (h.tree_eq hn ((h.endlessBelow_eq hn).trans (hends _ rfl)))

/-- The same has been done and reported, and what is left of the trees corresponds; the second tree
stands alone. -/
structure Progress.Echoes (R : Pairing) (p p' : Progress) : Prop extends p.Pairs R p' where
  linked : p'.Linked
  index_eq : p.index = p'.index
  events_eq : p.events = p'.events

namespace Progress

theorem Pairs.tree?_eq (h : p.Pairs R p') (hp' : p'.Linked) : p.tree? = p'.tree? :=
  h.forest.map_tree_eq h.root fun _ hroot => hp'.not_endlessBelow hroot

theorem Echoes.not_endlessBelow (h : p.Echoes R p') (hroot : p.root = some top) :
    p.forest.endlessBelow top = false := by
  have hrel := h.root
  rw [hroot] at hrel
  cases hr' : p'.root with
  | none =>
      rw [hr'] at hrel
      cases hrel
  | some top' =>
      rw [hr'] at hrel
      cases hrel with
      | some htop => exact (h.forest.endlessBelow_eq htop).trans (h.linked.not_endlessBelow hr')

/-- A tree is reduced as it would be if it were planted in an empty forest. -/
theorem echoes_start (h : f.TreeAt top t) (index : Int) : ∃ R, (start index f top).Echoes R
    (start index (Forest.ofTree t).2 (Forest.ofTree t).1) := by
  have halone := Forest.treeAt_plant Forest.empty t
  exact ⟨_, .start (h.pairs halone) (Forest.samePlace_top ..) index index, linked_start index t, rfl,
    rfl⟩

end Progress

namespace Reduction

/-- The outcomes are the same, and the same has been done and reported. If the outcome is no failure,
what is left of the trees corresponds. -/
structure Echo {α : Type} (R : Pairing) (out out' : Except Interruption α × Progress) : Prop where
  outcome_eq : out.1 = out'.1
  similar : out.2.Similar R out'.2
  events_eq : out.2.events = out'.2.events
  echoes : ∀ a, out.1 = .ok a → out.2.Echoes R out'.2

theorem echo_here {α : Type} (h : p.Echoes R p') (a : α) : Echo R (.ok a, p) (.ok a, p') :=
  ⟨rfl, h.toSimilar, h.events_eq, fun _ _ => h⟩

end Reduction

theorem Rule.turn_echo (budget : Option Nat) (r : Rule) (h : p.Echoes R p') :
    ∃ R₁, Forest.Leads R p.forest p'.forest R₁ (runFrom p (r.turn budget)).2.forest
        (runFrom p' (r.turn budget)).2.forest ∧
      Echo R₁ (runFrom p (r.turn budget)) (runFrom p' (r.turn budget)) := by
  obtain ⟨R₁, hleads, hpairs, hsame⟩ := r.turn_agree budget h.toPairs
  have hturned := r.turned budget p
  have hturned' := r.turned budget p'
  generalize runFrom p (r.turn budget) = out at hleads hpairs hsame hturned ⊢
  generalize runFrom p' (r.turn budget) = out' at hleads hpairs hsame hturned' ⊢
  obtain ⟨o, q⟩ := out
  obtain ⟨o', q'⟩ := out'
  obtain rfl : o = o' := hsame
  refine ⟨R₁, hleads, ?_⟩
  by_cases ho : o = .ok true
  · subst ho
    have hlinked := hturned'.linked h.linked
    cases hturned with
    | @applied top m s hroot hends hmatch _ hrun =>
        cases hturned' with
        | @applied top' m' s' hroot' _ hmatch' _ hrun' =>
            have hrel := h.root
            rw [hroot, hroot'] at hrel
            cases hrel with
            | some htop =>
                have htree := h.forest.tree_eq htop hends
                obtain rfl : m = m' := by
                  rw [htree, hmatch'] at hmatch
                  exact (Option.some.inj hmatch).symm
                have hafter : s.tree? = s'.tree? := hpairs.tree?_eq hlinked
                have hevents : (p.applied r.name (p.forest.tree top) m s).events =
                    (p'.applied r.name (p'.forest.tree top') m s').events := by
                  simp only [Progress.applied, h.events_eq, h.applications_eq, h.index_eq, htree,
                    hafter]
                exact ⟨rfl, hpairs.toSimilar, hevents, fun _ _ =>
                  ⟨hpairs, hlinked, h.index_eq, hevents⟩⟩
  · obtain ⟨hevents, hindex⟩ := hturned.events_eq ho
    obtain ⟨hevents', hindex'⟩ := hturned'.events_eq ho
    have heq : q.events = q'.events := hevents.trans (h.events_eq.trans hevents'.symm)
    refine ⟨rfl, hpairs.toSimilar, heq, ?_⟩
    rintro again rfl
    exact ⟨hpairs, hturned'.linked h.linked, hindex.trans (h.index_eq.trans hindex'.symm), heq⟩

namespace Reduction

theorem turn_echo (budget : Option Nat) (rules : List Rule) (h : p.Echoes R p') :
    ∃ R₁, Echo R₁ (runFrom p (turn budget rules)) (runFrom p' (turn budget rules)) := by
  cases rules with
  | nil => exact ⟨R, echo_here h []⟩
  | cons r rest =>
      rw [runFrom_turn_cons, runFrom_turn_cons, h.isOver_eq]
      split
      · exact ⟨R, echo_here h []⟩
      · obtain ⟨R₁, _, hsame, hsimilar, hevents, hechoes⟩ := r.turn_echo budget h
        rcases hrun : runFrom p (r.turn budget) with ⟨o, q⟩
        rcases hrun' : runFrom p' (r.turn budget) with ⟨o', q'⟩
        rw [hrun, hrun'] at hsame hsimilar hevents hechoes
        cases hsame
        rcases o with e | _ | _
        · exact ⟨R₁, rfl, hsimilar, hevents, nofun⟩
        · exact ⟨R₁, echo_here (hechoes false rfl) rest⟩
        · exact ⟨R₁, echo_here (hechoes true rfl) (r :: rest)⟩

theorem byRules_echo (budget : Option Nat) (turns : Nat) (rules : List Rule) (h : p.Echoes R p') :
    ∃ R₁, Echo R₁ (runFrom p (byRules budget turns rules))
      (runFrom p' (byRules budget turns rules)) := by
  induction turns generalizing R p p' rules with
  | zero =>
      cases rules with
      | nil => exact ⟨R, echo_here h ()⟩
      | cons r rest => exact ⟨R, rfl, h.toSimilar, h.events_eq, nofun⟩
  | succ turns ih =>
      cases rules with
      | nil => exact ⟨R, echo_here h ()⟩
      | cons r rest =>
          rw [runFrom_byRules_succ, runFrom_byRules_succ]
          obtain ⟨R₁, hsame, hsimilar, hevents, hechoes⟩ := turn_echo budget (r :: rest) h
          rcases hrun : runFrom p (turn budget (r :: rest)) with ⟨o, q⟩
          rcases hrun' : runFrom p' (turn budget (r :: rest)) with ⟨o', q'⟩
          rw [hrun, hrun'] at hsame hsimilar hevents hechoes
          cases hsame
          cases o with
          | error e => exact ⟨R₁, rfl, hsimilar, hevents, nofun⟩
          | ok rules => exact ih rules (hechoes rules rfl)

end Reduction

end Treebank
