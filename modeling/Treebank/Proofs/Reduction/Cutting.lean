import Treebank.Proofs.Reduction.Structure
import Treebank.Proofs.Surgery.Cutting

/-!
# Reduction that only takes nodes away

Rules whose statements only take nodes away are applied a limited number of times: with every
application fewer nodes hang from the root. So reduction by such rules comes to its end.
-/

namespace Treebank

open Surgery

/-- The rule does something, and all that it does is to take nodes away. -/
def Rule.Cuts (r : Rule) : Prop := r.statements ≠ [] ∧ ∀ st ∈ r.statements, st.Cuts

namespace Progress

/-- The forest is well formed, and the root is one of its topmost nodes. -/
structure Rooted (p : Progress) : Prop where
  wellFormed : p.forest.WellFormed
  root_top : ∀ r, p.root = some r → r < p.forest.size ∧ p.forest.parent? r = none

/-- The number of nodes that hang from the root. -/
noncomputable def weight (p : Progress) : Nat := (p.forest.hanging p.root).ncard

variable {p : Progress}

theorem Rooted.hanging_subset (hp : p.Rooted) :
    p.forest.hanging p.root ⊆ (Finset.range p.forest.size : Set NodeId) := by
  rintro n ⟨r, hr, hcov⟩
  simpa using hcov.lt_size (hp.root_top r hr).1

theorem Rooted.finite (hp : p.Rooted) : (p.forest.hanging p.root).Finite :=
  (Finset.finite_toSet _).subset hp.hanging_subset

theorem Rooted.weight_le_size (hp : p.Rooted) : p.weight ≤ p.forest.size := by
  have hle := Set.ncard_le_ncard hp.hanging_subset (Finset.finite_toSet _)
  rwa [Set.ncard_coe_finset, Finset.card_range] at hle

theorem rooted_start (t : Tree) (index : Int) :
    (start index (Forest.ofTree t).2 (Forest.ofTree t).1).Rooted where
  wellFormed := Forest.wellFormed_ofTree t
  root_top r hr := by
    cases hr
    have h := Forest.treeAt_plant Forest.empty t
    exact ⟨h.lt_size, h.parent_top⟩

end Progress

open Progress Reduction

variable {budget : Option Nat} {p q : Progress} {r : Rule} {rules : List Rule} {top : NodeId}
  {m : Match} {s : State}

/-! ## One turn -/

/-- The statements of a rule take away a node that hung from the root. -/
theorem Rule.Cuts.applied (hr : r.Cuts) (hp : p.Rooted) (hroot : p.root = some top)
    (hrun : (Statement.applyAll r.statements).runFrom (.within p.forest top m.bindings) = (.ok (), s)) :
    (p.applied r.name (p.forest.tree top) m s).Rooted ∧
      (p.applied r.name (p.forest.tree top) m s).weight < p.weight := by
  obtain ⟨hlt, htop⟩ := hp.root_top top hroot
  have hmeets := meets_applyAll_shrinks hr.2 (State.sound_within hp.wellFormed hlt htop m.bindings)
  rw [Meets, hrun] at hmeets
  obtain ⟨hshrinks, hloses⟩ := hmeets
  obtain ⟨name, _, n, hn, hout⟩ := hloses hr.1
  have hsub : s.forest.hanging s.root ⊆ p.forest.hanging p.root := hroot ▸ hshrinks.hanging_subset
  refine ⟨⟨hshrinks.sound.wellFormed, hshrinks.sound.root_top⟩, ?_⟩
  refine Set.ncard_lt_ncard ⟨hsub, fun hsup => hout (hsup ?_)⟩ hp.finite
  exact ⟨top, hroot, State.covers_of_lookup_within hp.wellFormed.linked hn⟩

/-- The failure of a rule's statements, reported with its place. -/
def Rule.Reports (r : Rule) (i : Interruption) : Prop :=
  ∃ e, i = .failed (.within r.source (.surgery e)) ∧ (Fault.surgery e).isPlaced = true

theorem Rule.Cuts.reports {e : Surgery.Error} (hr : r.Cuts) (hp : p.Rooted) (hroot : p.root = some top)
    (hrun : (Statement.applyAll r.statements).runFrom (.within p.forest top m.bindings) =
      (.error e, s)) : r.Reports (r.interruption e) := by
  obtain ⟨hlt, htop⟩ := hp.root_top top hroot
  have hplaced := State.isPlaced_of_cuts (State.sound_within hp.wellFormed hlt htop m.bindings) hr.2
    (congrArg Prod.fst hrun)
  refine ⟨e, ?_, hplaced⟩
  cases e with
  | endless => cases hplaced
  | _ => rfl

/-- With every turn there are fewer nodes and rules left, and an application costs a node. A turn that
fails is no application. -/
theorem Reduction.turn_cuts {rest : List Rule} (hrules : ∀ x ∈ r :: rest, x.Cuts) (hp : p.Rooted)
    (budget : Option Nat) :
    match runFrom p (turn budget (r :: rest)) with
    | (.ok rules, q) => rules ⊆ r :: rest ∧ q.Rooted ∧
        q.weight + rules.length < p.weight + (rest.length + 1) ∧
        q.applications + q.weight ≤ p.applications + p.weight
    | (.error i, q) => r.Reports i ∧ q.applications = p.applications := by
  have hr := hrules r List.mem_cons_self
  rw [runFrom_turn_cons]
  cases p.isOver with
  | true => exact ⟨List.nil_subset _, hp, by simp, Nat.le_refl _⟩
  | false =>
      have hturned := r.turned budget p
      generalize runFrom p (r.turn budget) = out at hturned
      have hskip : rest ⊆ r :: rest := List.subset_cons_self r rest
      cases hturned with
      | gone _ => exact ⟨hskip, hp, Nat.lt_succ_self _, Nat.le_refl _⟩
      | endless hroot hendless =>
          rw [hp.wellFormed.not_endlessBelow (hp.root_top _ hroot).1] at hendless
          cases hendless
      | unmatched _ _ _ => exact ⟨hskip, hp, Nat.lt_succ_self _, Nat.le_refl _⟩
      | exhausted _ _ _ _ _ =>
          exact ⟨hskip, ⟨hp.wellFormed, hp.root_top⟩, Nat.lt_succ_self _, Nat.le_refl _⟩
      | applied hroot _ _ _ hrun =>
          obtain ⟨hrooted, hweight⟩ := hr.applied hp hroot hrun
          refine ⟨List.Subset.refl _, hrooted, Nat.add_lt_add_right hweight _, ?_⟩
          simp only [Progress.applied] at hweight ⊢
          omega
      | failed hroot _ hrun => exact ⟨hr.reports hp hroot hrun, rfl⟩

/-! ## A whole run -/

/-- As many turns as there are nodes and rules are enough, and at most as many of them are applications
as there are nodes. -/
theorem Reduction.byRules_cuts (budget : Option Nat) (turns : Nat) (hrules : ∀ r ∈ rules, r.Cuts)
    (hp : p.Rooted) (hturns : p.weight + rules.length ≤ turns) :
    (runFrom p (byRules budget turns rules)).2.applications ≤ p.applications + p.weight ∧
      ∀ i, (runFrom p (byRules budget turns rules)).1 = .error i → ∃ r ∈ rules, r.Reports i := by
  induction turns generalizing p rules with
  | zero =>
      obtain rfl : rules = [] := List.length_eq_zero_iff.mp (by omega)
      rw [runFrom_byRules_nil]
      exact ⟨Nat.le_add_right _ _, by simp⟩
  | succ turns ih =>
      cases rules with
      | nil =>
          rw [runFrom_byRules_nil]
          exact ⟨Nat.le_add_right _ _, by simp⟩
      | cons r rest =>
          rw [List.length_cons] at hturns
          have hturn := turn_cuts hrules hp budget
          rw [runFrom_byRules_succ]
          rcases hrun : runFrom p (Reduction.turn budget (r :: rest)) with ⟨i | left, q⟩
          · rw [hrun] at hturn
            obtain ⟨hreports, happlications⟩ := hturn
            refine ⟨?_, fun j hj => ⟨r, List.mem_cons_self, Except.error.inj hj ▸ hreports⟩⟩
            exact happlications ▸ Nat.le_add_right _ _
          · rw [hrun] at hturn
            obtain ⟨hsub, hq, hfewer, hcost⟩ := hturn
            obtain ⟨hle, hfailure⟩ := ih (fun x hx => hrules x (hsub hx)) hq (by omega)
            refine ⟨Nat.le_trans hle hcost, fun i hi => ?_⟩
            obtain ⟨x, hx, hreports⟩ := hfailure i hi
            exact ⟨x, hsub hx, hreports⟩

/-- Rules that only take nodes away come to an end on every tree, with a result or with a failure
that is reported with its place, after at most as many applications as the tree has nodes. -/
theorem reduce_ends_of_cuts (rules : List Rule) (hrules : ∀ r ∈ rules, r.Cuts)
    (budget : Option Nat) (index : Int) {f : Forest} {top : NodeId} {t : Tree} (h : f.TreeAt top t)
    (turns : Nat) (hturns : t.size + rules.length ≤ turns) :
    let run := reduce rules budget turns index f top
    run.2.applications ≤ t.size ∧ ∀ i, run.1 = some i → ∃ r ∈ rules, r.Reports i := by
  intro run
  -- the tree may stand among others in any forest; it is reduced as if it stood alone
  obtain ⟨_, _, hpairs, hsame⟩ := reduce_agree rules budget turns index index
    (h.pairs (Forest.treeAt_plant Forest.empty t)) (Forest.samePlace_top ..)
  have hstart := rooted_start t index
  have hweight : (start index (Forest.ofTree t).2 (Forest.ofTree t).1).weight ≤ t.size :=
    Forest.size_ofTree t ▸ hstart.weight_le_size
  obtain ⟨hle, hfailure⟩ := byRules_cuts budget turns hrules hstart (by omega)
  refine ⟨?_, fun i hi => hfailure i (fst_reduce_eq_some.mp (hsame.symm.trans hi))⟩
  rw [hpairs.applications_eq, snd_reduce]
  exact Nat.le_trans hle (Nat.le_trans (Nat.le_of_eq (Nat.zero_add _)) hweight)

/-- A phrase is cut out, and pruned when it has left the tree. -/
theorem reduce_ends_of_cut_phrase :
    let t := Tree.node "S" [.node "NP" [.node "dog" []], .node "VP" [.node "barked" []]]
    let p : CompiledPattern := ⟨"NP=n", .node (some ⟨[.literal "NP"], false⟩) (some "n") none,
      ⟨HeadFinder.firstChild, id⟩⟩
    let rules : List Rule := [⟨"cut", p, [.excise "n" "n", .prune ["n"]], none⟩]
    let root := Forest.ofTree t
    Statement.read "prune n" = .ok (.prune ["n"]) ∧
      (reduce rules none 6 0 root.2 root.1).2.applications ≤ t.size := by
  intro t p rules root
  have hread : Statement.read "prune n" = .ok (.prune ["n"]) := by decide +kernel
  have h : root.2.TreeAt root.1 t := Forest.treeAt_plant Forest.empty t
  have hrules : ∀ r ∈ rules, r.Cuts := by
    intro r hr
    rw [List.mem_singleton.mp hr]
    refine ⟨List.cons_ne_nil _ _, fun st hst => ?_⟩
    rcases List.mem_pair.mp hst with rfl | rfl
    · trivial
    · exact Statement.cuts_of_read hread rfl
  exact ⟨hread, (reduce_ends_of_cuts rules hrules none 0 h 6 (by decide)).1⟩

end Treebank
