import Treebank.Proofs.Reduction.Echo
import Treebank.Proofs.Reduction.Fixpoint

/-!
# A budget only cuts reduction short

Up to the application that the budget no longer allows, reduction does the same as with a larger budget
or with none. As an application takes up some of the budget, reduction with a budget ends unless the
statements of a rule go on for ever. The budget is found to be used up by a rule that still has a match.
-/

namespace Treebank

open Progress Reduction

variable {k : Nat} {budget budget' : Option Nat} {R : Pairing} {c c' : Point} {p p' q q' : Progress}
  {r : Rule} {rules rest : List Rule}

/-- The rule has a match, and its statements go on for ever there. -/
def Rule.Hangs (r : Rule) (q : Progress) : Prop :=
  ∃ top m, q.root = some top ∧ r.pattern.firstMatch? (q.forest.tree top) = some m ∧
    ((Statement.applyAll r.statements).runFrom (.within q.forest top m.bindings)).1 = .error .endless

/-! ## Applications and events -/

namespace Reduction

theorem applications_le_turn (rules : List Rule) (p : Progress) (hle : p.applications ≤ k) :
    (runFrom p (turn (some k) rules)).2.applications ≤ k := by
  cases rules with
  | nil => exact hle
  | cons r rest =>
      rw [runFrom_turn_cons]
      split
      · exact hle
      · have hturned := r.turned (some k) p
        generalize runFrom p (r.turn (some k)) = out at hturned
        cases hturned with
        | gone _ => exact hle
        | endless _ _ => exact hle
        | unmatched _ _ _ => exact hle
        | exhausted _ _ _ _ _ => exact hle
        | applied _ _ _ hbudget _ => exact hbudget k rfl
        | failed _ _ _ => exact hle

/-- There are as many events as applications. -/
theorem kept_size_events : Kept fun q => q.events.size = q.applications where
  forest _ _ h := h
  applied p rule before m s h := by
    show (p.events.push _).size = p.applications + 1
    rw [Array.size_push, h]
  exhausted _ _ _ h := h

theorem size_events_byRules (budget : Option Nat) (turns : Nat) (rules : List Rule) (p : Progress)
    (hp : p.events.size = p.applications) : (runFrom p (byRules budget turns rules)).2.events.size =
      (runFrom p (byRules budget turns rules)).2.applications :=
  kept_size_events.byRules turns rules hp

/-- Events are only added. -/
theorem kept_events_extended (es : List Event) : Kept fun q => es <+: q.events.toList where
  forest _ _ h := h
  applied p rule before m s h := by
    show es <+: (p.events.push _).toList
    rw [Array.toList_push]
    exact h.trans (List.prefix_append _ _)
  exhausted _ _ _ h := h

theorem kept_budgetExhausted : Kept fun q => q.budgetExhausted = true where
  forest _ _ h := h
  applied _ _ _ _ _ h := h
  exhausted _ _ _ _ := rfl

/-! ## Reduction with a budget ends -/

/-- With every turn there is less of the budget and of the rules left. -/
theorem Turns.fewer (h : Turns (some k) (r :: rest, p) c) :
    (k - c.2.applications) + c.1.length < (k - p.applications) + (rest.length + 1) := by
  cases h.step with
  | ended _ => simp
  | unmatched _ _ _ => exact Nat.lt_succ_self _
  | exhausted _ _ _ _ _ => exact Nat.lt_succ_self _
  | applied _ _ _ hbudget _ =>
      have hlt := hbudget k rfl
      simp only [Progress.applied, List.length_cons]
      omega

/-- With a turn for every application of the budget and for every rule, reduction is interrupted only
by a turn that fails. -/
theorem exists_failing_turn {turns : Nat} {i : Interruption}
    (hturns : (k - p.applications) + rules.length ≤ turns)
    (h : (runFrom p (byRules (some k) turns rules)).1 = .error i) :
    ∃ r rest q, Passes (some k) (rules, p) (r :: rest, q) ∧
      (runFrom q (turn (some k) (r :: rest))).1 = .error i := by
  induction turns generalizing p rules with
  | zero =>
      obtain rfl : rules = [] := List.length_eq_zero_iff.mp (by omega)
      rw [runFrom_byRules_nil] at h
      cases h
  | succ turns ih =>
      cases rules with
      | nil =>
          rw [runFrom_byRules_nil] at h
          cases h
      | cons r rest =>
          rw [runFrom_byRules_succ] at h
          rcases hrun : runFrom p (turn (some k) (r :: rest)) with ⟨e | left, q⟩
          · rw [hrun] at h
            obtain rfl : e = i := Except.error.inj h
            exact ⟨r, rest, p, .refl, congrArg Prod.fst hrun⟩
          · rw [hrun] at h
            have hturn : Turns (some k) (r :: rest, p) (left, q) := hrun
            have hfewer := hturn.fewer
            rw [List.length_cons] at hturns
            obtain ⟨x, others, q', hpasses, herror⟩ := ih (by simp only at hfewer; omega) h
            exact ⟨x, others, q', .head hturn hpasses, herror⟩

/-- In the course of reduction, the tree goes on like one that stands alone. -/
theorem exists_echoes_of_passes (h : c.2.Echoes R p') (hpasses : Passes budget c c') :
    ∃ R₁ q', c'.2.Echoes R₁ q' := by
  induction hpasses with
  | refl => exact ⟨R, p', h⟩
  | @tail c c' _ hturn ih =>
      obtain ⟨R₁, q, hechoes⟩ := ih
      obtain ⟨R₂, hecho⟩ := turn_echo budget c.1 hechoes
      rw [show runFrom c.2 (turn budget c.1) = _ from hturn] at hecho
      exact ⟨R₂, _, hecho.echoes _ rfl⟩

/-- A turn goes on for ever only if the statements of the rule do. -/
theorem hangs_of_turn (h : q.Echoes R q')
    (hturn : (runFrom q (turn budget (r :: rest))).1 = .error .unfinished) : r.Hangs q := by
  rw [runFrom_turn_cons] at hturn
  split at hturn
  · cases hturn
  · have hturned := r.turned budget q
    generalize runFrom q (r.turn budget) = out at hturned hturn
    cases hturned with
    | gone _ => cases hturn
    | endless hroot hends =>
        rw [h.not_endlessBelow hroot] at hends
        cases hends
    | unmatched _ _ _ => cases hturn
    | exhausted _ _ _ _ _ => cases hturn
    | applied _ _ _ _ _ => cases hturn
    | @failed top m e s hroot hmatch hrun =>
        refine ⟨top, m, hroot, hmatch, ?_⟩
        rw [hrun]
        have hendless : r.interruption e = .unfinished := Except.error.inj hturn
        cases e with
        | endless => rfl
        | _ => cases hendless

/-! ## Two budgets -/

/-- The first outcome is the second one; or the budget is used up in it, and the events in it are those
that come first in the second outcome, which has more applications unless it is interrupted, or its
budget used up as well. -/
inductive CutShort (k : Nat) (out out' : Except Interruption Unit × Progress) : Prop where
  | same : out.2.budgetExhausted = false → out = out' → CutShort k out out'
  | cut : out.1 = .ok () → out.2.budgetExhausted = true → out.2.applications = k →
      out.2.events.toList <+: out'.2.events.toList →
      (out'.1 = .ok () → out'.2.budgetExhausted = false → k < out'.2.applications) →
      CutShort k out out'

/-- The events up to the budget. -/
theorem CutShort.events_eq {out out' : Except Interruption Unit × Progress} (h : CutShort k out out')
    (hsize : out.2.events.size = out.2.applications) (hle : out.2.applications ≤ k) :
    out.2.events.toList = out'.2.events.toList.take (min k out'.2.events.size) := by
  cases h with
  | same _ heq =>
      subst heq
      refine (List.take_of_length_le ?_).symm
      rw [Array.length_toList]
      omega
  | cut _ _ hk hprefix _ =>
      have hlength := hprefix.length_le
      have htake := List.prefix_iff_eq_take.mp hprefix
      rw [Array.length_toList] at hlength htake
      rw [Array.length_toList] at hlength
      rw [htake]
      congr 1
      omega

/-- Where a rule matches and the budget is used up, a run with a larger budget, or with none, goes
on. -/
theorem cutShort_of_exhausted {top : NodeId} {m : Match} {turns turns' : Nat}
    (hroot : p.root = some top) (hends : p.forest.endlessBelow top = false)
    (hmatch : r.pattern.firstMatch? (p.forest.tree top) = some m) (hk : p.applications = k)
    (hnot : p.isOver = false) (hturns : rest.length ≤ turns) :
    CutShort k (runFrom p (byRules (some k) (turns + 1) (r :: rest)))
      (runFrom p (byRules budget' (turns' + 1) (r :: rest))) := by
  have hcut : runFrom p (byRules (some k) (turns + 1) (r :: rest)) =
      (.ok (), p.exhausted r.name k) := by
    rw [runFrom_byRules_succ, runFrom_turn_cons, hnot,
      Rule.runFrom_turn_of_exhausted hroot hends hmatch (Nat.le_of_eq hk.symm)]
    exact runFrom_byRules_of_isOver _ (Bool.or_true _) hturns
  rw [hcut]
  refine .cut rfl rfl hk ((kept_events_extended p.events.toList).byRules _ _ (List.prefix_refl _)) ?_
  intro hdone hleft
  rw [runFrom_byRules_succ, runFrom_turn_cons, hnot] at hdone hleft ⊢
  have hturned := r.turned budget' p
  generalize runFrom p (r.turn budget') = out at hturned hdone hleft ⊢
  cases hturned with
  | gone hnone =>
      rw [hroot] at hnone
      cases hnone
  | endless _ _ => cases hdone
  | unmatched hroot' _ hnone =>
      cases hroot.symm.trans hroot'
      rw [hmatch] at hnone
      cases hnone
  | @exhausted _ _ b _ _ _ _ _ =>
      have hflag : (runFrom (p.exhausted r.name b) (byRules budget' turns' rest)).2.budgetExhausted =
          true := kept_budgetExhausted.byRules _ _ rfl
      exact absurd (hflag.symm.trans hleft) (by simp)
  | applied _ _ _ _ _ =>
      subst hk
      exact (kept_le_applications (p.applications + 1)).byRules _ _ (Nat.le_refl _)
  | failed _ _ _ => cases hdone

/-- A run with a budget is a run with a larger one, or with none, cut short. -/
theorem byRules_cutShort {turns turns' : Nat} (hbudget : ∀ k', budget' = some k' → k ≤ k')
    (hle : p.applications ≤ k) (hleft : p.budgetExhausted = false)
    (hturns : (k - p.applications) + rules.length ≤ turns)
    (hended : (runFrom p (byRules budget' turns' rules)).1 ≠ .error .unfinished) :
    CutShort k (runFrom p (byRules (some k) turns rules))
      (runFrom p (byRules budget' turns' rules)) := by
  induction turns generalizing p rules turns' with
  | zero =>
      obtain rfl : rules = [] := List.length_eq_zero_iff.mp (by omega)
      rw [runFrom_byRules_nil, runFrom_byRules_nil]
      exact .same hleft rfl
  | succ turns ih =>
      rcases rules with _ | ⟨r, rest⟩
      · rw [runFrom_byRules_nil, runFrom_byRules_nil]
        exact .same hleft rfl
      rcases turns' with _ | turns'
      · exact absurd rfl hended
      rw [List.length_cons] at hturns
      cases hroot : p.root with
      | none =>
          have hover : p.isOver = true := by simp [isOver, hroot]
          rw [runFrom_byRules_of_isOver _ hover (by rw [List.length_cons]; omega),
            runFrom_byRules_succ, runFrom_turn_cons, if_pos hover]
          simp only [runFrom_byRules_nil]
          exact .same hleft rfl
      | some top =>
          have hnot : p.isOver = false := by simp [isOver, hroot, hleft]
          cases hends : p.forest.endlessBelow top with
          | true =>
              rw [runFrom_byRules_succ, runFrom_turn_cons, hnot,
                Rule.runFrom_turn_of_endless hroot hends] at hended
              exact absurd rfl hended
          | false =>
              cases hmatch : r.pattern.firstMatch? (p.forest.tree top) with
              | none =>
                  rw [runFrom_byRules_of_no_match hnot hroot hends hmatch] at hended ⊢
                  rw [runFrom_byRules_of_no_match hnot hroot hends hmatch]
                  exact ih hle hleft (by omega) hended
              | some m =>
                  by_cases hlt : p.applications < k
                  · have hwithin : ∀ b, some k = some b → p.applications < b := by
                      rintro b ⟨⟩
                      exact hlt
                    have hwithin' : ∀ b, budget' = some b → p.applications < b := fun b hb =>
                      Nat.lt_of_lt_of_le hlt (hbudget b hb)
                    rw [runFrom_byRules_of_match hnot hroot hends hmatch hwithin'] at hended ⊢
                    rw [runFrom_byRules_of_match hnot hroot hends hmatch hwithin]
                    generalize (Statement.applyAll r.statements).runFrom
                      (.within p.forest top m.bindings) = out at hended ⊢
                    rcases out with ⟨e | _, s⟩
                    · exact .same hleft rfl
                    · refine ih hlt hleft ?_ hended
                      simp only [Progress.applied, List.length_cons]
                      omega
                  · exact cutShort_of_exhausted hroot hends hmatch (by omega) hnot (by omega)

/-- The budget has been found to be used up by the last rule tried, which has a match in the tree that
is left. -/
theorem Passes.exists_exhausted (h : Passes (some k) c ([], q)) (hnot : c.2.isOver = false)
    (hflag : q.budgetExhausted = true) : ∃ r rest q₁ root m, Passes (some k) c (r :: rest, q₁) ∧
      q = q₁.exhausted r.name k ∧ k ≤ q.applications ∧ StopsIn (some k) c (r :: rest) ∧
      q.root = some root ∧ r.pattern.firstMatch? (q.forest.tree root) = some m := by
  have hover : q.isOver = true := by simp [isOver, hflag]
  obtain ⟨r, rest, q₁, left, hpasses, hq₁, hturns, hstops⟩ := Passes.exists_stopsIn h hover hnot
  have hunflagged : q₁.budgetExhausted = false := (Bool.or_eq_false_iff.mp hq₁).2
  cases hturns.step with
  | ended hover' => simp [hover'] at hq₁
  | unmatched _ _ _ =>
      rw [hunflagged] at hflag
      cases hflag
  | @exhausted top m b _ hroot hmatch hbudget hle =>
      cases hbudget
      exact ⟨r, rest, q₁, top, m, hpasses, rfl, hle, hstops, hroot, hmatch⟩
  | applied _ _ _ _ _ => exact absurd (hunflagged.symm.trans hflag) (by simp)

/-- The budget is found to be used up exactly if it has been used up and the last rule tried has a
match left. -/
theorem Passes.budgetExhausted_iff (h : Passes (some k) c ([], q)) (hnot : c.2.isOver = false)
    (hle : q.applications ≤ k) : q.budgetExhausted = true ↔ q.applications = k ∧
      ∃ r rest root, StopsIn (some k) c (r :: rest) ∧ q.root = some root ∧
        r.pattern.allMatches (q.forest.tree root) ≠ [] := by
  constructor
  · intro hflag
    obtain ⟨r, rest, q₁, root, m, _, _, hk, hstops, hroot, hmatch⟩ :=
      Passes.exists_exhausted h hnot hflag
    refine ⟨Nat.le_antisymm hle hk, r, rest, root, hstops, hroot, fun hnil => ?_⟩
    rw [CompiledPattern.firstMatch?_eq_none.mpr hnil] at hmatch
    cases hmatch
  · rintro ⟨_, r, rest, root, hstops, hroot, hmatches⟩
    by_contra hflag
    exact hmatches (CompiledPattern.firstMatch?_eq_none.mp
      (hstops.unmatched h (Bool.eq_false_of_not_eq_true hflag) hroot))

end Reduction

/-! ## Whole reductions -/

/-- A tree is reduced as it would be by itself, with the same events. -/
theorem reduce_echo (rules : List Rule) (budget : Option Nat) (turns : Nat) (index : Int) {f : Forest}
    {top : NodeId} {t : Tree} (h : f.TreeAt top t) :
    let run := reduce rules budget turns index f top
    let alone := runFrom (start index (Forest.ofTree t).2 (Forest.ofTree t).1)
      (byRules budget turns rules)
    (runFrom (start index f top) (byRules budget turns rules)).1 = alone.1 ∧
      run.2.applications = alone.2.applications ∧ run.2.ruleCounts = alone.2.ruleCounts ∧
      run.2.budgetExhausted = alone.2.budgetExhausted ∧ run.2.events = alone.2.events ∧
      (run.1 = none → run.2.tree? = alone.2.tree?) := by
  intro run alone
  obtain ⟨R, hechoes⟩ := echoes_start h index
  obtain ⟨R₁, hsame, hsimilar, hevents, hend⟩ := byRules_echo budget turns rules hechoes
  have hrun : run.2 = (runFrom (start index f top) (byRules budget turns rules)).2 := snd_reduce ..
  rw [hrun]
  refine ⟨hsame, hsimilar.applications_eq, hsimilar.ruleCounts_eq, hsimilar.budgetExhausted_eq,
    hevents, fun hdone => ?_⟩
  have hend := hend () (fst_reduce_eq_none.mp hdone)
  exact hend.tree?_eq hend.linked

/-- Reduction of a tree with a budget, and with a larger one or none of a tree of the same structure:

- there are no more applications than the budget allows;
- with a turn for every one of them and for every rule, reduction ends unless the statements of some
  rule go on for ever at a match of it;
- where it ends without failure, the budget is found to be used up exactly if it has been used up and
  the last rule tried has a match in the tree that is left; it is this rule that finds it used up;
- where the second reduction ends, so does the first one, and its events are the first ones of the
  second, as many as the budget allows. If the budget is not found to be used up, then the two agree.
  It is not if the second reduction comes to its end with no more applications, its budget not used
  up. -/
theorem reduce_budget (rules : List Rule) {k : Nat} {budget' : Option Nat}
    (hbudget : ∀ k', budget' = some k' → k ≤ k') {turns : Nat} (hturns : k + rules.length ≤ turns)
    (turns' : Nat) (index : Int) {f f' : Forest} {top top' : NodeId} {t : Tree} (h : f.TreeAt top t)
    (h' : f'.TreeAt top' t) :
    let run := reduce rules (some k) turns index f top
    let run' := reduce rules budget' turns' index f' top'
    let c : Point := (rules, start index f top)
    run.2.applications ≤ k ∧
    (run.1 = some .unfinished →
      ∃ r rest q, Passes (some k) c (r :: rest, q) ∧ r.Hangs q) ∧
    (run.1 = none →
      (run.2.budgetExhausted = true ↔ run.2.applications = k ∧
        ∃ r rest root, StopsIn (some k) c (r :: rest) ∧ run.2.root = some root ∧
          r.pattern.allMatches (run.2.forest.tree root) ≠ []) ∧
      (run.2.budgetExhausted = true → ∃ r rest q, Passes (some k) c (r :: rest, q) ∧
        run.2 = q.exhausted r.name k ∧ StopsIn (some k) c (r :: rest))) ∧
    (run'.1 ≠ some .unfinished → run.1 ≠ some .unfinished ∧
      run.2.events.toList = run'.2.events.toList.take (min k run'.2.events.size) ∧
      (run.2.budgetExhausted = false → run.1 = run'.1 ∧
        run.2.applications = run'.2.applications ∧ run.2.ruleCounts = run'.2.ruleCounts ∧
        run'.2.budgetExhausted = false ∧ (run.1 = none → run.2.tree? = run'.2.tree?)) ∧
      (run'.1 = none → run'.2.budgetExhausted = false → run'.2.applications ≤ k →
        run.2.budgetExhausted = false)) := by
  intro run run' c
  have hle : run.2.applications ≤ k := by
    show (reduce rules (some k) turns index f top).2.applications ≤ k
    rw [snd_reduce]
    exact byRules_of_turn (I := fun q => q.applications ≤ k) turns rules applications_le_turn
      (Nat.zero_le k)
  refine ⟨hle, fun hunfinished => ?_, fun hdone => ?_, fun hended => ?_⟩
  · obtain ⟨r, rest, q, hpasses, hturn⟩ := exists_failing_turn (p := start index f top) hturns
      (fst_reduce_eq_some.mp hunfinished)
    obtain ⟨R, hechoes⟩ := echoes_start h index
    obtain ⟨R₁, q', hq⟩ := exists_echoes_of_passes hechoes hpasses
    exact ⟨r, rest, q, hpasses, hangs_of_turn hq hturn⟩
  · have hpasses : Passes (some k) c ([], run.2) := passes_of_reduce hdone
    refine ⟨Passes.budgetExhausted_iff hpasses rfl hle, fun hflag => ?_⟩
    obtain ⟨r, rest, q, _, _, hbefore, heq, _, hstops, _⟩ :=
      Passes.exists_exhausted hpasses rfl hflag
    exact ⟨r, rest, q, hbefore, heq, hstops⟩
  · obtain ⟨hout, happlications, hcounts, hflag, hevents, htree⟩ :=
      reduce_echo rules (some k) turns index h
    obtain ⟨hout', happlications', hcounts', hflag', hevents', htree'⟩ :=
      reduce_echo rules budget' turns' index h'
    have hcut := byRules_cutShort (p := start index (Forest.ofTree t).2 (Forest.ofTree t).1) hbudget
      (Nat.zero_le k) rfl hturns fun hunfinished =>
        hended (fst_reduce_eq_some.mpr (hout'.trans hunfinished))
    have hsize := size_events_byRules (some k) turns rules
      (start index (Forest.ofTree t).2 (Forest.ofTree t).1) rfl
    refine ⟨fun hunfinished => ?_, ?_, fun hleft => ?_, fun hdone' hleft' hle' => ?_⟩
    · have hend := hout.symm.trans (fst_reduce_eq_some.mp hunfinished)
      cases hcut with
      | same _ heq => exact hended (fst_reduce_eq_some.mpr (hout'.trans (heq ▸ hend)))
      | cut hok _ _ _ _ =>
          rw [hok] at hend
          cases hend
    · rw [hevents, hevents']
      exact hcut.events_eq hsize (happlications ▸ hle)
    · cases hcut with
      | same _ heq =>
          rw [heq] at hout happlications hcounts htree
          have hboth := hout.trans hout'.symm
          have hsame : run.1 = run'.1 := Option.ext fun i =>
            (fst_reduce_eq_some.trans (by rw [hboth])).trans fst_reduce_eq_some.symm
          refine ⟨hsame, happlications.trans happlications'.symm, hcounts.trans hcounts'.symm, ?_,
            fun hdone => (htree hdone).trans (htree' (hsame ▸ hdone)).symm⟩
          rw [hflag', ← heq, ← hflag]
          exact hleft
      | cut _ hflagged _ _ _ => exact absurd (hflag.symm.trans hleft) (by rw [hflagged]; simp)
    · cases hcut with
      | same hleft _ => exact hflag.trans hleft
      | cut _ _ _ _ hmore =>
          have hlt := hmore (hout'.symm.trans (fst_reduce_eq_none.mp hdone')) (hflag' ▸ hleft')
          exact absurd (happlications' ▸ hle') (Nat.not_le_of_lt hlt)

/-- A budget of one is enough for a rule that deletes the only node it matches: it is not found to be
used up. -/
theorem reduce_budget_of_one_deletion :
    let t := Tree.node "S" [.node "NP" [], .node "VP" []]
    let p : CompiledPattern := ⟨"NP=n", .node (some ⟨[.literal "NP"], false⟩) (some "n") none,
      ⟨HeadFinder.firstChild, id⟩⟩
    let rule : Rule := ⟨"cut", p, [.delete ["n"]], none⟩
    let root := Forest.empty.plant t
    let other := root.2.plant t
    ∃ q, reduce [rule] none 2 0 root.2 root.1 = (none, q) ∧ q.applications = 1 ∧
      (reduce [rule] (some 1) 2 0 other.2 other.1).2.budgetExhausted = false := by
  intro t p rule root other
  obtain ⟨q, hreduce, happlications, _, hleft⟩ := exists_reduce_of_one_deletion
  have hroot : root.2.TreeAt root.1 t := Forest.treeAt_plant Forest.empty t
  have hother : other.2.TreeAt other.1 t := Forest.treeAt_plant root.2 t
  obtain ⟨_, _, _, hcut⟩ := @reduce_budget [rule] 1 none nofun 2 (Nat.le_refl 2) 2 0 _ _ _ _ _
    hother hroot
  rw [hreduce] at hcut
  obtain ⟨_, _, _, hunused⟩ := hcut (by simp)
  exact ⟨q, hreduce, happlications, hunused rfl hleft (Nat.le_of_eq happlications)⟩

end Treebank
