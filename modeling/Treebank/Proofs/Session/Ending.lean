import Treebank.Proofs.Session.Corpus

/-!
# Corpora whose reduction ends

If the reduction of a corpus comes to its end, so does that of every one of its trees by itself. So a
corpus has results if and only if all its trees have, and they are the same whoever works on the
trees.
-/

namespace Treebank

open Forest Session

variable {rules : List Rule} {budget : Option Nat} {index index' turns k n : Nat} {top top' : NodeId}
  {f f' g : Forest} {t : Tree} {ts : List Tree} {stage stage' : Stage} {R : Pairing} {s : Session}
  {results : List TreeResult}

/-- Work that comes to a result comes to one in every forest where the tree has the same structure,
and of the nodes that were there before it changes only those of the tree. -/
theorem Stage.Finishes.transfer {r : Result NodeId}
    (h : Finishes rules budget index top k stage f r g) (hstage : stage.Pairs R index index' stage')
    (hpairs : Forest.Pairs R f f') (htop : R top top') (hsound : stage'.Sound t top' f') :
    (∃ r' g', Finishes rules budget index' top' k stage' f' r' g') ∧ f.size ≤ g.size ∧
      ∀ n < f.size, (∀ m, ¬ R n m) → g.node n = f.node n := by
  induction h generalizing R stage' f' with
  | done =>
      cases hstage
      exact ⟨⟨_, _, .done⟩, Nat.le_refl _, fun _ _ _ => rfl⟩
  | next hnext _ ih =>
      obtain ⟨R₁, stage₁', g₁', hnext', hleads, hstage₁⟩ :=
        hstage.next hpairs htop hsound hnext
      obtain ⟨⟨r', g', hrest⟩, hsize, hkept⟩ :=
        ih hstage₁ hleads.pairs (hleads.le _ _ htop) (hsound.next hnext')
      refine ⟨⟨r', g', .next hnext' hrest⟩, hleads.size_le_left.trans hsize, fun n hn hapart => ?_⟩
      have hapart₁ : ∀ m, ¬ R₁ n m := by
        intro m hm
        rcases hleads.fresh n m hm with hold | ⟨hnew, _⟩
        · exact hapart m hold
        · exact absurd hn (Nat.not_lt_of_le hnew)
      rw [hkept n (Nat.lt_of_lt_of_le hn hleads.size_le_left) hapart₁, hleads.kept_left n hn hapart]

/-- Rules that do not match are passed over. -/
theorem Stage.finishes_of_active {copy : NodeId} {p : Progress} (left : List Rule)
    (hroot : p.root = some top) (hbudget : p.budgetExhausted = false)
    (hends : p.forest.endlessBelow top = false)
    (hmatch : ∀ r ∈ left, r.pattern.firstMatch? (p.forest.tree top) = none) :
    Finishes rules budget index top (left.length + 1) (.active copy p left) p.forest
      (.ofProgress copy p) p.forest := by
  induction left with
  | nil => exact .next rfl .done
  | cons r left ih =>
      obtain ⟨hfirst, hrest⟩ := List.forall_mem_cons.mp hmatch
      have hturn : Reduction.runFrom p (Reduction.turn budget (r :: left)) = (.ok left, p) := by
        rw [Reduction.runFrom_turn_cons, Rule.runFrom_turn_of_no_match hroot hends hfirst,
          Progress.isOver, hroot, hbudget]
        rfl
      exact .next (Stage.next_of_turn hturn) (ih hrest)

theorem Stage.finishes_of_no_match (budget : Option Nat) (index : Nat) (h : f.TreeAt top t)
    (hmatch : ∀ r ∈ rules, r.pattern.firstMatch? t = none) :
    ∃ r g, Finishes rules budget index top (rules.length + 2) .waiting f r g ∧
      r.read g = ⟨index, t, some t, 0, [], false, none⟩ := by
  have hcopy := h.duplicate
  have htop : (f.duplicate top).2.TreeAt top t := h.adds (f.plant_adds _).2
  refine ⟨_, _, .next next_of_waiting (finishes_of_active rules rfl rfl htop.not_endlessBelow ?_), ?_⟩
  · intro r hr
    rw [Progress.start, htop.tree_eq]
    exact hmatch r hr
  · simp only [Result.read, Result.ofProgress, Progress.start, Option.map_some, htop.tree_eq,
      hcopy.tree_eq]

/-- What does not look at the number of a result is the same for numbered results. -/
theorem map_numbered {α : Type} {g : TreeResult → α}
    (h : ∀ (r : TreeResult) (i : Int), g { r with index := i } = g r) (rs : List TreeResult) :
    (numbered rs).map g = rs.map g := by
  refine List.ext_getElem? fun i => ?_
  rw [numbered, List.getElem?_map, List.getElem?_map, List.getElem?_mapIdx]
  cases rs[i]? with
  | none => rfl
  | some r => exact congrArg some (h r i)

namespace Session

/-- The work on a tree among others comes to a result only if it does for the tree by itself, and the
others still stand then. -/
theorem exists_givesAlone_of_finishes {r : Result NodeId} (h : f.TreeAt top t) (hk : k ≤ turns + 2)
    (hfinishes : Stage.Finishes s.rules s.budget index top k .waiting f r g) :
    (∃ r', s.GivesAlone turns t r') ∧
      ∀ other u, f.TreeAt other u → other ≠ top → g.TreeAt other u := by
  have hplant := treeAt_plant Forest.empty t
  obtain ⟨⟨r', g', hfinishes'⟩, hsize, hkept⟩ := hfinishes.transfer .waiting (h.pairs hplant)
    (samePlace_top _ _ _ _) (.waiting hplant)
  refine ⟨⟨_, reduceCorpus_singleton.mpr ⟨k, hk, r', g', rfl, hfinishes'⟩⟩, ?_⟩
  intro other u hother hne
  refine hother.congr hsize fun n hn => hkept n (hother.lt_size_of_reaches hn) ?_
  rintro m ⟨path, hpath, _⟩
  exact hother.disjoint h hne hn ⟨path, hpath⟩

theorem session_of_reduceOne {d d' : Desk} {r : Result NodeId}
    (h : (reduceOne turns index top).run.run d = (.ok r, d')) :
    d'.session = d.session.record r := by
  obtain ⟨k, hk, hfinishes⟩ := finishes_of_reduceOne h
  obtain ⟨notices, events, h'⟩ := reduceOne_of_finishes hk hfinishes
  rw [h] at h'
  exact congrArg Desk.session (Prod.mk.inj h').2

/-- If trees are reduced one after the other, all of them come to a result by themselves. -/
theorem exists_givesAlone_of_reduceEach {tops : List NodeId} {d d' : Desk}
    {rs : List (Result NodeId)} (hstand : List.Forall₂ d.forest.TreeAt tops ts)
    (hnodup : tops.Nodup) (hrules : d.session.rules = s.rules) (hbudget : d.session.budget = s.budget)
    (hrun : (reduceEach turns index tops).run.run d = (.ok rs, d')) :
    ∃ rs, List.Forall₂ (s.GivesAlone turns) ts rs := by
  induction tops generalizing index d d' ts rs with
  | nil =>
      cases hstand
      exact ⟨[], .nil⟩
  | cons top tops ih =>
      obtain ⟨t, others, htop, hrest, rfl⟩ := List.forall₂_cons_left_iff.mp hstand
      obtain ⟨hhead, hnodup⟩ := List.nodup_cons.mp hnodup
      rw [run_reduceEach_cons] at hrun
      rcases hone : (reduceOne turns index top).run.run d with ⟨e | r, d₁⟩
      · rw [hone] at hrun
        cases hrun
      rw [hone] at hrun
      rcases hothers : (reduceEach turns (index + 1) tops).run.run d₁ with ⟨e | rs', d₂⟩
      · simp only [hothers] at hrun
        cases hrun
      obtain ⟨k, hk, hfinishes⟩ := finishes_of_reduceOne hone
      rw [hrules, hbudget] at hfinishes
      obtain ⟨⟨r', halone⟩, hkept⟩ := exists_givesAlone_of_finishes htop hk hfinishes
      have hstill : List.Forall₂ d₁.forest.TreeAt tops others := by
        have hne : ∀ other ∈ tops, other ≠ top := fun other hmem h => hhead (h ▸ hmem)
        exact ((List.forall₂_and_left _ _).mpr ⟨hne, hrest⟩).imp
          fun other u h => hkept other u h.2 h.1
      have hsession := session_of_reduceOne hone
      obtain ⟨rs'', hall⟩ := ih hstill hnodup ((congrArg Session.rules hsession).trans hrules)
        ((congrArg Session.budget hsession).trans hbudget) hothers
      exact ⟨r' :: rs'', .cons halone hall⟩

/-- A corpus has results if and only if each of its trees by itself has one, and then they are these,
numbered. -/
theorem reduceCorpus_eq_ok_iff : (s.reduceCorpus turns ts).1 = .ok results ↔
    ∃ rs, List.Forall₂ (s.GivesAlone turns) ts rs ∧ results = numbered rs := by
  obtain ⟨hstand, hnodup, _⟩ := Forest.treeAt_plantEach Forest.empty ts
  have hresults : ∀ rs, List.Forall₂ (s.GivesAlone turns) ts rs →
      (s.reduceCorpus turns ts).1 = .ok (numbered rs) := by
    intro rs halone
    obtain ⟨left, hstart, hleft⟩ := Pool.isolated_start hstand hnodup halone
    obtain ⟨results, d, hrun, hread, _⟩ := hstart.reduceEach_start hleft #[] #[]
    simp only [reduceCorpus, hrun]
    exact congrArg Except.ok hread
  constructor
  · intro h
    rcases hrun : (reduceEach turns 0 (Forest.empty.plantEach ts).1).run.run
      ⟨s, (Forest.empty.plantEach ts).2, #[], #[]⟩ with ⟨e | rs', d⟩
    · simp only [reduceCorpus, hrun] at h
      cases h
    · obtain ⟨rs, halone⟩ := exists_givesAlone_of_reduceEach hstand hnodup rfl rfl hrun
      rw [hresults rs halone] at h
      exact ⟨rs, halone, (Except.ok.inj h).symm⟩
  · rintro ⟨rs, halone, rfl⟩
    exact hresults rs halone

theorem reduceCorpus_mono {more : Nat} (h : (s.reduceCorpus turns ts).1 = .ok results)
    (hle : turns ≤ more) : (s.reduceCorpus more ts).1 = .ok results := by
  obtain ⟨rs, halone, rfl⟩ := reduceCorpus_eq_ok_iff.mp h
  exact reduceCorpus_eq_ok_iff.mpr ⟨rs, halone.imp fun _ _ h => h.mono hle, rfl⟩

theorem GivesAlone.unique {more : Nat} {r r' : TreeResult} (h : s.GivesAlone turns t r)
    (h' : s.GivesAlone more t r') : r = r' := by
  have hr := h.mono (Nat.le_max_left turns more)
  have hr' := h'.mono (Nat.le_max_right turns more)
  exact List.singleton_inj.mp (Except.ok.inj (hr.symm.trans hr'))

/-- A tree that no rule matches is left as it is. -/
theorem givesAlone_of_no_match (h : ∀ r ∈ s.rules, r.pattern.firstMatch? t = none) :
    s.GivesAlone s.rules.length t ⟨0, t, some t, 0, [], false, none⟩ := by
  obtain ⟨r, g, hfinishes, hread⟩ := Stage.finishes_of_no_match s.budget 0
    (treeAt_plant Forest.empty t) h
  exact reduceCorpus_singleton.mpr ⟨_, Nat.le_refl _, r, g, by rw [hread]; rfl, hfinishes⟩

end Session

/-- Workers who share out the trees of a corpus that has results come to the end, and to the same
results. -/
theorem Pool.results_of_reduceCorpus {workers : Nat} {w : Pool}
    (h : (s.reduceCorpus turns ts).1 = .ok results)
    (hsteps : Steps workers n
      (.start s (Forest.empty.plantEach ts).2 (Forest.empty.plantEach ts).1) w) :
    n ≤ ts.length * (turns + 2) ∧ (0 < workers → ¬ w.IsFinished → ∃ w', Step workers w w') ∧
      (w.IsFinished → w.results.map (·.read w.forest) = results) := by
  obtain ⟨rs, halone, rfl⟩ := reduceCorpus_eq_ok_iff.mp h
  obtain ⟨hstand, hnodup, _⟩ := Forest.treeAt_plantEach Forest.empty ts
  obtain ⟨left, hstart, hleft⟩ := isolated_start hstand hnodup halone
  obtain ⟨own', left', hw, _⟩ := hstart.steps hsteps
  refine ⟨?_, hw.exists_step, hw.map_read_results⟩
  rw [halone.length_eq]
  exact hstart.steps_le hleft hsteps

end Treebank
