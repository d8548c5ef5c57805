import Treebank.Proofs.Surgery.Soundness

/-!
# Sequences of statements

Statements are carried out one after the other, whether those before have failed or not. From a sound
state on, they keep the nodes a forest with the root on top.
-/

namespace Treebank.Surgery

variable {α : Type} {s : State}

/-- The state after statements have been carried out one after the other, a statement that fails
leaving behind what it had done before the failure. -/
def State.run (s : State) (sts : List Statement) : State :=
  sts.foldl (fun s st => (runFrom s st.apply).2) s

theorem State.run_cons (s : State) (st : Statement) (sts : List Statement) :
    s.run (st :: sts) = (runFrom s st.apply).2.run sts := rfl

theorem Meets.sound {x : Surgery α} (h : Meets s x fun _ s' => s'.Sound) :
    (runFrom s x).2.Sound := by
  rw [Meets] at h
  split at h
  · rename_i hrun
    rw [hrun]
    exact h
  · rename_i hrun
    rw [hrun]
    exact h.1

theorem Meets.expected {x : Surgery α} {Q : α → State → Prop} {e : Error} (h : Meets s x Q)
    (he : (runFrom s x).1 = .error e) : e.Expected := by
  rw [Meets] at h
  split at h
  · rename_i hrun
    rw [hrun] at he
    cases he
  · rename_i hrun
    rw [hrun] at he
    cases he
    exact h.2

/-- Before surgery, names stand for nodes of the tree. -/
theorem State.covers_of_lookup_within {f : Forest} {top n : Nat} {b : Bindings} {name : String}
    (hf : f.Linked) (hn : (State.within f top b).names.lookup name = some n) : f.Covers top n := by
  obtain ⟨l₁, l₂, hnames, _⟩ := List.lookup_eq_some_iff.mp hn
  have hin : (name, n) ∈ (State.within f top b).names := hnames ▸ by simp
  obtain ⟨⟨other, site⟩, _, hfollow⟩ := List.mem_filterMap.mp hin
  obtain ⟨m, hm, heq⟩ := Option.map_eq_some_iff.mp hfollow
  cases heq
  exact hf.covers_follow? _ hm

/-- The state of a topmost node before surgery is sound. -/
theorem State.sound_within {f : Forest} {top : Nat} (hf : f.WellFormed) (hlt : top < f.size)
    (htop : f.parent? top = none) (b : Bindings) : (State.within f top b).Sound := by
  refine ⟨hf, ?_, fun name n hn => (covers_of_lookup_within hf.linked hn).lt_size hlt⟩
  rintro r hr
  cases hr
  exact ⟨hlt, htop⟩

/-- The state of a tree before surgery is sound. -/
theorem State.sound_start (t : Tree) (b : Bindings) : (State.start t b).Sound := by
  obtain ⟨_, hadds⟩ := Forest.empty.plant_adds t
  have hmem := List.mem_singleton_self (Forest.empty.plant t).1
  exact sound_within (Forest.wellFormed_ofTree t) (hadds.tops_new _ hmem).2
    (hadds.parent?_top _ hmem) b

theorem State.Sound.run (hs : s.Sound) (sts : List Statement) (hsts : ∀ st ∈ sts, st.Separate) :
    (s.run sts).Sound := by
  induction sts generalizing s with
  | nil => exact hs
  | cons st sts ih =>
      obtain ⟨hst, hsts⟩ := List.forall_mem_cons.mp hsts
      exact ih (st.apply_meets hs hst).sound hsts

/-- A sequence that stops at a failure, or when the tree is gone, leaves behind what the statements
up to there do. -/
theorem State.exists_applyAll_eq_run (s : State) (sts : List Statement) :
    ∃ k, (runFrom s (Statement.applyAll sts)).2 = s.run (sts.take k) := by
  induction sts generalizing s with
  | nil => exact ⟨0, rfl⟩
  | cons st sts ih =>
      have hfirst : s.run ((st :: sts).take 1) = (runFrom s st.apply).2 := rfl
      simp only [Statement.applyAll]
      rw [runFrom_bind]
      split
      · rename_i s' hrun
        rw [hrun] at hfirst
        show ∃ k, (runFrom s' (if s'.root.isNone then pure () else Statement.applyAll sts)).2 = _
        split
        · exact ⟨1, hfirst.symm⟩
        · obtain ⟨k, hk⟩ := ih s'
          refine ⟨k + 1, hk.trans ?_⟩
          rw [List.take_succ_cons, run_cons, hrun]
      · rename_i hrun
        rw [hrun] at hfirst
        exact ⟨1, hfirst.symm⟩

/-- After every number of statements, failed ones among them: a node stands among the children of its
parent once and among those of no other node; the way up from every node ends, and no node is above
itself; and the root, if there still is one, has no parent. -/
theorem State.forest_after_take (hs : s.Sound) (sts : List Statement)
    (hsts : ∀ st ∈ sts, st.Separate) (k : Nat) :
    (∀ p c, ((s.run (sts.take k)).forest.children p).count c =
      if (s.run (sts.take k)).forest.parent? c = some p then 1 else 0) ∧
    (∀ n, (s.run (sts.take k)).forest.Grounded n ∧
      n ∉ (s.run (sts.take k)).forest.ancestors n) ∧
    ∀ r, (s.run (sts.take k)).root = some r → (s.run (sts.take k)).forest.parent? r = none := by
  have hsound := hs.run (sts.take k) fun st hst => hsts st (List.mem_of_mem_take hst)
  refine ⟨hsound.wellFormed.count_children, fun n => ⟨hsound.wellFormed.grounded n, ?_⟩,
    fun r hr => (hsound.root_top r hr).2⟩
  exact hsound.wellFormed.not_mem_ancestorsUpTo n _

/-- A node is deleted, another one put below it by its name, and a third cut out. -/
theorem State.forest_after_deletion :
    let t := Tree.node "S" [.node "NP" [.node "dog" []], .node "VP" [.node "barked" []]]
    let s := State.start t
      [("np", ⟨.node "NP" [.node "dog" []], [(0, t)]⟩),
        ("vp", ⟨.node "VP" [.node "barked" []], [(1, t)]⟩)]
    let literal : Template := ⟨.node "X" [], [("x", [])], none, "(X=x)"⟩
    let sts : List Statement := [.delete ["np"], .insert (.template literal) (.childOf "np" 1),
      .move "np" (.leftOf "vp"), .excise "vp" "vp"]
    (∀ st ∈ sts, st.Separate) ∧ (s.run (sts.take 2)).forest.Grounded 5 ∧
      ((s.run (sts.take 4)).forest.children 0).count 4 =
        if (s.run (sts.take 4)).forest.parent? 4 = some 0 then 1 else 0 := by
  intro t s literal sts
  have hsound : s.Sound := State.sound_start t _
  have hseparate : ∀ st ∈ sts, st.Separate := by
    intro st hst
    simp only [sts, List.mem_cons, List.not_mem_nil, or_false] at hst
    rcases hst with rfl | rfl | rfl | rfl
    · trivial
    · show "np" ∉ ["x"]
      decide
    · trivial
    · trivial
  refine ⟨hseparate, ?_, ?_⟩
  · exact ((State.forest_after_take hsound sts hseparate 2).2.1 5).1
  · exact (State.forest_after_take hsound sts hseparate 4).1 0 4

end Treebank.Surgery
