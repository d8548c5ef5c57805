import Treebank.Proofs.Forest.Removal
import Treebank.Proofs.Surgery.Run

/-!
# What deleting and pruning leave of a tree

Nodes are taken out one after the other. Some are cut off already when their turn comes, and pruning
goes on upwards from every node that it takes out. What is left in the end can be told from the tree and
the set of the nodes alone.
-/

namespace Treebank.Surgery

open Forest (Emptied Released Trimmed isSpared keepsLeaf)

variable {s : State} {f : Forest} {n p r : Nat} {cs ns : List Nat} {names other : List String}

theorem runFrom_remove_root (hn : s.root = some n) :
    (remove n).runFrom s = (.ok none, { s with root := none }) := by
  rw [runFrom_remove, if_pos (by simp [hn])]

/-- What stands at the top already stays there. -/
theorem runFrom_remove_top (hn : s.root ≠ some n) (hp : s.forest.parent? n = none) :
    (remove n).runFrom s = (.ok none, s) := by
  rw [runFrom_remove, if_neg (by simp [hn]), hp]

theorem runFrom_remove_child (hs : s.Sound) (hp : s.forest.parent? n = some p) :
    (remove n).runFrom s = (.ok (some p), { s with forest := s.forest.unlink p n }) := by
  obtain ⟨_, _, hrun, _, rfl⟩ := Forest.achieves_removeChild hs.wellFormed hp
  rw [runFrom_remove, if_neg (by simp [hs.ne_root hp]), hp]
  simp only [hrun]

theorem exists_runFrom_remove (hs : s.Sound) (hn : s.root ≠ some n) :
    ∃ f, s.forest.Released f [n] ∧
      (remove n).runFrom s = (.ok (s.forest.parent? n), { s with forest := f }) := by
  cases hp : s.forest.parent? n with
  | none => exact ⟨s.forest, hs.wellFormed.released_of_top hp, runFrom_remove_top hn hp⟩
  | some p => exact ⟨_, hs.wellFormed.released_unlink hp, runFrom_remove_child hs hp⟩

theorem State.Sound.released (hs : s.Sound) (h : s.forest.Released f cs) :
    { s with forest := f : State }.Sound := hs.moves h.moves fun _ _ _ => rfl

/-- The tree with the top `r` is gone if that is among the nodes `ns`. If not, the state is as told. -/
structure Pared (r : NodeId) (ns : List NodeId) (Q : State → Prop) (s' : State) : Prop where
  gone : r ∈ ns → s'.root = none
  left : r ∉ ns → Q s'

/-- Of the names, the first one stands for a node other than the root. -/
theorem Pared.cons {Q Q' : State → Prop} {s' : State} (h : Pared r ns Q s') (hnr : n ≠ r)
    (hQ : Q s' → Q' s') : Pared r (n :: ns) Q' s' where
  gone hr := h.gone ((List.mem_cons.mp hr).resolve_left (Ne.symm hnr))
  left hr := hQ (h.left fun hmem => hr (List.mem_cons_of_mem _ hmem))

/-! ## Deleting -/

theorem succeeds_deleteAll (hs : s.Sound) (hr : s.root = some r)
    (hnames : ∀ name ∈ names, ∃ n, s.names.lookup name = some n) :
    Succeeds s (deleteAll names) (Pared r (s.denoted names) fun s' =>
      ∃ f, s' = { s with forest := f } ∧ s.forest.Released f (s.denoted names)) := by
  induction names generalizing s with
  | nil =>
      exact ⟨s, rfl, fun hr => absurd hr List.not_mem_nil,
        fun _ => ⟨s.forest, rfl, hs.wellFormed.released_nil⟩⟩
  | cons name names ih =>
      obtain ⟨⟨n, hn⟩, hnames⟩ := List.forall_mem_cons.mp hnames
      rw [Succeeds, State.denoted_cons hn, deleteAll, runFrom_bind, runFrom_node, hn]
      simp only []
      rw [runFrom_bind]
      by_cases hnr : n = r
      · subst hnr
        rw [runFrom_remove_root hr]
        exact ⟨_, rfl, fun _ => rfl, fun hnot => absurd List.mem_cons_self hnot⟩
      · have hne : s.root ≠ some n := by simpa [hr] using Ne.symm hnr
        obtain ⟨f, hreleased, hrun⟩ := exists_runFrom_remove hs hne
        rw [hrun]
        simp only []
        rw [runFrom_root_bind, if_neg (by simp [hr])]
        obtain ⟨s', hrun', hrest⟩ := ih (hs.released hreleased) hr hnames
        refine ⟨s', hrun', hrest.cons hnr ?_⟩
        rintro ⟨f', rfl, hreleased'⟩
        exact ⟨f', rfl, hreleased.append hreleased'⟩

/-! ## Pruning -/

/-- Going on upwards from a pending node, the cascade comes to its end. -/
theorem succeeds_removeEmptied {fuel : Nat} (hs : s.Sound) (hr : s.root = some r)
    (hreleased : s.forest.Released f cs) (hemptied : s.forest.Emptied r ns cs (some p))
    (hcov : s.forest.Covers r p) (hchildren : s.forest.children p ≠ [])
    (hfuel : (s.forest.ancestors p).length < fuel) :
    Succeeds { s with forest := f } (removeEmptied fuel p) fun s' => ∃ f' cs',
      s' = { s with forest := f' } ∧ s.forest.Released f' cs' ∧ cs ⊆ cs' ∧
        s.forest.Emptied r ns cs' none := by
  induction fuel generalizing f cs p with
  | zero => exact absurd hfuel (Nat.not_lt_zero _)
  | succ fuel ih =>
      rw [Succeeds, removeEmptied, runFrom_root_bind, runFrom_forest_bind]
      have hsettled : (p = r ∨ p ∈ cs ∨ ∃ d ∈ s.forest.children p, d ∉ cs) →
          ∃ f' cs', ({ s with forest := f } : State) = { s with forest := f' } ∧
            s.forest.Released f' cs' ∧ cs ⊆ cs' ∧ s.forest.Emptied r ns cs' none :=
        fun hp => ⟨f, cs, rfl, hreleased, fun _ h => h, hemptied.settle hp rfl⟩
      by_cases hpr : p = r
      · rw [if_pos (by simp [hr, hpr])]
        exact ⟨_, rfl, hsettled (Or.inl hpr)⟩
      have hne : s.root ≠ some p := by simpa [hr] using Ne.symm hpr
      by_cases hleaf : f.isLeaf p = true
      · rw [if_neg (by simp [hne, hleaf])]
        have hfs := hs.released hreleased
        rw [runFrom_bind]
        cases hq : f.parent? p with
        | none =>
            -- the cascade has come to the top of what is cut off already
            rw [runFrom_remove_top (s := { s with forest := f }) hne hq]
            have hmem := hreleased.mem_of_top hcov hpr hq
            exact ⟨_, rfl, hsettled (Or.inr (Or.inl hmem))⟩
        | some q =>
            rw [runFrom_remove_child hfs hq]
            have hunlinked := hreleased.append (hfs.wellFormed.released_unlink hq)
            rw [hreleased.parent?_eq_some] at hq
            obtain ⟨_, hq⟩ := hq
            have hemptied' := hemptied.append hs.wellFormed hq hpr
              (Or.inr ⟨hchildren, hreleased.isLeaf_iff.mp hleaf⟩) fun _ h => (Option.some.inj h).symm
            have hq' := List.ne_nil_of_mem (hs.wellFormed.mem_children.mpr hq)
            rw [hs.wellFormed.linked.ancestors_child (hs.wellFormed.grounded p) hq] at hfuel
            obtain ⟨s', hrun, f', cs', rfl, hreleased', hsub, hemptied''⟩ := ih hunlinked hemptied'
              (hcov.parent (Ne.symm hpr) hq) hq' (Nat.lt_of_succ_lt_succ hfuel)
            exact ⟨_, hrun, f', cs', rfl, hreleased', fun c hc => hsub (List.mem_append_left _ hc),
              hemptied''⟩
      · rw [if_pos (by simp [hleaf])]
        refine ⟨_, rfl, hsettled (Or.inr (Or.inr ?_))⟩
        simpa [hreleased.isLeaf_iff] using hleaf

/-- The nodes of the names are taken out, and with them just those that are left empty. -/
theorem succeeds_pruneAll (hs : s.Sound) (hr : s.root = some r) (hreleased : s.forest.Released f cs)
    (hemptied : s.forest.Emptied r ns cs none)
    (hnames : ∀ name ∈ names, ∃ n, s.names.lookup name = some n ∧ s.forest.Covers r n ∧ n ∈ ns) :
    Succeeds { s with forest := f } (pruneAll names) (Pared r (s.denoted names) fun s' =>
      ∃ f' cs', s' = { s with forest := f' } ∧ s.forest.Released f' cs' ∧
        cs ⊆ cs' ∧ s.denoted names ⊆ cs' ∧ s.forest.Emptied r ns cs' none) := by
  -- the names are those of the first forest throughout; only what is taken out grows
  induction names generalizing f cs with
  | nil =>
      exact ⟨_, rfl, fun hr => absurd hr List.not_mem_nil,
        fun _ => ⟨f, cs, rfl, hreleased, fun _ h => h, List.nil_subset cs, hemptied⟩⟩
  | cons name names ih =>
      obtain ⟨⟨n, hn, hcov, hns⟩, hnames⟩ := List.forall_mem_cons.mp hnames
      rw [Succeeds, State.denoted_cons hn, pruneAll, runFrom_bind, runFrom_node, hn]
      simp only []
      rw [runFrom_bind]
      by_cases hnr : n = r
      · subst hnr
        rw [runFrom_remove_root (s := { s with forest := f }) hr]
        exact ⟨_, rfl, fun _ => rfl, fun hnot => absurd List.mem_cons_self hnot⟩
      have hne : s.root ≠ some n := by simpa [hr] using Ne.symm hnr
      have hfs := hs.released hreleased
      cases hp : f.parent? n with
      | none =>
          -- an earlier name or its cascade has taken the node out already
          have hmem := hreleased.mem_of_top hcov hnr hp
          rw [runFrom_remove_top (s := { s with forest := f }) hne hp]
          simp only []
          rw [runFrom_root_bind, if_neg (by simp [hr])]
          obtain ⟨s', hrun, hrest⟩ := ih hreleased hemptied hnames
          refine ⟨s', hrun, hrest.cons hnr ?_⟩
          rintro ⟨f', cs', rfl, hreleased', hsub, hnamed, hemptied'⟩
          exact ⟨f', cs', rfl, hreleased', hsub, List.cons_subset.mpr ⟨hsub hmem, hnamed⟩, hemptied'⟩
      | some p =>
          rw [runFrom_remove_child hfs hp]
          have hunlinked := hreleased.append (hfs.wellFormed.released_unlink hp)
          rw [hreleased.parent?_eq_some] at hp
          obtain ⟨_, hp⟩ := hp
          have hpending := hemptied.append hs.wellFormed hp hnr (Or.inl hns) fun _ h => by cases h
          simp only []
          rw [runFrom_root_bind, if_neg (by simp [hr]), runFrom_forest_bind, runFrom_bind]
          have hfuel : (s.forest.ancestors p).length < (f.unlink p n).size := by
            rw [hunlinked.moves.size_eq]
            exact hs.wellFormed.length_ancestors_lt (hs.wellFormed.parent_lt_size hp)
          obtain ⟨_, hrun, f', cs', rfl, hreleased', hsub, hemptied'⟩ := succeeds_removeEmptied hs hr
            hunlinked hpending (hcov.parent (Ne.symm hnr) hp)
            (List.ne_nil_of_mem (hs.wellFormed.mem_children.mpr hp)) hfuel
          rw [hrun]
          obtain ⟨s', hrun', hrest⟩ := ih hreleased' hemptied' hnames
          refine ⟨s', hrun', hrest.cons hnr ?_⟩
          rintro ⟨f'', cs'', rfl, hreleased'', hsub', hnamed, hemptied''⟩
          have hmem := hsub' (hsub (List.mem_append_right cs (List.mem_singleton_self n)))
          refine ⟨f'', cs'', rfl, hreleased'', ?_, List.cons_subset.mpr ⟨hmem, hnamed⟩, hemptied''⟩
          exact fun c hc => hsub' (hsub (List.mem_append_left _ hc))

/-! ## What is left -/

/-- Of the tree with the top `r`, just the nodes that pass the test are left. -/
structure State.LeavesJust (s : State) (r : NodeId) (kept : NodeId → Bool) (s' : State) : Prop where
  root_eq : s'.root = some r
  names_eq : s'.names = s.names
  trimmed : s.forest.Trimmed s'.forest r kept

/-- What pruning keeps: the top `r`, and what has a childless node that is spared below it or is one. -/
def keepsUnder (f : Forest) (r : NodeId) (ns : List NodeId) (n : NodeId) : Bool :=
  n == r || f.keepsLeaf ns n

def State.walk? (s : State) : Option (List NodeId) := s.root.map s.forest.preorder

theorem Pared.mono {Q Q' : State → Prop} {s' : State} (h : Pared r ns Q s')
    (hQ : r ∉ ns → Q s' → Q' s') : Pared r ns Q' s' :=
  ⟨h.gone, fun hr => hQ hr (h.left hr)⟩

section
variable (hs : s.Sound) (hr : s.root = some r)
  (hnames : ∀ name ∈ names, ∃ n, s.names.lookup name = some n ∧ s.forest.Covers r n)
include hs hr hnames

theorem succeeds_delete : Succeeds s (deleteAll names)
    (Pared r (s.denoted names) (s.LeavesJust r (s.forest.isSpared (s.denoted names)))) := by
  have hknown : ∀ name ∈ names, ∃ n, s.names.lookup name = some n :=
    fun name hname => (hnames name hname).imp fun _ hn => hn.1
  refine (succeeds_deleteAll hs hr hknown).mono fun s' hpared => hpared.mono ?_
  rintro hmem ⟨f, rfl, hreleased⟩
  have htop : s.forest.isSpared (s.denoted names) r = true := by
    rw [hs.wellFormed.isSpared_iff]
    exact fun c hc hcov => hmem (hcov.of_top (hs.root_top r hr).2 ▸ hc)
  exact ⟨hr, rfl, hreleased.trimmed hs.wellFormed htop fun _ _ => rfl⟩

theorem succeeds_prune : Succeeds s (pruneAll names)
    (Pared r (s.denoted names) (s.LeavesJust r (keepsUnder s.forest r (s.denoted names)))) := by
  have hdenoted : ∀ name ∈ names, ∃ n, s.names.lookup name = some n ∧ s.forest.Covers r n ∧
      n ∈ s.denoted names := fun name hname => (hnames name hname).imp fun n hn =>
    ⟨hn.1, hn.2, List.mem_filterMap.mpr ⟨name, hname, hn.1⟩⟩
  have htop := (hs.root_top r hr).2
  refine (succeeds_pruneAll hs hr hs.wellFormed.released_nil (Forest.emptied_nil s.forest r _)
    hdenoted).mono fun s' hpared => hpared.mono ?_
  rintro - ⟨f, cs, rfl, hreleased, -, hsub, hemptied⟩
  have hspared : s.forest.isSpared cs r = true := by
    rw [← hemptied.isSpared_eq hs.wellFormed htop hsub .self, beq_self_eq_true, Bool.true_or]
  exact ⟨hr, rfl, hreleased.trimmed hs.wellFormed hspared fun n hn =>
    hemptied.isSpared_eq hs.wellFormed htop hsub hn⟩

end

theorem Pared.same {kept kept' : NodeId → Bool} {s₁ s₂ : State} {ms : List NodeId} (hs : s.Sound)
    (h : Pared r ns (s.LeavesJust r kept) s₁) (h' : Pared r ms (s.LeavesJust r kept') s₂)
    (hmem : ∀ n, n ∈ ns ↔ n ∈ ms) (hkept : kept = kept') :
    s₁.tree? = s₂.tree? ∧ s₁.walk? = s₂.walk? := by
  subst hkept
  by_cases hr : r ∈ ns
  · rw [State.tree?, State.tree?, State.walk?, State.walk?, h.gone hr, h'.gone ((hmem r).mp hr)]
    exact ⟨rfl, rfl⟩
  · have hleft := h.left hr
    have hleft' := h'.left fun hr' => hr ((hmem r).mpr hr')
    rw [State.tree?, State.tree?, State.walk?, State.walk?, hleft.root_eq, hleft'.root_eq]
    constructor
    · exact congrArg some (hleft.trimmed.tree_eq hs.wellFormed hleft'.trimmed fun _ _ => rfl)
    · exact congrArg some (hleft.trimmed.preorder_eq.trans hleft'.trimmed.preorder_eq.symm)

/-- Deleting and pruning nodes of a tree come to their end, and no tree is left if its top is among the
nodes. If not, deleting leaves just what is none of the nodes and not below any; pruning leaves just the
top and what has such a node without children below it or is one. For any other names of the same nodes,
in any order and however often, what is left is the same. -/
theorem delete_prune_leave (hs : s.Sound) (hr : s.root = some r)
    (hnames : ∀ name ∈ names, ∃ n, s.names.lookup name = some n ∧ s.forest.Covers r n) :
    Succeeds s (Statement.delete names).apply
      (Pared r (s.denoted names) (s.LeavesJust r (s.forest.isSpared (s.denoted names)))) ∧
    Succeeds s (Statement.prune names).apply
      (Pared r (s.denoted names) (s.LeavesJust r (keepsUnder s.forest r (s.denoted names)))) ∧
    ∀ other : List String,
      (∀ name ∈ other, ∃ n, s.names.lookup name = some n ∧ s.forest.Covers r n) →
      (∀ n, n ∈ s.denoted names ↔ n ∈ s.denoted other) →
      Succeeds s (Statement.delete other).apply (fun s₂ => ∃ s₁,
        runFrom s (Statement.delete names).apply = (.ok (), s₁) ∧
          s₁.tree? = s₂.tree? ∧ s₁.walk? = s₂.walk?) ∧
      Succeeds s (Statement.prune other).apply (fun s₂ => ∃ s₁,
        runFrom s (Statement.prune names).apply = (.ok (), s₁) ∧
          s₁.tree? = s₂.tree? ∧ s₁.walk? = s₂.walk?) := by
  have hdelete := succeeds_delete hs hr hnames
  have hprune := succeeds_prune hs hr hnames
  refine ⟨hdelete, hprune, ?_⟩
  intro other hother hsame
  have hspared := s.forest.isSpared_congr hsame
  obtain ⟨s₁, hrun, hpared⟩ := hdelete
  obtain ⟨s₂, hrun', hpared'⟩ := hprune
  constructor
  · refine (succeeds_delete hs hr hother).mono fun s' h => ⟨s₁, hrun, ?_⟩
    exact hpared.same hs h hsame hspared
  · refine (succeeds_prune hs hr hother).mono fun s' h => ⟨s₂, hrun', hpared'.same hs h hsame ?_⟩
    funext n
    rw [keepsUnder, keepsUnder, Forest.keepsLeaf, Forest.keepsLeaf, hspared]

/-- With its determiner and its word pruned a phrase is left empty and goes too, whichever is named
first. -/
theorem prune_keeps_verb :
    let phrase := Tree.node "NP" [.leaf "the", .node "NN" [.leaf "dog"]]
    let t := Tree.node "S" [phrase, .node "VP" [.leaf "barked"]]
    let s := State.start t [("the", ⟨.leaf "the", [(0, phrase), (0, t)]⟩),
      ("nn", ⟨.node "NN" [.leaf "dog"], [(1, phrase), (0, t)]⟩),
      ("dog", ⟨.leaf "dog", [(0, .node "NN" [.leaf "dog"]), (1, phrase), (0, t)]⟩)]
    ∃ s₁ s₂, runFrom s (Statement.prune ["dog", "the", "nn"]).apply = (.ok (), s₁) ∧
      runFrom s (Statement.prune ["nn", "dog", "dog", "the"]).apply = (.ok (), s₂) ∧
      s₁.root = some 0 ∧ s₁.forest.preorder 0 = [0, 5, 6] ∧ s₂.tree? = s₁.tree? := by
  intro phrase t s
  have hs : s.Sound := State.sound_start t _
  have hroot : s.root = some 0 := rfl
  have hnp : s.forest.parent? 1 = some 0 := rfl
  have hthe : s.forest.parent? 2 = some 1 := rfl
  have hnn : s.forest.parent? 3 = some 1 := rfl
  have hdog : s.forest.parent? 4 = some 3 := rfl
  have hknown : ∀ name ∈ ["nn", "dog", "dog", "the"],
      ∃ n, s.names.lookup name = some n ∧ s.forest.Covers 0 n := by
    simp only [List.forall_mem_cons]
    refine ⟨⟨3, rfl, .under hnn (.under hnp .self)⟩,
      ⟨4, rfl, .under hdog (.under hnn (.under hnp .self))⟩,
      ⟨4, rfl, .under hdog (.under hnn (.under hnp .self))⟩,
      ⟨2, rfl, .under hthe (.under hnp .self)⟩, List.forall_mem_nil _⟩
  have hfirst : ∀ name ∈ ["dog", "the", "nn"],
      ∃ n, s.names.lookup name = some n ∧ s.forest.Covers 0 n :=
    fun name hname => hknown name (by simp at hname ⊢; tauto)
  have hdenoted : s.denoted ["dog", "the", "nn"] = [4, 2, 3] := rfl
  have hsame : ∀ n, n ∈ s.denoted ["dog", "the", "nn"] ↔
      n ∈ s.denoted ["nn", "dog", "dog", "the"] := by
    have hdenoted' : s.denoted ["nn", "dog", "dog", "the"] = [3, 4, 4, 2] := rfl
    intro n
    rw [hdenoted, hdenoted']
    simp only [List.mem_cons, List.not_mem_nil, or_false]
    tauto
  obtain ⟨_, ⟨s₁, hrun, hpared⟩, hany⟩ := delete_prune_leave hs hroot hfirst
  obtain ⟨_, s₂, hrun', s₁', hagain, htree, _⟩ := hany _ hknown hsame
  obtain rfl : s₁ = s₁' := by
    rw [hrun] at hagain
    exact congrArg Prod.snd hagain
  have hleft := hpared.left (by rw [hdenoted]; decide)
  refine ⟨s₁, s₂, hrun, hrun', hleft.root_eq, ?_, htree.symm⟩
  rw [hleft.trimmed.preorder_eq]
  rfl

end Treebank.Surgery
