import Mathlib.Logic.Function.Iterate
import Treebank.Proofs.Forest.Preorder
import Treebank.Proofs.Surgery.Failures
import Treebank.Proofs.Surgery.Run

/-!
# Coindexing attaches fresh numbers

A coindexing attaches a number that is above those at the end of all labels of nodes with children. So
just the nodes of its names end in that number afterwards, and every coindexing that follows attaches a
larger one.
-/

namespace Treebank

variable {f f' f'' : Forest} {n r k : Nat} {nodes : List Nat}

/-! ## Attaching a number -/

/-- The second forest is the first one with the number attached to the labels of the nodes, as often as
each of them is given. -/
structure Forest.Indexed (f f' : Forest) (nodes : List NodeId) (k : Nat) : Prop where
  size_eq : f'.size = f.size
  parent?_eq : ∀ n, f'.parent? n = f.parent? n
  children_eq : ∀ n, f'.children n = f.children n
  label_eq : ∀ n, f'.label n = (fun l => l ++ "-" ++ toString k)^[nodes.count n] (f.label n)

theorem Forest.indexed_nil (f : Forest) (k : Nat) : f.Indexed f [] k where
  size_eq := rfl
  parent?_eq _ := rfl
  children_eq _ := rfl
  label_eq _ := rfl

theorem Forest.Indexed.cons (hn : n < f.size)
    (h : (f.setLabel n (f.label n ++ "-" ++ toString k)).Indexed f' nodes k) :
    f.Indexed f' (n :: nodes) k where
  size_eq := by rw [h.size_eq, size_setLabel]
  parent?_eq m := by rw [h.parent?_eq, parent?_setLabel]
  children_eq m := by rw [h.children_eq, children_setLabel]
  label_eq m := by
    rw [h.label_eq, label_setLabel hn, List.count_cons]
    by_cases hmn : m = n
    · subst hmn
      rw [if_pos rfl, beq_self_eq_true, if_pos rfl, Function.iterate_succ_apply]
    · rw [if_neg hmn, beq_eq_false_iff_ne.mpr (Ne.symm hmn), if_neg Bool.false_ne_true,
        Nat.add_zero]

theorem Forest.Indexed.label_of_not_mem (h : f.Indexed f' nodes k) (hn : n ∉ nodes) :
    f'.label n = f.label n := by
  rw [h.label_eq, List.count_eq_zero.mpr hn]
  rfl

open Surgery in
theorem Forest.Indexed.trailingNumber_of_mem (h : f.Indexed f' nodes k) (hn : n ∈ nodes) :
    trailingNumber (f'.label n) = some k := by
  obtain ⟨c, hc⟩ := Nat.exists_eq_succ_of_ne_zero (Nat.ne_of_gt (List.count_pos_iff.mpr hn))
  rw [h.label_eq, hc, Function.iterate_succ_apply']
  exact trailingNumber_attach _ k

theorem Forest.Indexed.covers_iff {a : NodeId} (h : f.Indexed f' nodes k) :
    f'.Covers a n ↔ f.Covers a n := by
  have hsame : ∀ m, m ∉ ([] : List Nat) → f'.parent? m = f.parent? m := fun m _ => h.parent?_eq m
  exact covers_congr hsame nofun

namespace Surgery

variable {s s' : State} {names : List String}

theorem runFrom_attachIndex (nodes : List NodeId) (k : Nat) (hnodes : ∀ n ∈ nodes, n < s.forest.size) :
    ∃ f, (nodes.forM (attachIndex (toString k))).runFrom s = (.ok (), { s with forest := f }) ∧
      s.forest.Indexed f nodes k := by
  induction nodes generalizing s with
  | nil => exact ⟨s.forest, rfl, s.forest.indexed_nil k⟩
  | cons n nodes ih =>
      obtain ⟨hn, hnodes⟩ := List.forall_mem_cons.mp hnodes
      let next := s.forest.setLabel n (s.forest.label n ++ "-" ++ toString k)
      obtain ⟨f, hrun, hindexed⟩ := ih (s := { s with forest := next }) (by simpa [next] using hnodes)
      exact ⟨f, hrun, hindexed.cons hn⟩

/-! ## One coindexing -/

/-- The labels of the nodes with children in the tree with the top `r`. -/
def State.phraseLabels (s : State) (r : NodeId) : List String :=
  ((s.forest.preorder r).filter (!s.forest.isLeaf ·)).map s.forest.label

theorem State.Sound.mem_phraseLabels (hs : s.Sound) {l : String} : l ∈ s.phraseLabels r ↔
    ∃ n, s.forest.Covers r n ∧ s.forest.children n ≠ [] ∧ s.forest.label n = l := by
  simp only [phraseLabels, List.mem_map, List.mem_filter, hs.wellFormed.mem_preorder, Forest.isLeaf,
    Bool.not_eq_true', List.isEmpty_eq_false_iff, and_assoc]

/-- Some node with children in the tree ends in an index that leaves no number above it. -/
def State.Exhausted (s : State) (r : NodeId) : Prop :=
  ∃ n, s.forest.Covers r n ∧ s.forest.children n ≠ [] ∧ ExhaustsIndices (s.forest.label n)

/-- The number `k` has been attached to the nodes. It was above the numbers at the end of the labels of
all nodes with children, and now just those of the nodes end in it. -/
structure State.Coindexed (s : State) (r : NodeId) (nodes : List NodeId) (k : Nat) (s' : State) :
    Prop where
  root_eq : s'.root = s.root
  names_eq : s'.names = s.names
  indexed : s.forest.Indexed s'.forest nodes k
  label_eq : ∀ n ∉ nodes, s'.forest.label n = s.forest.label n
  lt : ∀ n, s.forest.Covers r n → s.forest.children n ≠ [] →
    ∀ i, trailingNumber (s.forest.label n) = some i → i < k
  iff : ∀ n, s.forest.Covers r n → s.forest.children n ≠ [] →
    (trailingNumber (s'.forest.label n) = some k ↔ n ∈ nodes)

/-- The next index is looked for among the labels of the nodes with children, and then attached. -/
theorem runFrom_coindex (hs : s.Sound) (hr : s.root = some r)
    (hnames : ∀ name ∈ names, ∃ n, s.names.lookup name = some n) :
    (∀ index, (freshIndex (s.phraseLabels r) >>= Text.writeNat) = .ok index →
      (coindex names).runFrom s = ((s.denoted names).forM (attachIndex index)).runFrom s) ∧
    ∀ e, (freshIndex (s.phraseLabels r) >>= Text.writeNat) = .error e →
      (coindex names).runFrom s = (.error (.badIndex e), s) := by
  have hends : ¬s.forest.endlessBelow r = true := by
    rw [hs.wellFormed.not_endlessBelow (hs.root_top r hr).1]
    exact Bool.false_ne_true
  have hlabels : ((s.forest.preorder r).filter (!s.forest.isLeaf ·)).map s.forest.label =
      s.phraseLabels r := rfl
  rw [coindex, runFrom_bind, runFrom_mapM_node hnames]
  simp only []
  rw [runFrom_bind, runFrom_nextIndex hr, if_neg hends, hlabels]
  cases freshIndex (s.phraseLabels r) with
  | error e =>
      refine ⟨fun index hok => ?_, fun e' he => ?_⟩
      · cases hok
      · cases he
        rfl
  | ok k =>
      have hbind : (Except.ok k >>= Text.writeNat) = Text.writeNat k := rfl
      rw [hbind]
      refine ⟨fun index hok => ?_, fun e he => ?_⟩
      · simp only [hok]
      · simp only [he]
        rfl

theorem coindex_cases (hs : s.Sound) (hr : s.root = some r)
    (hnames : ∀ name ∈ names, ∃ n, s.names.lookup name = some n) :
    s.Exhausted r ∧ (∃ e, (coindex names).runFrom s = (.error (.badIndex e), s)) ∨
      ¬s.Exhausted r ∧ ∃ k s', (coindex names).runFrom s = (.ok (), s') ∧
        s.Coindexed r (s.denoted names) k s' := by
  obtain ⟨hok, herror⟩ := runFrom_coindex hs hr hnames
  rcases freshIndex_eq (s.phraseLabels r) with ⟨⟨l, hl, hexhausts⟩, e, he⟩ | ⟨hnone, k, hk, hlt⟩
  · obtain ⟨n, hcov, hchildren, rfl⟩ := hs.mem_phraseLabels.mp hl
    exact Or.inl ⟨⟨n, hcov, hchildren, hexhausts⟩, e, herror e he⟩
  · have hroom : ¬s.Exhausted r := by
      rintro ⟨n, hcov, hchildren, hexhausts⟩
      exact hnone _ (hs.mem_phraseLabels.mpr ⟨n, hcov, hchildren, rfl⟩) hexhausts
    have hknown : ∀ n ∈ s.denoted names, n < s.forest.size := by
      intro n hn
      obtain ⟨name, _, hname⟩ := List.mem_filterMap.mp hn
      exact hs.names_known name n hname
    obtain ⟨f, hrun, hindexed⟩ := runFrom_attachIndex (s.denoted names) k hknown
    have habove : ∀ n, s.forest.Covers r n → s.forest.children n ≠ [] →
        ∀ i, trailingNumber (s.forest.label n) = some i → i < k :=
      fun n hcov hchildren => hlt _ (hs.mem_phraseLabels.mpr ⟨n, hcov, hchildren, rfl⟩)
    refine Or.inr ⟨hroom, k, { s with forest := f }, (hok _ hk).trans hrun, rfl, rfl, hindexed,
      fun n hn => hindexed.label_of_not_mem hn, habove, ?_⟩
    intro n hcov hchildren
    refine ⟨fun hlast => ?_, hindexed.trailingNumber_of_mem⟩
    by_contra hn
    rw [hindexed.label_of_not_mem hn] at hlast
    exact absurd (habove n hcov hchildren k hlast) (Nat.lt_irrefl k)

/-! ## Coindexings one after the other -/

/-- The name stands for a node with children of the tree with the top `r`. -/
def State.Phrasal (s : State) (r : NodeId) (name : String) : Prop :=
  ∃ n, s.names.lookup name = some n ∧ s.forest.Covers r n ∧ s.forest.children n ≠ []

def State.coindexed (s : State) (groups : List (List String)) : State :=
  s.run (groups.map .coindex)

/-- Coindexing the nodes of the names attaches the number `k` to them. -/
def State.Attaches (s : State) (r : NodeId) (names : List String) (k : Nat) : Prop :=
  ∃ s', runFrom s (Statement.coindex names).apply = (.ok (), s') ∧
    s.Coindexed r (s.denoted names) k s'

/-- Some node with children in the tree ends in a number that is `k` or above it. -/
def State.Uses (s : State) (r : NodeId) (k : Nat) : Prop :=
  ∃ n, s.forest.Covers r n ∧ s.forest.children n ≠ [] ∧
    ∃ i, trailingNumber (s.forest.label n) = some i ∧ k ≤ i

/-- After some coindexings the shape and the names are as before, and no number that was used is above
all that are used now. -/
structure State.After (s : State) (r : NodeId) (s' : State) : Prop where
  sound : s'.Sound
  root_eq : s'.root = s.root
  names_eq : s'.names = s.names
  covers_iff : ∀ a n, s'.forest.Covers a n ↔ s.forest.Covers a n
  children_eq : ∀ n, s'.forest.children n = s.forest.children n
  uses : ∀ k, s.Uses r k → s'.Uses r k

theorem State.Sound.after_self (hs : s.Sound) : s.After r s :=
  ⟨hs, rfl, rfl, fun _ _ => Iff.rfl, fun _ => rfl, fun _ h => h⟩

theorem State.After.trans {s'' : State} (h : s.After r s') (h' : s'.After r s'') : s.After r s'' where
  sound := h'.sound
  root_eq := h'.root_eq.trans h.root_eq
  names_eq := h'.names_eq.trans h.names_eq
  covers_iff a n := (h'.covers_iff a n).trans (h.covers_iff a n)
  children_eq n := (h'.children_eq n).trans (h.children_eq n)
  uses k hk := h'.uses k (h.uses k hk)

theorem State.After.phrasal {name : String} (h : s.After r s') (hname : s.Phrasal r name) :
    s'.Phrasal r name := by
  obtain ⟨n, hn, hcov, hchildren⟩ := hname
  exact ⟨n, h.names_eq ▸ hn, (h.covers_iff r n).mpr hcov, h.children_eq n ▸ hchildren⟩

theorem State.Coindexed.uses (h : s.Coindexed r nodes k s') (hn : n ∈ nodes)
    (hcov : s.forest.Covers r n) (hchildren : s.forest.children n ≠ []) : s'.Uses r k :=
  ⟨n, h.indexed.covers_iff.mpr hcov, h.indexed.children_eq n ▸ hchildren, k,
    h.indexed.trailingNumber_of_mem hn, Nat.le_refl k⟩

theorem State.Coindexed.after (h : s.Coindexed r nodes k s') (hs' : s'.Sound) : s.After r s' where
  sound := hs'
  root_eq := h.root_eq
  names_eq := h.names_eq
  covers_iff _ _ := h.indexed.covers_iff
  children_eq := h.indexed.children_eq
  uses := by
    rintro j ⟨n, hcov, hchildren, i, hi, hji⟩
    by_cases hn : n ∈ nodes
    · -- the number may be lost under the new one, which is larger
      obtain ⟨m, hmcov, hmchildren, i', hi', hki⟩ := h.uses hn hcov hchildren
      have hik := h.lt n hcov hchildren i hi
      exact ⟨m, hmcov, hmchildren, i', hi', by omega⟩
    · exact ⟨n, h.indexed.covers_iff.mpr hcov, h.indexed.children_eq n ▸ hchildren, i,
        by rw [h.label_eq n hn, hi], hji⟩

theorem State.Phrasal.lookup {name : String} (h : s.Phrasal r name) :
    ∃ n, s.names.lookup name = some n := h.imp fun _ hn => hn.1

theorem State.Sound.after_coindex (hs : s.Sound) (hr : s.root = some r)
    (hnames : ∀ name ∈ names, s.Phrasal r name) :
    s.After r (runFrom s (Statement.coindex names).apply).2 := by
  have hsound := (Statement.apply_meets (.coindex names) hs trivial).sound
  have happly : (Statement.coindex names).apply = coindex names := rfl
  rw [happly] at hsound ⊢
  rcases coindex_cases hs hr fun name hname => (hnames name hname).lookup with
    ⟨_, e, hrun⟩ | ⟨_, k, s', hrun, hcoindexed⟩
  · rw [hrun]
    exact hs.after_self
  · rw [hrun] at hsound ⊢
    exact hcoindexed.after hsound

theorem State.Sound.after_coindexed {groups : List (List String)} (hs : s.Sound)
    (hr : s.root = some r) (hgroups : ∀ names ∈ groups, ∀ name ∈ names, s.Phrasal r name) :
    s.After r (s.coindexed groups) := by
  induction groups generalizing s with
  | nil => exact hs.after_self
  | cons names groups ih =>
      obtain ⟨hnames, hgroups⟩ := List.forall_mem_cons.mp hgroups
      have hfirst := hs.after_coindex hr hnames
      refine hfirst.trans (ih hfirst.sound (hfirst.root_eq.trans hr) ?_)
      exact fun names hmem name hname => hfirst.phrasal (hgroups names hmem name hname)

theorem State.coindexed_append (s : State) (groups others : List (List String)) :
    s.coindexed (groups ++ others) = (s.coindexed groups).coindexed others := by
  rw [coindexed, List.map_append, run, List.foldl_append]
  rfl

/-- A number attached before is below one that is attached after further coindexings. -/
theorem State.Attaches.lt {between : List (List String)} {names' : List String} {k' : Nat}
    (hs : s.Sound) (hr : s.root = some r) (h : s.Attaches r names k)
    (hnonempty : names ≠ []) (hnames : ∀ name ∈ names, s.Phrasal r name)
    (hbetween : ∀ names ∈ between, ∀ name ∈ names, s.Phrasal r name)
    (h' : (s.coindexed (names :: between)).Attaches r names' k') : k < k' := by
  obtain ⟨s', hrun, hcoindexed⟩ := h
  obtain ⟨s'', hrun', hcoindexed'⟩ := h'
  have hfirst := hs.after_coindex hr hnames
  have hstate : s.coindexed (names :: between) = s'.coindexed between := by
    have hcons : s.coindexed (names :: between) =
        (runFrom s (Statement.coindex names).apply).2.coindexed between := rfl
    rw [hcons, hrun]
  rw [hrun] at hfirst
  have hlater := hfirst.sound.after_coindexed (hfirst.root_eq.trans hr) fun names hmem name hname =>
    hfirst.phrasal (hbetween names hmem name hname)
  obtain ⟨name, hname⟩ := List.exists_mem_of_ne_nil names hnonempty
  obtain ⟨n, hn, hcov, hchildren⟩ := hnames name hname
  have hused : s'.Uses r k :=
    hcoindexed.uses (List.mem_filterMap.mpr ⟨name, hname, hn⟩) hcov hchildren
  rw [hstate] at hcoindexed'
  obtain ⟨m, hmcov, hmchildren, i, hi, hki⟩ := hlater.uses k hused
  exact Nat.lt_of_le_of_lt hki (hcoindexed'.lt m hmcov hmchildren i hi)

/-- Coindexings of nodes with children of a tree, one after the other: each of them attaches a number
above those that the labels of nodes with children end in, so that just its own nodes end in it then; or
the numbers are exhausted, and it is refused and changes nothing. The numbers attached grow strictly. -/
theorem coindex_fresh {groups : List (List String)} (hs : s.Sound) (hr : s.root = some r)
    (hgroups : ∀ names ∈ groups, names ≠ [] ∧ ∀ name ∈ names, s.Phrasal r name) :
    (∀ earlier names later, groups = earlier ++ names :: later →
      ¬(s.coindexed earlier).Exhausted r ∧ (∃ k, (s.coindexed earlier).Attaches r names k) ∨
      (s.coindexed earlier).Exhausted r ∧
        ∃ e, runFrom (s.coindexed earlier) (Statement.coindex names).apply =
          (.error (.badIndex e), s.coindexed earlier)) ∧
    ∀ earlier names between names' later k k',
      groups = earlier ++ names :: between ++ names' :: later →
      (s.coindexed earlier).Attaches r names k →
      (s.coindexed (earlier ++ names :: between)).Attaches r names' k' → k < k' := by
  have hafter : ∀ earlier ⊆ groups, s.After r (s.coindexed earlier) := fun earlier hsub =>
    hs.after_coindexed hr fun names hnames => (hgroups names (hsub hnames)).2
  constructor
  · rintro earlier names later rfl
    have hearlier := hafter earlier (List.subset_append_left ..)
    have hnames := (hgroups names (List.mem_append_right _ List.mem_cons_self)).2
    refine (coindex_cases hearlier.sound (hearlier.root_eq.trans hr) fun name hname =>
      (hearlier.phrasal (hnames name hname)).lookup).symm.imp_left ?_
    rintro ⟨hroom, k, s', hrun, hcoindexed⟩
    exact ⟨hroom, k, s', hrun, hcoindexed⟩
  · rintro earlier names between names' later k k' rfl hattaches hattaches'
    rw [List.append_assoc] at hgroups hafter
    have hearlier := hafter earlier (List.subset_append_left ..)
    obtain ⟨⟨hnonempty, hnames⟩, hbetween⟩ :=
      List.forall_mem_cons.mp (List.forall_mem_append.mp (List.forall_mem_append.mp hgroups).2).1
    rw [State.coindexed_append] at hattaches'
    exact hattaches.lt hearlier.sound (hearlier.root_eq.trans hr) hnonempty
      (fun name hname => hearlier.phrasal (hnames name hname))
      (fun names hmem name hname => hearlier.phrasal ((hbetween names hmem).2 name hname)) hattaches'

/-- A phrase is given twice, and then once more with its sentence. -/
theorem coindex_fresh_twice :
    let phrase := Tree.node "NP-07" [.leaf "dogs"]
    let t := Tree.node "S" [phrase, .node "VP" [.leaf "bark"]]
    let s := State.start t [("np", ⟨phrase, [(0, t)]⟩), ("s", ⟨t, []⟩)]
    ∃ k k', s.Attaches 0 ["np", "np"] k ∧ (s.coindexed [["np", "np"]]).Attaches 0 ["np", "s"] k' ∧
      7 < k ∧ k < k' := by
  intro phrase t s
  have hs : s.Sound := State.sound_start t _
  have hroot : s.root = some 0 := rfl
  have hnp : s.Phrasal 0 "np" := ⟨1, rfl, .under rfl .self, by decide⟩
  have htop : s.Phrasal 0 "s" := ⟨0, rfl, .self, by decide⟩
  have hgroups : ∀ names ∈ [["np", "np"], ["np", "s"]], names ≠ [] ∧
      ∀ name ∈ names, s.Phrasal 0 name := by
    simp [hnp, htop]
  obtain ⟨heach, hgrow⟩ := coindex_fresh hs hroot hgroups
  have hattached : ∀ earlier names later, [["np", "np"], ["np", "s"]] = earlier ++ names :: later →
      (runFrom (s.coindexed earlier) (Statement.coindex names).apply).1 = .ok () →
      ∃ k, (s.coindexed earlier).Attaches 0 names k := by
    intro earlier names later hsplit hok
    rcases heach earlier names later hsplit with ⟨_, hattaches⟩ | ⟨_, e, hrun⟩
    · exact hattaches
    · rw [hrun] at hok
      cases hok
  obtain ⟨k, hk⟩ := hattached [] ["np", "np"] [["np", "s"]] rfl (by decide +kernel)
  obtain ⟨k', hk'⟩ := hattached [["np", "np"]] ["np", "s"] [] rfl (by decide +kernel)
  obtain ⟨s', _, hcoindexed⟩ := id hk
  have hseven := hcoindexed.lt 1 (.under rfl .self) (by decide) 7 (by decide +kernel)
  exact ⟨k, k', hk, hk', hseven, hgrow [] ["np", "np"] [] ["np", "s"] [] k k' rfl hk hk'⟩

end Surgery

end Treebank
