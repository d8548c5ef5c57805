import Treebank.Proofs.Forest.Splice

/-!
# Trees without some of their nodes

When nodes are taken to the top, all that stands below them leaves the tree with them. What stays is what
none of them covers. It keeps its labels and its order, and the same nodes are above one another.
-/

namespace Treebank.Forest

variable {f f' f'' : Forest} {a c n r : Nat} {cs ns : List Nat}

/-! ## What is spared -/

/-- The node is none of the nodes `cs` and not below any of them. -/
def isSpared (f : Forest) (cs : List NodeId) (n : NodeId) : Bool := !cs.any (f.spans · n)

theorem WellFormed.isSpared_iff (h : f.WellFormed) :
    f.isSpared cs n = true ↔ ∀ c ∈ cs, ¬f.Covers c n := by
  rw [isSpared, Bool.not_eq_true', ← Bool.not_eq_true, List.any_eq_true]
  simp only [h.spans_iff, not_exists, not_and]

theorem isSpared_congr (f : Forest) (h : ∀ n, n ∈ cs ↔ n ∈ ns) : f.isSpared cs = f.isSpared ns := by
  funext n
  rw [isSpared, isSpared, Bool.eq_iff_iff]
  simp [h]

theorem WellFormed.isSpared_of_covers (h : f.WellFormed) (hn : f.isSpared cs n = true)
    (hcov : f.Covers a n) : f.isSpared cs a = true := by
  rw [h.isSpared_iff] at hn ⊢
  exact fun c hc hca => hn c hc (hca.trans hcov)

/-- Of the children of a spared node, those are spared that are not among the nodes themselves. -/
theorem WellFormed.isSpared_child (h : f.WellFormed) (hn : f.isSpared cs n = true)
    (hc : c ∈ f.children n) : f.isSpared cs c = true ↔ c ∉ cs := by
  rw [h.isSpared_iff] at hn ⊢
  constructor
  · exact fun hspared hmem => hspared c hmem .self
  · rintro hmem d hd hdc
    have hne : d ≠ c := by
      rintro rfl
      exact hmem hd
    exact hn d hd (hdc.parent hne (h.mem_children.mp hc))

/-! ## Released nodes -/

theorem WellFormed.released_of_top (h : f.WellFormed) (hc : f.parent? c = none) :
    f.Released f [c] where
  moves :=
    { wellFormed := h
      size_eq := rfl
      parent?_eq := by
        intro m
        split
        · rename_i hm
          rw [List.mem_singleton.mp hm, hc]
        · rfl }
  label_eq _ := rfl
  children_eq n := by
    refine (filter_not_mem_eq_self fun d hd hdc => ?_).symm
    rw [h.mem_children, List.mem_singleton.mp hdc, hc] at hd
    cases hd

/-- If the members that a filter leaves out add nothing to a list, then the others make it up. -/
theorem flatMap_filter_eq {α β : Type} {p : α → Bool} {g k : α → List β} {l : List α}
    (hin : ∀ x ∈ l, p x = true → g x = k x) (hout : ∀ x ∈ l, ¬p x = true → k x = []) :
    (l.filter p).flatMap g = l.flatMap k := by
  induction l with
  | nil => rfl
  | cons x l ih =>
      obtain ⟨hx, hin⟩ := List.forall_mem_cons.mp hin
      obtain ⟨hx', hout⟩ := List.forall_mem_cons.mp hout
      rw [List.flatMap_cons, ← ih hin hout]
      by_cases hp : p x = true
      · rw [List.filter_cons_of_pos hp, List.flatMap_cons, hx hp]
      · rw [List.filter_cons_of_neg hp, hx' hp, List.nil_append]

namespace Released

variable (h : f.Released f' cs) (hf : f.WellFormed)
include h hf

theorem children_of_isSpared (hn : f.isSpared cs n = true) :
    f'.children n = (f.children n).filter (f.isSpared cs) := by
  rw [h.children_eq]
  apply List.filter_congr
  intro c hc
  rw [Bool.eq_iff_iff, decide_eq_true_iff, hf.isSpared_child hn hc]

/-- The walk down from a spared node meets what is spared, in the same order as before. -/
theorem preorder_of_isSpared (hn : f.isSpared cs n = true) :
    f'.preorder n = (f.preorder n).filter (f.isSpared cs) := by
  induction n using hf.induction_down with
  | node n ih =>
      rw [hf.preorder_eq, h.moves.wellFormed.preorder_eq, List.filter_cons_of_pos hn,
        List.filter_flatMap, h.children_of_isSpared hf hn]
      -- what hangs from a child that is not spared is not spared either
      refine congrArg (n :: ·) (flatMap_filter_eq ?_ ?_)
      · exact fun c hc hspared => ih c hc hspared
      · intro c hc hout
        rw [List.filter_eq_nil_iff]
        intro m hm hspared
        exact hout (hf.isSpared_of_covers hspared (hf.mem_preorder.mp hm))

theorem covers_iff_of_isSpared (hn : f.isSpared cs n = true) :
    f'.Covers a n ↔ f.Covers a n := h.moves.covers_iff (hf.isSpared_iff.mp hn)

end Released

theorem Released.parent?_eq_some (h : f.Released f' cs) {p : NodeId} :
    f'.parent? n = some p ↔ n ∉ cs ∧ f.parent? n = some p := by
  rw [h.moves.parent?_eq]
  by_cases hn : n ∈ cs <;> simp [hn]

theorem Released.mem_of_top (h : f.Released f' cs) (hcov : f.Covers r n) (hnr : n ≠ r)
    (hn : f'.parent? n = none) : n ∈ cs := by
  by_contra hmem
  obtain ⟨p, hp, _⟩ := hcov.exists_parent (Ne.symm hnr)
  rw [h.parent?_eq_some.mpr ⟨hmem, hp⟩] at hn
  cases hn

theorem Released.isLeaf_iff (h : f.Released f' cs) :
    f'.isLeaf n = true ↔ ∀ c ∈ f.children n, c ∈ cs := by
  simp [isLeaf, h.children_eq]

/-! ## Trees of which a part is kept -/

/-- Of the tree with the top `r`, the second forest keeps under it just the nodes that pass the test. They
have their labels, stand in the same order, and are above one another as before. -/
structure Trimmed (f f' : Forest) (r : NodeId) (kept : NodeId → Bool) : Prop where
  wellFormed : f'.WellFormed
  label_eq : ∀ n, f'.label n = f.label n
  covers_iff : ∀ n, f'.Covers r n ↔ f.Covers r n ∧ kept n = true
  above_iff : ∀ a n, f'.Covers r n → (f'.Covers a n ↔ f.Covers a n)
  children_eq : ∀ n, f'.Covers r n → f'.children n = (f.children n).filter kept
  preorder_eq : f'.preorder r = (f.preorder r).filter kept

theorem Released.trimmed {kept : NodeId → Bool} (h : f.Released f' cs) (hf : f.WellFormed)
    (hr : f.isSpared cs r = true) (hkept : ∀ n, f.Covers r n → kept n = f.isSpared cs n) :
    f.Trimmed f' r kept := by
  have hpreorder : f'.preorder r = (f.preorder r).filter kept := by
    rw [h.preorder_of_isSpared hf hr]
    exact List.filter_congr fun n hn => (hkept n (hf.mem_preorder.mp hn)).symm
  have hcovers : ∀ n, f'.Covers r n ↔ f.Covers r n ∧ kept n = true := by
    intro n
    rw [← h.moves.wellFormed.mem_preorder, hpreorder, List.mem_filter, hf.mem_preorder]
  have hspared : ∀ n, f'.Covers r n → f.isSpared cs n = true := by
    intro n hn
    obtain ⟨hcov, hn⟩ := (hcovers n).mp hn
    rw [← hkept n hcov, hn]
  refine ⟨h.moves.wellFormed, h.label_eq, hcovers, ?_, ?_, hpreorder⟩
  · exact fun a n hn => h.covers_iff_of_isSpared hf (hspared n hn)
  · intro n hn
    rw [h.children_of_isSpared hf (hspared n hn)]
    apply List.filter_congr
    intro c hc
    have hcov := ((hcovers n).mp hn).1
    exact (hkept c (hcov.trans (.under (hf.mem_children.mp hc) .self))).symm

theorem Trimmed.tree_eq {kept kept' : NodeId → Bool} (hf : f.WellFormed) (h : f.Trimmed f' r kept)
    (h' : f.Trimmed f'' r kept') (hsame : ∀ n, f.Covers r n → kept n = kept' n) :
    f'.tree r = f''.tree r := by
  have hbelow : ∀ n, f'.Covers r n → f'.tree n = f''.tree n := by
    intro n
    induction n using h.wellFormed.induction_down with
    | node n ih =>
        intro hn
        obtain ⟨hcov, hkept⟩ := (h.covers_iff n).mp hn
        have hn' : f''.Covers r n := (h'.covers_iff n).mpr ⟨hcov, hsame n hcov ▸ hkept⟩
        have hchildren : f''.children n = f'.children n := by
          rw [h.children_eq n hn, h'.children_eq n hn']
          apply List.filter_congr
          exact fun c hc => (hsame c (hcov.trans (.under (hf.mem_children.mp hc) .self))).symm
        rw [h.wellFormed.tree_eq, h'.wellFormed.tree_eq, h.label_eq, h'.label_eq, hchildren]
        refine congrArg (Tree.node _) (List.map_congr_left fun c hc => ?_)
        exact ih c hc (hn.trans (.under (h.wellFormed.mem_children.mp hc) .self))
  exact hbelow r .self

/-! ## Childless nodes that are spared -/

/-- A childless node that is spared is the node itself or stands below it. -/
def keepsLeaf (f : Forest) (cs : List NodeId) (n : NodeId) : Bool :=
  (f.preorder n).any fun l => f.isLeaf l && f.isSpared cs l

theorem WellFormed.keepsLeaf_iff (h : f.WellFormed) : f.keepsLeaf cs n = true ↔
    ∃ l, f.Covers n l ∧ f.children l = [] ∧ ∀ c ∈ cs, ¬f.Covers c l := by
  simp only [keepsLeaf, List.any_eq_true, Bool.and_eq_true, h.mem_preorder, isLeaf,
    List.isEmpty_iff, h.isSpared_iff]

/-! ## Nodes that are left empty -/

/-- Below `r`, the nodes `cs` were taken out: some of the nodes `ns`, and nodes whose children were all
taken out. What has lost all its children is among them too, unless it is pending. -/
structure Emptied (f : Forest) (r : NodeId) (ns cs : List NodeId) (pending : Option NodeId) :
    Prop where
  not_mem_top : r ∉ cs
  of_mem : ∀ c ∈ cs, c ∈ ns ∨ f.children c ≠ [] ∧ ∀ d ∈ f.children c, d ∈ cs
  exists_left : ∀ n, f.Covers r n → n ≠ r → n ∉ cs → pending ≠ some n → f.children n ≠ [] →
    ∃ d ∈ f.children n, d ∉ cs

theorem emptied_nil (f : Forest) (r : NodeId) (ns : List NodeId) : f.Emptied r ns [] none where
  not_mem_top := List.not_mem_nil
  of_mem := nofun
  exists_left _ _ _ _ _ hn := (List.exists_mem_of_ne_nil _ hn).imp fun _ hd => ⟨hd, List.not_mem_nil⟩

namespace Emptied

variable {pending : Option NodeId} (h : f.Emptied r ns cs pending)
include h

/-- A node that is the top, is taken out or has a child left need not be pending. -/
theorem settle (hn : n = r ∨ n ∈ cs ∨ ∃ d ∈ f.children n, d ∉ cs) (hpending : pending = some n) :
    f.Emptied r ns cs none where
  not_mem_top := h.not_mem_top
  of_mem := h.of_mem
  exists_left m hcov hmr hm _ hchildren := by
    by_cases hmn : m = n
    · subst hmn
      rcases hn with hn | hn | hn
      · exact absurd hn hmr
      · exact absurd hn hm
      · exact hn
    · refine h.exists_left m hcov hmr hm ?_ hchildren
      rw [hpending]
      exact fun heq => hmn (Option.some.inj heq).symm

/-- When a further node is taken out, its parent becomes pending. -/
theorem append (hf : f.WellFormed) {p : NodeId} (hp : f.parent? n = some p) (hnr : n ≠ r)
    (hn : n ∈ ns ∨ f.children n ≠ [] ∧ ∀ d ∈ f.children n, d ∈ cs)
    (hpending : ∀ m, pending = some m → m = n) : f.Emptied r ns (cs ++ [n]) (some p) where
  not_mem_top := by
    rw [List.mem_append, List.mem_singleton, not_or]
    exact ⟨h.not_mem_top, Ne.symm hnr⟩
  of_mem c hc := by
    have hgrow : ∀ c, (c ∈ ns ∨ f.children c ≠ [] ∧ ∀ d ∈ f.children c, d ∈ cs) →
        c ∈ ns ∨ f.children c ≠ [] ∧ ∀ d ∈ f.children c, d ∈ cs ++ [n] :=
      fun c => Or.imp_right fun hall => ⟨hall.1, fun d hd => List.mem_append_left _ (hall.2 d hd)⟩
    rcases List.mem_append.mp hc with hc | hc
    · exact hgrow c (h.of_mem c hc)
    · rw [List.mem_singleton.mp hc]
      exact hgrow n hn
  exists_left m hcov hmr hm hmp hchildren := by
    rw [List.mem_append, List.mem_singleton, not_or] at hm
    have hpending : pending ≠ some m := fun heq => hm.2 (hpending m heq)
    obtain ⟨d, hd, hdcs⟩ := h.exists_left m hcov hmr hm.1 hpending hchildren
    refine ⟨d, hd, ?_⟩
    rw [List.mem_append, List.mem_singleton, not_or]
    refine ⟨hdcs, ?_⟩
    rintro rfl
    exact hmp (hp.symm.trans (hf.mem_children.mp hd))

/-- A childless node below one that was taken out is below one of the nodes `ns`. -/
theorem exists_covers (hf : f.WellFormed) {c l : NodeId} (hc : c ∈ cs) (hcov : f.Covers c l)
    (hl : f.children l = []) : ∃ m ∈ ns, f.Covers m l := by
  induction c using hf.induction_down with
  | node c ih =>
      rcases h.of_mem c hc with hc | ⟨hchildren, hall⟩
      · exact ⟨c, hc, hcov⟩
      · have hne : c ≠ l := by
          rintro rfl
          exact hchildren hl
        obtain ⟨d, hd, hdl⟩ := hcov.exists_child hne
        have hmem := hf.mem_children.mpr hd
        exact ih d hmem (hall d hmem) hdl

end Emptied

theorem Emptied.exists_leaf (h : f.Emptied r ns cs none) (hf : f.WellFormed)
    (hr : f.parent? r = none) (hcov : f.Covers r n) (hnr : n ≠ r) (hn : f.isSpared cs n = true) :
    ∃ l, f.Covers n l ∧ f.children l = [] ∧ f.isSpared cs l = true := by
  induction n using hf.induction_down with
  | node n ih =>
      by_cases hchildren : f.children n = []
      · exact ⟨n, .self, hchildren, hn⟩
      · have hmem : n ∉ cs := fun hmem => hf.isSpared_iff.mp hn n hmem .self
        obtain ⟨d, hd, hdcs⟩ := h.exists_left n hcov hnr hmem nofun hchildren
        have hp := hf.mem_children.mp hd
        have hdr : d ≠ r := by
          rintro rfl
          rw [hr] at hp
          cases hp
        obtain ⟨l, hdl, hl⟩ := ih d hd (hcov.trans (.under hp .self)) hdr
          ((hf.isSpared_child hn hd).mpr hdcs)
        exact ⟨l, .trans (.under hp .self) hdl, hl⟩

/-- When no node is pending and all of `ns` are taken out, just the top is left and what has a childless
node below it that none of `ns` covers. -/
theorem Emptied.isSpared_eq (h : f.Emptied r ns cs none) (hf : f.WellFormed)
    (hr : f.parent? r = none) (hns : ns ⊆ cs) (hcov : f.Covers r n) :
    (n == r || f.keepsLeaf ns n) = f.isSpared cs n := by
  rw [Bool.eq_iff_iff, Bool.or_eq_true, beq_iff_eq, hf.keepsLeaf_iff]
  constructor
  · rintro (rfl | ⟨l, hnl, hl, hspared⟩)
    · rw [hf.isSpared_iff]
      intro c hc hcn
      exact h.not_mem_top (hcn.of_top hr ▸ hc)
    · refine hf.isSpared_of_covers (hf.isSpared_iff.mpr ?_) hnl
      intro c hc hcl
      obtain ⟨m, hm, hml⟩ := h.exists_covers hf hc hcl hl
      exact hspared m hm hml
  · intro hn
    by_cases hnr : n = r
    · exact Or.inl hnr
    · obtain ⟨l, hnl, hl, hspared⟩ := h.exists_leaf hf hr hcov hnr hn
      rw [hf.isSpared_iff] at hspared
      exact Or.inr ⟨l, hnl, hl, fun c hc => hspared c (hns hc)⟩

end Treebank.Forest
