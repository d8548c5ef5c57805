import Treebank.Proofs.Forest.Linked

/-!
# New nodes over others

A node is made over topmost nodes, which come under it one after the other, and a copy of a tree is made
in this way from its leaves upwards. Both keep a forest linked and well formed, and a node that is made
stays with those that it has got when one of them is refused.
-/

namespace Treebank.Forest

variable {f f' f'' : Forest} {c n m p : Nat} {cs ids ids' : List Nat} {label : String}

/-! ## A new node -/

/-- A field that a new node has in common with one that is not there yet is everywhere as it was. -/
theorem field_alloc {α : Type} (field : Node → α) (label : String)
    (hfield : field ⟨label, none, []⟩ = field default) (f : Forest) (m : Nat) :
    field ((f.alloc label none).2.node m) = field (f.node m) := by
  rw [node_alloc]
  split
  · rename_i hm
    rw [hm, node_eq_default (Nat.le_refl _), hfield]
  · rfl

theorem parent?_alloc (f : Forest) (label : String) (m : Nat) :
    (f.alloc label none).2.parent? m = f.parent? m := field_alloc Node.parent label rfl f m

theorem children_alloc (f : Forest) (label : String) (m : Nat) :
    (f.alloc label none).2.children m = f.children m := field_alloc Node.children label rfl f m

theorem Linked.alloc (h : f.Linked) (label : String) : (f.alloc label none).2.Linked :=
  h.congr (parent?_alloc f label) (children_alloc f label)

theorem WellFormed.alloc (h : f.WellFormed) (label : String) :
    (f.alloc label none).2.WellFormed :=
  h.congr (parent?_alloc f label) (children_alloc f label)

/-- What lasts when a topmost node is put under one that it does not cover. -/
def LastsLinking (P : Forest → Prop) : Prop :=
  ∀ {g : Forest} {p c i : Nat}, P g → c < g.size → p < g.size → g.parent? c = none →
    ¬g.Covers c p → i ≤ (g.children p).length → P (g.link p c i)

theorem linked_lastsLinking : LastsLinking Linked :=
  fun h hc hp htop _ hi => h.link hc hp htop hi

theorem wellFormed_lastsLinking : LastsLinking WellFormed :=
  fun h hc hp htop hcov hi => h.link hc hp htop hcov hi

/-- The nodes come under a topmost one that is none of them, until one is refused. -/
theorem concludes_addEach {P : Forest → Prop} (hP : LastsLinking P) (h : P f) (hn : n < f.size)
    (htop : f.parent? n = none) (hcs : ∀ c ∈ cs, c < f.size ∧ c ≠ n) :
    Concludes f (forIn (m := Edit) cs PUnit.unit fun c _ => do
      addChild n c none
      pure (.yield PUnit.unit)) (fun _ g => P g) fun _ g => P g := by
  induction cs generalizing f with
  | nil => exact concludes_pure h
  | cons c cs ih =>
      obtain ⟨⟨hc, hne⟩, hcs⟩ := List.forall_mem_cons.mp hcs
      rw [List.forIn_cons, bind_assoc]
      refine ((concludes_addChild f n c none).imp_error ?_).bind ?_
      · rintro _ _ rfl
        exact h
      · rintro _ _ ⟨hctop, i, hi, rfl⟩
        have hcov : ¬f.Covers c n := fun hcov => hne (hcov.of_top htop)
        refine ih (hP h hc hn hctop hcov hi) (by simpa using hn) ?_ (by simpa using hcs)
        rw [parent?_link hc, if_neg (Ne.symm hne), htop]

theorem concludes_newNode {P : Forest → Prop} (hP : LastsLinking P)
    (h : P (f.alloc label none).2) (hcs : ∀ c ∈ cs, c < f.size) :
    Concludes f (newNode label cs) (fun _ g => P g) fun _ g => P g := by
  have hnew : ∀ c ∈ cs, c < (f.alloc label none).2.size ∧ c ≠ f.size := fun c hc => by
    have hlt := hcs c hc
    rw [size_alloc]
    omega
  have htop : (f.alloc label none).2.parent? f.size = none := by
    rw [parent?_alloc, parent?, node_eq_default (Nat.le_refl _)]
    rfl
  simp only [newNode]
  refine concludes_get_bind ?_
  refine Concludes.bind (Q := fun _ g => g = (f.alloc label none).2) (concludes_set rfl) ?_
  rintro _ _ rfl
  refine (concludes_addEach hP h (by simp) htop hnew).bind ?_
  exact fun _ _ h => concludes_pure h

/-! ## Copies -/

/-- The second forest is the first one with further nodes. The tops are among these, and are topmost. -/
structure Grafts (tops : List Nat) (f f' : Forest) : Prop where
  size_le : f.size ≤ f'.size
  parent?_old : ∀ m < f.size, f'.parent? m = f.parent? m
  tops_nodup : tops.Nodup
  tops_new : ∀ n ∈ tops, f.size ≤ n ∧ n < f'.size
  parent?_top : ∀ n ∈ tops, f'.parent? n = none

theorem grafts_nil (f : Forest) : Grafts [] f f where
  size_le := Nat.le_refl _
  parent?_old _ _ := rfl
  tops_nodup := List.nodup_nil
  tops_new := nofun
  parent?_top := nofun

theorem Grafts.append (h : Grafts ids f f') (h' : Grafts ids' f' f'') :
    Grafts (ids ++ ids') f f'' where
  size_le := Nat.le_trans h.size_le h'.size_le
  parent?_old m hm :=
    (h'.parent?_old m (Nat.lt_of_lt_of_le hm h.size_le)).trans (h.parent?_old m hm)
  tops_nodup := by
    refine List.nodup_append.mpr ⟨h.tops_nodup, h'.tops_nodup, ?_⟩
    rintro n hn _ hn' rfl
    exact absurd (h.tops_new n hn).2 (Nat.not_lt_of_le (h'.tops_new n hn').1)
  tops_new n hn := by
    have hle := h.size_le
    have hle' := h'.size_le
    rcases List.mem_append.mp hn with hn | hn
    · have hnew := h.tops_new n hn
      omega
    · have hnew := h'.tops_new n hn
      omega
  parent?_top n hn := by
    rcases List.mem_append.mp hn with hn | hn
    · rw [h'.parent?_old n (h.tops_new n hn).2, h.parent?_top n hn]
    · exact h'.parent?_top n hn

/-- The forest with a new node over topmost ones. -/
def crown (f : Forest) (label : String) (ids : List Nat) : Forest :=
  (ids.foldl (fun g c => g.setParent c (some f.size)) (f.alloc label none).2).setChildren f.size ids

theorem foldl_setParent (hids : ∀ c ∈ ids, c < f.size) (p : Option Nat) :
    (ids.foldl (fun g c => g.setParent c p) f).size = f.size ∧
    ∀ m, (ids.foldl (fun g c => g.setParent c p) f).parent? m =
        (if m ∈ ids then p else f.parent? m) ∧
      (ids.foldl (fun g c => g.setParent c p) f).children m = f.children m := by
  induction ids generalizing f with
  | nil => simp
  | cons c ids ih =>
      obtain ⟨hc, hids⟩ := List.forall_mem_cons.mp hids
      obtain ⟨hsize, hrest⟩ := ih (f := f.setParent c p) (by simpa using hids)
      rw [List.foldl_cons]
      refine ⟨by simpa using hsize, fun m => ?_⟩
      obtain ⟨hparent, hchildren⟩ := hrest m
      rw [hparent, hchildren, parent?_setParent hc, children_setParent]
      refine ⟨?_, rfl⟩
      by_cases hmc : m = c
      · simp [hmc]
      · simp [hmc]

section
variable (hids : ∀ c ∈ ids, c < f.size) (label : String)
include hids

theorem lt_size_alloc : ∀ c ∈ ids, c < (f.alloc label none).2.size := fun c hc => by
  rw [size_alloc]
  exact Nat.lt_succ_of_lt (hids c hc)

theorem size_crown : (f.crown label ids).size = f.size + 1 := by
  rw [crown, size_setChildren, (foldl_setParent (lt_size_alloc hids label) _).1, size_alloc]

theorem parent?_crown (m : Nat) :
    (f.crown label ids).parent? m = if m ∈ ids then some f.size else f.parent? m := by
  rw [crown, parent?_setChildren, ((foldl_setParent (lt_size_alloc hids label) _).2 m).1,
    parent?_alloc]

theorem children_crown (m : Nat) :
    (f.crown label ids).children m = if m = f.size then ids else f.children m := by
  obtain ⟨hsize, hrest⟩ := foldl_setParent (lt_size_alloc hids label) (some f.size)
  rw [size_alloc] at hsize
  rw [crown, children_setChildren (hsize ▸ Nat.lt_succ_self f.size), (hrest m).2, children_alloc]

end

theorem Linked.crown (h : f.Linked) (hnodup : ids.Nodup) (hids : ∀ c ∈ ids, c < f.size)
    (htop : ∀ c ∈ ids, f.parent? c = none) (label : String) : (f.crown label ids).Linked where
  count_children p c := by
    rw [children_crown hids, parent?_crown hids]
    by_cases hp : p = f.size
    · rw [if_pos hp, hnodup.count]
      by_cases hc : c ∈ ids
      · rw [if_pos hc, if_pos hc, hp, if_pos rfl]
      · rw [if_neg hc, if_neg hc, if_neg]
        intro hparent
        have hlt := h.parent_lt_size hparent
        omega
    · rw [if_neg hp, h.count_children]
      by_cases hc : c ∈ ids
      · rw [if_pos hc, htop c hc, if_neg (Option.some_ne_none p).symm,
          if_neg fun heq => hp (Option.some.inj heq).symm]
      · rw [if_neg hc]

theorem WellFormed.crown (h : f.WellFormed) (hnodup : ids.Nodup) (hids : ∀ c ∈ ids, c < f.size)
    (htop : ∀ c ∈ ids, f.parent? c = none) (label : String) : (f.crown label ids).WellFormed where
  count_children := (h.linked.crown hnodup hids htop label).count_children
  grounded n := by
    have hnew : (f.crown label ids).Grounded f.size := by
      refine .top ?_
      rw [parent?_crown hids, if_neg fun hmem => Nat.lt_irrefl _ (hids f.size hmem), parent?,
        node_eq_default (Nat.le_refl _)]
      rfl
    have hparent := parent?_crown hids label
    induction h.grounded n with
    | @top n hn =>
        by_cases hmem : n ∈ ids
        · exact .under ((hparent n).trans (if_pos hmem)) hnew
        · exact .top (((hparent n).trans (if_neg hmem)).trans hn)
    | @under n p hp _ ih =>
        by_cases hmem : n ∈ ids
        · exact .under ((hparent n).trans (if_pos hmem)) hnew
        · exact .under (((hparent n).trans (if_neg hmem)).trans hp) ih

/-- What lasts when a new node is put over topmost ones. -/
def LastsCrowning (P : Forest → Prop) : Prop :=
  ∀ {g : Forest} {ids : List Nat} (label : String), P g → ids.Nodup → (∀ c ∈ ids, c < g.size) →
    (∀ c ∈ ids, g.parent? c = none) → P (g.crown label ids)

theorem linked_lastsCrowning : LastsCrowning Linked :=
  fun label h hnodup hids htop => h.crown hnodup hids htop label

theorem wellFormed_lastsCrowning : LastsCrowning WellFormed :=
  fun label h hnodup hids htop => h.crown hnodup hids htop label

theorem Grafts.crown (h : Grafts ids f f') (label : String) :
    Grafts [f'.size] f (f'.crown label ids) := by
  have hids : ∀ c ∈ ids, c < f'.size := fun c hc => (h.tops_new c hc).2
  refine ⟨?_, fun m hm => ?_, by simp, fun n hn => ?_, fun n hn => ?_⟩
  · rw [size_crown hids]
    exact Nat.le_succ_of_le h.size_le
  · have hold : m ∉ ids := fun hmem => Nat.not_lt_of_le (h.tops_new m hmem).1 hm
    rw [parent?_crown hids, if_neg hold, h.parent?_old m hm]
  · rw [List.mem_singleton.mp hn, size_crown hids]
    exact ⟨h.size_le, Nat.lt_succ_self _⟩
  · have hfresh : f'.size ∉ ids := fun hmem => Nat.lt_irrefl _ (hids _ hmem)
    rw [List.mem_singleton.mp hn, parent?_crown hids, if_neg hfresh, parent?,
      node_eq_default (Nat.le_refl _)]
    rfl

mutual
theorem grafts_graft {P : Forest → Prop} (hP : LastsCrowning P) : (t : Tree) → (f : Forest) →
    P f → P (graft t f).2 ∧ Grafts [(graft t f).1] f (graft t f).2
  | .node l cs, f, h => by
      obtain ⟨hbelow, hgrafts⟩ := grafts_graftAll hP cs f h
      exact ⟨hP l hbelow hgrafts.tops_nodup (fun c hc => (hgrafts.tops_new c hc).2)
        hgrafts.parent?_top, hgrafts.crown l⟩
theorem grafts_graftAll {P : Forest → Prop} (hP : LastsCrowning P) : (cs : List Tree) →
    (f : Forest) → P f → P (graftAll cs f).2 ∧ Grafts (graftAll cs f).1 f (graftAll cs f).2
  | [], f, h => ⟨h, grafts_nil f⟩
  | c :: cs, f, h => by
      obtain ⟨hfirst, hgrafts⟩ := grafts_graft hP c f h
      obtain ⟨hothers, hgrafts'⟩ := grafts_graftAll hP cs (graft c f).2 hfirst
      exact ⟨hothers, hgrafts.append hgrafts'⟩
end

/-- A copy keeps what lasts when new nodes are put over topmost ones. -/
theorem holds_deepCopy {P : Forest → Prop} (hP : LastsCrowning P) (h : P f) (n : Nat) :
    P (f.deepCopy n).2 := (grafts_graft hP (f.tree n) f h).1

end Treebank.Forest
