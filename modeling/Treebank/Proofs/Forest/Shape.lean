import Treebank.Forest

/-!
# The shape of a forest

A node covers itself and everything below it. A forest is well formed if every node stands among the
children of its parent exactly once and among those of no other node, and if the way up from every
node ends.
-/

namespace Treebank.Forest

variable {f f' : Forest} {a b c n m p : Nat}

/-! ## Fields of nodes -/

theorem node_eq_default (h : f.size ≤ n) : f.node n = default := by
  rw [node, Array.getD_eq_getD_getElem?, Array.getElem?_eq_none h]
  rfl

theorem lt_size_of_parent? (h : f.parent? n = some p) : n < f.size := by
  by_cases hn : n < f.size
  · exact hn
  · rw [parent?, node_eq_default (Nat.le_of_not_lt hn)] at h
    exact nomatch h

theorem lt_size_of_mem_children (h : c ∈ f.children p) : p < f.size := by
  by_cases hp : p < f.size
  · exact hp
  · rw [children, node_eq_default (Nat.le_of_not_lt hp)] at h
    exact nomatch h

@[simp]
theorem size_adjust (f : Forest) (n : Nat) (change : Node → Node) :
    (f.adjust n change).size = f.size := Array.size_modify

theorem node_adjust_of_ne {m : Nat} (h : m ≠ n) (change : Node → Node) :
    (f.adjust n change).node m = f.node m := by
  rw [node, node, adjust, Array.getD_eq_getD_getElem?, Array.getD_eq_getD_getElem?,
    Array.getElem?_modify, if_neg (Ne.symm h)]

theorem node_adjust (h : n < f.size) (change : Node → Node) (m : Nat) :
    (f.adjust n change).node m = if m = n then change (f.node n) else f.node m := by
  by_cases hmn : m = n
  · subst hmn
    rw [if_pos rfl]
    simp only [node, adjust, size] at h ⊢
    rw [Array.getD_eq_getD_getElem?, Array.getD_eq_getD_getElem?,
      Array.getElem?_modify, if_pos rfl, Array.getElem?_eq_getElem h]
    rfl
  · rw [if_neg hmn, node_adjust_of_ne hmn]

@[simp]
theorem size_setParent (f : Forest) (n : Nat) (p : Option Nat) :
    (f.setParent n p).size = f.size := size_adjust ..

@[simp]
theorem size_setChildren (f : Forest) (n : Nat) (cs : List Nat) :
    (f.setChildren n cs).size = f.size := size_adjust ..

@[simp]
theorem size_setLabel (f : Forest) (n : Nat) (l : String) :
    (f.setLabel n l).size = f.size := size_adjust ..

theorem parent?_setParent (h : n < f.size) (q : Option Nat) (m : Nat) :
    (f.setParent n q).parent? m = if m = n then q else f.parent? m := by
  rw [parent?, setParent, node_adjust h]
  split <;> rfl

/-- A change of a node that leaves one of its fields alone leaves that field alone everywhere. -/
theorem field_adjust {α : Type} (field : Node → α) (change : Node → Node)
    (hchange : ∀ v, field (change v) = field v) (f : Forest) (n m : Nat) :
    field ((f.adjust n change).node m) = field (f.node m) := by
  by_cases hn : n < f.size
  · rw [node_adjust hn]
    split
    · rename_i hmn
      rw [hchange, hmn]
    · rfl
  · have hsame : (f.adjust n change).nodes = f.nodes := by
      apply Array.ext_getElem?
      intro i
      rw [adjust, Array.getElem?_modify]
      split
      · rename_i hi
        subst hi
        rw [Array.getElem?_eq_none (Nat.le_of_not_lt hn)]
        rfl
      · rfl
    rw [node, node, hsame]

@[simp]
theorem children_setParent (f : Forest) (n : Nat) (q : Option Nat) (m : Nat) :
    (f.setParent n q).children m = f.children m :=
  field_adjust Node.children (fun v => { v with parent := q }) (fun _ => rfl) f n m

@[simp]
theorem parent?_setChildren (f : Forest) (n : Nat) (cs : List Nat) (m : Nat) :
    (f.setChildren n cs).parent? m = f.parent? m :=
  field_adjust Node.parent (fun v => { v with children := cs }) (fun _ => rfl) f n m

@[simp]
theorem parent?_setLabel (f : Forest) (n : Nat) (l : String) (m : Nat) :
    (f.setLabel n l).parent? m = f.parent? m :=
  field_adjust Node.parent (fun v => { v with label := l }) (fun _ => rfl) f n m

@[simp]
theorem children_setLabel (f : Forest) (n : Nat) (l : String) (m : Nat) :
    (f.setLabel n l).children m = f.children m :=
  field_adjust Node.children (fun v => { v with label := l }) (fun _ => rfl) f n m

@[simp]
theorem label_setParent (f : Forest) (n : Nat) (q : Option Nat) (m : Nat) :
    (f.setParent n q).label m = f.label m :=
  field_adjust Node.label (fun v => { v with parent := q }) (fun _ => rfl) f n m

@[simp]
theorem label_setChildren (f : Forest) (n : Nat) (cs : List Nat) (m : Nat) :
    (f.setChildren n cs).label m = f.label m :=
  field_adjust Node.label (fun v => { v with children := cs }) (fun _ => rfl) f n m

theorem label_setLabel (h : n < f.size) (l : String) (m : Nat) :
    (f.setLabel n l).label m = if m = n then l else f.label m := by
  rw [label, setLabel, node_adjust h]
  split <;> rfl

theorem children_setChildren (h : n < f.size) (cs : List Nat) (m : Nat) :
    (f.setChildren n cs).children m = if m = n then cs else f.children m := by
  rw [children, setChildren, node_adjust h]
  split <;> rfl

/-! ## What stands below a node -/

/-- The first node is the second one or stands above it. -/
inductive Covers (f : Forest) (a : Nat) : Nat → Prop where
  | self : Covers f a a
  | under {n p : Nat} : f.parent? n = some p → Covers f a p → Covers f a n

theorem Covers.trans (hab : f.Covers a b) (hbn : f.Covers b n) : f.Covers a n := by
  induction hbn with
  | self => exact hab
  | under hp _ ih => exact .under hp ih

theorem Covers.of_top (h : f.Covers a n) (hn : f.parent? n = none) : a = n := by
  cases h with
  | self => rfl
  | under hp _ => simp [hn] at hp

/-- A node below another one has a parent, which the other one covers too. -/
theorem Covers.exists_parent (h : f.Covers a n) (hne : a ≠ n) :
    ∃ p, f.parent? n = some p ∧ f.Covers a p := by
  cases h with
  | self => exact absurd rfl hne
  | under hp hcov => exact ⟨_, hp, hcov⟩

/-- What is above a node, and not the node itself, is above its parent. -/
theorem Covers.parent (h : f.Covers a n) (hne : a ≠ n) (hp : f.parent? n = some p) :
    f.Covers a p := by
  cases h with
  | self => exact absurd rfl hne
  | under hq hcov =>
      rw [hp, Option.some.injEq] at hq
      exact hq ▸ hcov

/-- The nodes above a node stand above one another. -/
theorem Covers.linear (ha : f.Covers a n) (hb : f.Covers b n) : f.Covers a b ∨ f.Covers b a := by
  induction ha with
  | self => exact Or.inr hb
  | @under n p hp hcov ih =>
      by_cases hbn : b = n
      · exact Or.inl (hbn ▸ .under hp hcov)
      · exact ih (hb.parent hbn hp)

/-- Where some nodes get other parents, the way up from a node that none of them covers stays. -/
theorem covers_congr {cs : List Nat} (hsame : ∀ m, m ∉ cs → f'.parent? m = f.parent? m)
    (hn : ∀ c ∈ cs, ¬f.Covers c n) : f'.Covers a n ↔ f.Covers a n := by
  constructor
  · intro h
    induction h with
    | self => exact .self
    | @under n p hp _ ih =>
        rw [hsame n fun hmoved => hn n hmoved .self] at hp
        exact .under hp (ih fun c hc hcov => hn c hc (.under hp hcov))
  · intro h
    induction h with
    | self => exact .self
    | @under n p hp _ ih =>
        have hp' := (hsame n fun hmoved => hn n hmoved .self).trans hp
        exact .under hp' (ih fun c hc hcov => hn c hc (.under hp hcov))

/-- Where every node stands under one that covered it before, no node covers more than it did. -/
theorem Covers.of_parents (h : f'.Covers a n)
    (hparents : ∀ m p, f'.parent? m = some p → f.Covers p m) : f.Covers a n := by
  induction h with
  | self => exact .self
  | @under n p hp _ ih => exact ih.trans (hparents n p hp)

/-! ## Ways up that end -/

/-- The way up from the node ends. -/
inductive Grounded (f : Forest) : Nat → Prop where
  | top {n : Nat} : f.parent? n = none → Grounded f n
  | under {n p : Nat} : f.parent? n = some p → Grounded f p → Grounded f n

/-- No node is above its own parent. -/
theorem Grounded.not_covers (h : f.Grounded n) (hp : f.parent? n = some p) : ¬f.Covers n p := by
  induction h generalizing p with
  | top hn => simp [hn] at hp
  | @under n q hq _ ih =>
      rw [hq, Option.some.injEq] at hp
      subst hp
      intro hcov
      cases hcov with
      | self => exact ih hq .self
      | under hr hcov => exact ih hr (.trans (.under hq .self) hcov)

/-- Two nodes that cover one another are the same. -/
theorem Grounded.eq_of_covers (h : f.Grounded n) (hab : f.Covers a n) (hba : f.Covers n a) : a = n := by
  cases hab with
  | self => rfl
  | under hp hcov => exact absurd (hba.trans hcov) (h.not_covers hp)

theorem Grounded.ne_parent (h : f.Grounded n) (hp : f.parent? n = some p) : n ≠ p :=
  fun hnp => h.not_covers hp (hnp ▸ .self)

theorem Grounded.parent (h : f.Grounded n) (hp : f.parent? n = some p) : f.Grounded p := by
  cases h with
  | top hn => simp [hn] at hp
  | under hq hground =>
      rw [hp, Option.some.injEq] at hq
      exact hq ▸ hground

/-! ## Linked forests -/

/-- Every node stands among the children of its parent once, and among those of no other node. -/
structure Linked (f : Forest) : Prop where
  count_children : ∀ p c : Nat, (f.children p).count c = if f.parent? c = some p then 1 else 0

theorem Linked.mem_children (h : f.Linked) : c ∈ f.children p ↔ f.parent? c = some p := by
  rw [← List.count_pos_iff, h.count_children]
  split
  · simp [*]
  · simp [*]

theorem Linked.nodup_children (h : f.Linked) (p : Nat) : (f.children p).Nodup := by
  rw [List.nodup_iff_count]
  intro c
  rw [h.count_children]
  split <;> omega

theorem Linked.parent_lt_size (h : f.Linked) (hp : f.parent? c = some p) : p < f.size :=
  lt_size_of_mem_children (h.mem_children.mpr hp)

/-- Whether a forest is linked depends on its parents and children only. -/
theorem Linked.congr (h : f.Linked) (hparent : ∀ n, f'.parent? n = f.parent? n)
    (hchildren : ∀ n, f'.children n = f.children n) : f'.Linked where
  count_children p c := by rw [hchildren, hparent, h.count_children]

theorem Linked.setLabel (h : f.Linked) (n : Nat) (l : String) : (f.setLabel n l).Linked :=
  h.congr (by simp) (by simp)

/-! ## Well-formed forests -/

/-- Every node stands among the children of its parent once, and among those of no other node; and
the way up from every node ends. -/
structure WellFormed (f : Forest) : Prop where
  count_children : ∀ p c : Nat, (f.children p).count c = if f.parent? c = some p then 1 else 0
  grounded : ∀ n : Nat, f.Grounded n

theorem WellFormed.linked (h : f.WellFormed) : f.Linked := ⟨h.count_children⟩

theorem WellFormed.mem_children (h : f.WellFormed) : c ∈ f.children p ↔ f.parent? c = some p :=
  h.linked.mem_children

theorem WellFormed.nodup_children (h : f.WellFormed) (p : Nat) : (f.children p).Nodup :=
  h.linked.nodup_children p

theorem WellFormed.parent_lt_size (h : f.WellFormed) (hp : f.parent? c = some p) : p < f.size :=
  h.linked.parent_lt_size hp

/-- Whether a forest is well formed depends on its parents and children only. -/
theorem WellFormed.congr (h : f.WellFormed) (hparent : ∀ n, f'.parent? n = f.parent? n)
    (hchildren : ∀ n, f'.children n = f.children n) : f'.WellFormed where
  count_children := (h.linked.congr hparent hchildren).count_children
  grounded n := by
    induction h.grounded n with
    | top hn => exact .top ((hparent _).trans hn)
    | under hp _ ih => exact .under ((hparent _).trans hp) ih

theorem WellFormed.setLabel (h : f.WellFormed) (n : Nat) (l : String) :
    (f.setLabel n l).WellFormed := h.congr (by simp) (by simp)

theorem wellFormed_empty : empty.WellFormed where
  count_children _ _ := rfl
  grounded _ := .top rfl

end Treebank.Forest
