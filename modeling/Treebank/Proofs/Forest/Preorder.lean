import Treebank.Proofs.Forest.Ancestors
import Treebank.Proofs.Forest.Ways

/-!
# The preorder of a well-formed forest

In a well-formed forest every way down ends. So the walk through the nodes below a node is a node
followed by the walks through its children, and it meets what the node covers.
-/

namespace Treebank.Forest

variable {f f' : Forest} {n m a : Nat}

/-! ## Going down -/

theorem children_eq_nil (h : f.size ≤ n) : f.children n = [] := by
  rw [children, node_eq_default h]
  rfl

/-- What holds of a node if it holds of all its children holds everywhere. -/
@[elab_as_elim]
theorem WellFormed.induction_down (h : f.WellFormed) {motive : NodeId → Prop} (n : NodeId)
    (node : ∀ n, (∀ c ∈ f.children n, motive c) → motive n) : motive n := by
  by_cases hn : n < f.size
  · have hhangs := hangs_tree (h.not_endlessBelow hn)
    have hbelow : ∀ k (t : Tree) n, t.height ≤ k → f.Hangs n t → motive n := by
      intro k
      induction k with
      | zero => exact fun t n ht => absurd ht (Nat.not_le_of_lt t.height_pos)
      | succ k ih =>
          rintro ⟨l, cs⟩ n ht hangs
          simp only [Hangs, hangAll_iff] at hangs
          simp only [Tree.height] at ht
          apply node
          intro c hc
          obtain ⟨i, hi, rfl⟩ := List.getElem_of_mem hc
          obtain ⟨hlen, hget⟩ := List.forall₂_iff_get.mp hangs.2
          have hle := Tree.height_le_heights (List.get_mem cs ⟨i, hlen ▸ hi⟩)
          exact ih _ _ (by omega) (hget i hi (hlen ▸ hi))
    exact hbelow _ _ n (Nat.le_refl _) hhangs
  · apply node
    intro c hc
    rw [children_eq_nil (Nat.le_of_not_lt hn)] at hc
    cases hc

/-! ## One step down -/

/-- What hangs from a child is less high than the forest has nodes: its parent stands above it. -/
theorem WellFormed.hangs_child (h : f.WellFormed) {c : NodeId} (hc : c ∈ f.children n) :
    f.Hangs c (f.tree c) ∧ (f.tree c).height + 1 ≤ f.size := by
  have hp := h.mem_children.mp hc
  have hlt := lt_size_of_parent? hp
  have hground := h.grounded c
  have hle := h.linked.height_treeUpTo_le f.size hground hlt
  rw [h.linked.ancestors_child hground hp, List.length_cons] at hle
  refine ⟨hangs_tree (h.not_endlessBelow hlt), ?_⟩
  rw [tree]
  omega

theorem WellFormed.preorder_eq (h : f.WellFormed) (n : NodeId) :
    f.preorder n = n :: (f.children n).flatMap f.preorder := by
  cases hsize : f.size with
  | zero =>
      have hnone : f.children n = [] := children_eq_nil (by omega)
      rw [preorder, hsize, preorderUpTo, hnone]
      rfl
  | succ k =>
      rw [preorder, hsize, preorderUpTo]
      refine congrArg (n :: ·) (List.flatMap_congr fun c hc => ?_)
      obtain ⟨hhangs, hheight⟩ := h.hangs_child hc
      rw [preorder, hsize, hhangs.preorderUpTo_add (by omega) 1]

theorem WellFormed.tree_eq (h : f.WellFormed) (n : NodeId) :
    f.tree n = .node (f.label n) ((f.children n).map f.tree) := by
  cases hsize : f.size with
  | zero =>
      have hnone : f.children n = [] := children_eq_nil (by omega)
      rw [tree, hsize, treeUpTo, hnone]
      rfl
  | succ k =>
      rw [tree, hsize, treeUpTo]
      refine congrArg (Tree.node _) (List.map_congr_left fun c hc => ?_)
      obtain ⟨hhangs, hheight⟩ := h.hangs_child hc
      exact hhangs.treeUpTo_eq (by omega)

/-! ## What is met -/

theorem WellFormed.covers_of_mem_preorder (h : f.WellFormed) (hm : m ∈ f.preorder n) :
    f.Covers n m := by
  induction n using h.induction_down with
  | node n ih =>
      rw [h.preorder_eq, List.mem_cons, List.mem_flatMap] at hm
      rcases hm with rfl | ⟨c, hc, hm⟩
      · exact .self
      · exact .trans (.under (h.mem_children.mp hc) .self) (ih c hc hm)

theorem WellFormed.mem_preorder_self (h : f.WellFormed) (n : NodeId) : n ∈ f.preorder n := by
  rw [h.preorder_eq]
  exact List.mem_cons_self

/-- With a node the walk meets the children of that node. -/
theorem WellFormed.child_mem_preorder (h : f.WellFormed) {p c : NodeId} (hc : c ∈ f.children p)
    (hp : p ∈ f.preorder n) : c ∈ f.preorder n := by
  induction n using h.induction_down with
  | node n ih =>
      rw [h.preorder_eq, List.mem_cons, List.mem_flatMap] at hp ⊢
      rcases hp with rfl | ⟨d, hd, hp⟩
      · exact Or.inr ⟨c, hc, h.mem_preorder_self c⟩
      · exact Or.inr ⟨d, hd, ih d hd hp⟩

/-- The walk from a node meets the nodes that it covers. -/
theorem WellFormed.mem_preorder (h : f.WellFormed) : m ∈ f.preorder n ↔ f.Covers n m := by
  refine ⟨h.covers_of_mem_preorder, ?_⟩
  intro hcov
  induction hcov with
  | self => exact h.mem_preorder_self n
  | under hp _ ih => exact h.child_mem_preorder (h.mem_children.mpr hp) ih

/-- What hangs from a node depends only on the nodes that it covers. -/
theorem WellFormed.same_below (h : f.WellFormed) (h' : f'.WellFormed)
    (hsame : ∀ m, f.Covers n m → f'.label m = f.label m ∧ f'.children m = f.children m) :
    f'.preorder n = f.preorder n ∧ f'.tree n = f.tree n := by
  induction n using h.induction_down with
  | node n ih =>
      obtain ⟨hlabel, hchildren⟩ := hsame n .self
      have hbelow : ∀ c ∈ f.children n, f'.preorder c = f.preorder c ∧ f'.tree c = f.tree c :=
        fun c hc => ih c hc fun m hm => hsame m (.trans (.under (h.mem_children.mp hc) .self) hm)
      constructor
      · rw [h.preorder_eq, h'.preorder_eq, hchildren]
        exact congrArg (n :: ·) (List.flatMap_congr fun c hc => (hbelow c hc).1)
      · rw [h.tree_eq, h'.tree_eq, hchildren, hlabel]
        exact congrArg (Tree.node _) (List.map_congr_left fun c hc => (hbelow c hc).2)

/-! ## What stays together -/

/-- What hangs from the node is as it was. -/
structure Carries (f f' : Forest) (m : NodeId) : Prop where
  covers_iff : ∀ n, f'.Covers m n ↔ f.Covers m n
  preorder_eq : f'.preorder m = f.preorder m
  tree_eq : f'.tree m = f.tree m

theorem WellFormed.carries (h : f.WellFormed) (h' : f'.WellFormed)
    (hsame : ∀ k, f.Covers m k → f'.label k = f.label k ∧ f'.children k = f.children k) :
    f.Carries f' m := by
  obtain ⟨hpreorder, htree⟩ := h.same_below h' hsame
  refine ⟨fun n => ?_, hpreorder, htree⟩
  rw [← h'.mem_preorder, hpreorder, h.mem_preorder]

theorem Carries.trans {f'' : Forest} (h : f.Carries f' m) (h' : f'.Carries f'' m) :
    f.Carries f'' m where
  covers_iff n := (h'.covers_iff n).trans (h.covers_iff n)
  preorder_eq := h'.preorder_eq.trans h.preorder_eq
  tree_eq := h'.tree_eq.trans h.tree_eq

/-- The tree `x` hangs from the node in the second forest, made of nodes that the first one has not. -/
structure Fresh (f f' : Forest) (m : NodeId) (x : Tree) : Prop where
  size_le : ∀ n, f'.Covers m n → f.size ≤ n
  tree_eq : f'.tree m = x

theorem WellFormed.fresh_plant (h : f.WellFormed) (x : Tree) :
    f.Fresh (f.plant x).2 (f.plant x).1 x := by
  obtain ⟨_, hadds⟩ := f.plant_adds x
  obtain ⟨_, hlt⟩ := hadds.tops_new _ (List.mem_singleton_self _)
  exact ⟨fun n hn => hadds.size_le_of_covers h hn,
    (hangs_tree ((h.adds hadds).not_endlessBelow hlt)).unique (f.hangs_plant x)⟩

theorem Fresh.carries {x : Tree} (h : f.Fresh f' m x) {f'' : Forest} (h' : f'.Carries f'' m) :
    f.Fresh f'' m x :=
  ⟨fun n hn => h.size_le n ((h'.covers_iff n).mp hn), h'.tree_eq.trans h.tree_eq⟩

end Treebank.Forest
