import Treebank.Proofs.Forest.Shape

/-!
# Ancestors in a well-formed forest

The ancestors of a node are looked for at most as many steps upwards as the forest has nodes. In a
linked forest this is enough where the way up ends, as it does everywhere in a well-formed one: no
node is met twice.
-/

namespace Treebank.Forest

variable {f : Forest} {a n p : Nat}

theorem exists_parent?_of_mem_ancestorsUpTo {fuel : Nat} (h : a ∈ f.ancestorsUpTo fuel n) :
    ∃ p, f.parent? n = some p ∧ f.Covers a p := by
  induction fuel generalizing n with
  | zero => simp [ancestorsUpTo] at h
  | succ fuel ih =>
      simp only [ancestorsUpTo] at h
      split at h
      · simp at h
      · rename_i p hp
        rcases List.mem_cons.mp h with rfl | h
        · exact ⟨a, hp, .self⟩
        · obtain ⟨q, hq, hcov⟩ := ih h
          exact ⟨p, hp, .under hq hcov⟩

theorem covers_of_dominates (h : f.dominates a n = true) : f.Covers a n := by
  obtain ⟨p, hp, hcov⟩ := exists_parent?_of_mem_ancestorsUpTo (List.contains_iff_mem.mp h)
  exact .under hp hcov

theorem Grounded.not_mem_ancestorsUpTo (h : f.Grounded n) (fuel : Nat) :
    n ∉ f.ancestorsUpTo fuel n := by
  intro hmem
  obtain ⟨p, hp, hcov⟩ := exists_parent?_of_mem_ancestorsUpTo hmem
  exact h.not_covers hp hcov

theorem WellFormed.not_mem_ancestorsUpTo (h : f.WellFormed) (n fuel : Nat) :
    n ∉ f.ancestorsUpTo fuel n := (h.grounded n).not_mem_ancestorsUpTo fuel

theorem Grounded.nodup_ancestorsUpTo (h : f.Grounded n) (fuel : Nat) :
    (f.ancestorsUpTo fuel n).Nodup := by
  induction fuel generalizing n with
  | zero => exact List.nodup_nil
  | succ fuel ih =>
      simp only [ancestorsUpTo]
      split
      · exact List.nodup_nil
      · rename_i p hp
        have hp := h.parent hp
        exact List.nodup_cons.mpr ⟨hp.not_mem_ancestorsUpTo fuel, ih hp⟩

theorem Linked.lt_size_of_mem_ancestorsUpTo (h : f.Linked) {fuel : Nat}
    (hmem : a ∈ f.ancestorsUpTo fuel n) : a < f.size := by
  induction fuel generalizing n with
  | zero => simp [ancestorsUpTo] at hmem
  | succ fuel ih =>
      simp only [ancestorsUpTo] at hmem
      split at hmem
      · simp at hmem
      · rename_i p hp
        rcases List.mem_cons.mp hmem with rfl | hmem
        · exact h.parent_lt_size hp
        · exact ih hmem

/-- A node above another one is met on the way up, unless the way is cut short. -/
theorem Covers.mem_ancestorsUpTo (h : f.Covers a n) (hne : a ≠ n) (fuel : Nat) :
    a ∈ f.ancestorsUpTo fuel n ∨ (f.ancestorsUpTo fuel n).length = fuel := by
  induction fuel generalizing n with
  | zero => exact Or.inr rfl
  | succ fuel ih =>
      cases h with
      | self => exact absurd rfl hne
      | @under n p hp hcov =>
          simp only [ancestorsUpTo, hp, List.mem_cons, List.length_cons]
          by_cases hap : a = p
          · exact Or.inl (Or.inl hap)
          · rcases ih hcov hap with hmem | hlength
            · exact Or.inl (Or.inr hmem)
            · exact Or.inr (by rw [hlength])

/-- The way up of a node and its ancestors is shorter than the forest has nodes. -/
theorem Linked.length_ancestors_lt (h : f.Linked) (hground : f.Grounded n) (hn : n < f.size) :
    (f.ancestors n).length < f.size := by
  have hnodup : (n :: f.ancestors n).Nodup :=
    List.nodup_cons.mpr ⟨hground.not_mem_ancestorsUpTo _, hground.nodup_ancestorsUpTo _⟩
  have hsub : n :: f.ancestors n ⊆ List.range f.size := by
    intro m hm
    rcases List.mem_cons.mp hm with rfl | hm
    · exact List.mem_range.mpr hn
    · exact List.mem_range.mpr (h.lt_size_of_mem_ancestorsUpTo hm)
  have hle := hnodup.length_le_of_subset hsub
  rw [List.length_cons, List.length_range] at hle
  exact hle

theorem WellFormed.length_ancestors_lt (h : f.WellFormed) (hn : n < f.size) :
    (f.ancestors n).length < f.size := h.linked.length_ancestors_lt (h.grounded n) hn

theorem WellFormed.not_endlessAbove (h : f.WellFormed) (hn : n < f.size) :
    f.endlessAbove n = false := by
  rw [endlessAbove, decide_eq_false_iff_not, Nat.not_le]
  exact h.length_ancestors_lt hn

/-- A node dominates those that it covers, itself excepted. -/
theorem WellFormed.dominates_iff (h : f.WellFormed) :
    f.dominates a n = true ↔ f.Covers a n ∧ a ≠ n := by
  rw [dominates, List.contains_iff_mem, ancestors]
  constructor
  · intro hmem
    obtain ⟨p, hp, hcov⟩ := exists_parent?_of_mem_ancestorsUpTo hmem
    refine ⟨.under hp hcov, ?_⟩
    rintro rfl
    exact h.not_mem_ancestorsUpTo a _ hmem
  · rintro ⟨hcov, hne⟩
    have hn : n < f.size := by
      cases hcov with
      | self => exact absurd rfl hne
      | under hp _ => exact lt_size_of_parent? hp
    rcases hcov.mem_ancestorsUpTo hne f.size with hmem | hlength
    · exact hmem
    · have hlt := h.length_ancestors_lt hn
      rw [ancestors, hlength] at hlt
      exact absurd hlt (Nat.lt_irrefl _)

/-! ## Ways down -/

/-- A way up that is not cut short stays the same when more steps are allowed. -/
theorem ancestorsUpTo_succ {fuel : Nat} (h : (f.ancestorsUpTo fuel n).length < fuel) :
    f.ancestorsUpTo (fuel + 1) n = f.ancestorsUpTo fuel n := by
  induction fuel generalizing n with
  | zero => exact absurd h (Nat.not_lt_zero _)
  | succ fuel ih =>
      rw [ancestorsUpTo] at h ⊢
      rw [ancestorsUpTo]
      cases hp : f.parent? n with
      | none => rfl
      | some p =>
          simp only [hp, List.length_cons, Nat.add_lt_add_iff_right] at h
          simp only [ih h]

theorem Linked.ancestors_child (h : f.Linked) (hground : f.Grounded n) (hp : f.parent? n = some p) :
    f.ancestors n = p :: f.ancestors p := by
  rw [ancestors, ← ancestorsUpTo_succ (h.length_ancestors_lt hground (lt_size_of_parent? hp)),
    ancestorsUpTo, hp]
  rfl

/-- What hangs from a node and the way up from it, if that ends, are together no longer than the
forest has nodes. -/
theorem Linked.height_treeUpTo_le (h : f.Linked) (fuel : Nat) (hground : f.Grounded n)
    (hn : n < f.size) : (f.treeUpTo fuel n).height + (f.ancestors n).length ≤ f.size := by
  have hup := h.length_ancestors_lt hground hn
  induction fuel generalizing n with
  | zero =>
      simp only [treeUpTo, Tree.height, Tree.heights]
      omega
  | succ fuel ih =>
      have hchildren : ∀ cs : List Nat, (∀ c ∈ cs, f.parent? c = some n) →
          Tree.heights (cs.map (f.treeUpTo fuel)) + (f.ancestors n).length + 1 ≤ f.size := by
        intro cs hcs
        induction cs with
        | nil =>
            simp only [List.map_nil, Tree.heights]
            omega
        | cons c cs ihcs =>
            obtain ⟨hc, hcs⟩ := List.forall_mem_cons.mp hcs
            have hlt := lt_size_of_parent? hc
            have hcground : f.Grounded c := .under hc hground
            have hfirst := ih hcground hlt (h.length_ancestors_lt hcground hlt)
            rw [h.ancestors_child hcground hc, List.length_cons] at hfirst
            have hothers := ihcs hcs
            simp only [List.map_cons, Tree.heights]
            omega
      have hall := hchildren (f.children n) fun c hc => h.mem_children.mp hc
      simp only [treeUpTo, Tree.height]
      omega

theorem Linked.not_endlessBelow (h : f.Linked) (hground : f.Grounded n) (hn : n < f.size) :
    f.endlessBelow n = false := by
  have hle := h.height_treeUpTo_le f.size hground hn
  rw [endlessBelow, decide_eq_false_iff_not, tree]
  omega

theorem WellFormed.not_endlessBelow (h : f.WellFormed) (hn : n < f.size) :
    f.endlessBelow n = false := h.linked.not_endlessBelow (h.grounded n) hn

end Treebank.Forest
