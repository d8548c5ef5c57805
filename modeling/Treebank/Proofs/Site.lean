import Treebank.Site

/-!
# The nodes of a tree

A site is a node of a tree if it is reached from the top by going to children. Nodes of one tree are
told apart by their steps, and the preorder lists each of them once.
-/

namespace Treebank

/-- A path goes on from where its first part leads. -/
theorem Tree.get?_append (t : Tree) (path rest : List Nat) :
    t.get? (path ++ rest) = (t.get? path).bind (·.get? rest) := by
  induction path generalizing t with
  | nil => cases t; rfl
  | cons i path ih =>
      simp only [List.cons_append, Tree.get?]
      cases t.children[i]? with
      | none => rfl
      | some c => exact ih c

namespace Site

variable {t : Tree} {s u : Site} {above : List (Nat × Tree)}

/-- The site is a node of the tree. -/
inductive In (t : Tree) : Site → Prop where
  | top : In t (.top t)
  | child {p c : Tree} {above : List (Nat × Tree)} {i : Nat} :
      In t ⟨p, above⟩ → p.children[i]? = some c → In t ⟨c, (i, p) :: above⟩

theorem In.parent {p c : Tree} {i : Nat} (h : In t ⟨c, (i, p) :: above⟩) : In t ⟨p, above⟩ := by
  cases h with
  | child hp _ => exact hp

/-- Two nodes of one tree are the same if the same steps lead to them. -/
theorem In.eq_of_steps (hs : In t s) (hu : In t u) (h : s.steps = u.steps) : s = u := by
  induction hs generalizing u with
  | top =>
      cases hu with
      | top => rfl
      | child _ _ => simp [steps, Site.top] at h
  | child hp hc ih =>
      cases hu with
      | top => simp [steps, Site.top] at h
      | child hq hd =>
          simp only [steps, List.map_cons, List.cons.injEq] at h
          obtain ⟨rfl, hrest⟩ := h
          have hpq := ih hq hrest
          simp only [Site.mk.injEq] at hpq
          obtain ⟨rfl, rfl⟩ := hpq
          rw [hc, Option.some.injEq] at hd
          rw [hd]

theorem In.same_iff (hs : In t s) (hu : In t u) : s.same u = true ↔ s = u := by
  simp only [same, beq_iff_eq]
  exact ⟨hs.eq_of_steps hu, fun h => h ▸ rfl⟩

/-! ## Addresses -/

theorem address_child (c p : Tree) (above : List (Nat × Tree)) (i : Nat) :
    (Site.mk c ((i, p) :: above)).address = (Site.mk p above).address ++ [i] := by
  simp [address, steps]

/-- The address of a node leads to it. -/
theorem In.get?_address (h : In t s) : t.get? s.address = some s.tree := by
  induction h with
  | top => cases t; rfl
  | @child p c above i hp hc ih =>
      have hstep : p.get? [i] = some c := by
        rw [Tree.get?, hc]
        cases c; rfl
      rw [address_child, Tree.get?_append, ih]
      exact hstep

/-! ## The preorder -/

mutual
theorem In.of_mem_preorderFrom : {x : Tree} → {above : List (Nat × Tree)} → In t ⟨x, above⟩ →
    s ∈ preorderFrom above x → In t s
  | .node l cs, above, h, hs => by
      simp only [preorderFrom, List.mem_cons] at hs
      rcases hs with rfl | hs
      · exact h
      · exact In.of_mem_preorderFromAll h (fun j => by simp [Tree.children]) hs
theorem In.of_mem_preorderFromAll : {cs : List Tree} → {above : List (Nat × Tree)} →
    {parent : Tree} → {i : Nat} → In t ⟨parent, above⟩ →
    (∀ j, cs[j]? = parent.children[i + j]?) → s ∈ preorderFromAll above parent i cs → In t s
  | [], _, _, _, _, _, hs => by simp [preorderFromAll] at hs
  | c :: cs, above, parent, i, h, hcs, hs => by
      simp only [preorderFromAll, List.mem_append] at hs
      rcases hs with hs | hs
      · exact In.of_mem_preorderFrom (.child h (by simpa using (hcs 0).symm)) hs
      · refine In.of_mem_preorderFromAll h (fun j => ?_) hs
        have hj := hcs (j + 1)
        rw [List.getElem?_cons_succ] at hj
        rw [hj, show i + (j + 1) = i + 1 + j by omega]
end

theorem mem_preorderFromAll_of_getElem? {cs : List Tree} {parent c : Tree} {i j : Nat}
    (h : cs[j]? = some c) : ⟨c, (i + j, parent) :: above⟩ ∈ preorderFromAll above parent i cs := by
  induction cs generalizing i j with
  | nil => simp at h
  | cons d ds ih =>
      simp only [preorderFromAll, List.mem_append]
      cases j with
      | zero =>
          simp only [List.getElem?_cons_zero, Option.some.injEq] at h
          subst h
          obtain ⟨l, cs⟩ := d
          exact Or.inl (by simp [preorderFrom])
      | succ j =>
          rw [List.getElem?_cons_succ] at h
          have hmem := ih (i := i + 1) h
          rw [show i + 1 + j = i + (j + 1) by omega] at hmem
          exact Or.inr hmem

mutual
/-- The preorder from a node downwards holds with every node its children. -/
theorem child_mem_preorderFrom {p c : Tree} {ab : List (Nat × Tree)} {i : Nat}
    (hc : p.children[i]? = some c) : (x : Tree) → (above : List (Nat × Tree)) →
    ⟨p, ab⟩ ∈ preorderFrom above x → ⟨c, (i, p) :: ab⟩ ∈ preorderFrom above x
  | .node l cs, above, h => by
      simp only [preorderFrom, List.mem_cons] at h ⊢
      rcases h with h | h
      · simp only [Site.mk.injEq] at h
        obtain ⟨rfl, rfl⟩ := h
        have hmem : ⟨c, (0 + i, .node l cs) :: ab⟩ ∈ preorderFromAll ab (.node l cs) 0 cs :=
          mem_preorderFromAll_of_getElem? hc
        rw [Nat.zero_add] at hmem
        exact Or.inr hmem
      · exact Or.inr (child_mem_preorderFromAll hc cs above _ 0 h)
theorem child_mem_preorderFromAll {p c : Tree} {ab : List (Nat × Tree)} {i : Nat}
    (hc : p.children[i]? = some c) : (cs : List Tree) → (above : List (Nat × Tree)) →
    (parent : Tree) → (k : Nat) → ⟨p, ab⟩ ∈ preorderFromAll above parent k cs →
    ⟨c, (i, p) :: ab⟩ ∈ preorderFromAll above parent k cs
  | [], _, _, _, h => by simp [preorderFromAll] at h
  | d :: ds, above, parent, k, h => by
      simp only [preorderFromAll, List.mem_append] at h ⊢
      rcases h with h | h
      · exact Or.inl (child_mem_preorderFrom hc d _ h)
      · exact Or.inr (child_mem_preorderFromAll hc ds above parent (k + 1) h)
end

/-- The preorder of a tree lists its nodes. -/
theorem mem_preorder_top : s ∈ (top t).preorder ↔ In t s := by
  constructor
  · exact In.of_mem_preorderFrom .top
  · intro h
    induction h with
    | top =>
        obtain ⟨l, cs⟩ := t
        simp [preorder, top, preorderFrom]
    | child _ hc ih => exact child_mem_preorderFrom hc _ _ ih

/-! ## Each node once -/

mutual
theorem steps_of_mem_preorderFrom : (x : Tree) → (above : List (Nat × Tree)) →
    s ∈ preorderFrom above x → ∃ down, s.steps = down ++ above.map (·.1)
  | .node l cs, above, h => by
      simp only [preorderFrom, List.mem_cons] at h
      rcases h with rfl | h
      · exact ⟨[], rfl⟩
      · obtain ⟨down, j, _, hd⟩ := steps_of_mem_preorderFromAll cs above _ 0 h
        exact ⟨down ++ [j], by simp [hd]⟩
theorem steps_of_mem_preorderFromAll : (cs : List Tree) → (above : List (Nat × Tree)) →
    (parent : Tree) → (i : Nat) → s ∈ preorderFromAll above parent i cs →
    ∃ down j, i ≤ j ∧ s.steps = down ++ j :: above.map (·.1)
  | [], _, _, _, h => by simp [preorderFromAll] at h
  | c :: cs, above, parent, i, h => by
      simp only [preorderFromAll, List.mem_append] at h
      rcases h with h | h
      · obtain ⟨down, hd⟩ := steps_of_mem_preorderFrom c _ h
        exact ⟨down, i, Nat.le_refl i, by simpa using hd⟩
      · obtain ⟨down, j, hj, hd⟩ := steps_of_mem_preorderFromAll cs above parent (i + 1) h
        exact ⟨down, j, by omega, hd⟩
end

mutual
theorem nodup_preorderFrom : (x : Tree) → (above : List (Nat × Tree)) →
    (preorderFrom above x).Nodup
  | .node l cs, above => by
      rw [preorderFrom, List.nodup_cons]
      refine ⟨fun h => ?_, nodup_preorderFromAll cs above _ 0⟩
      obtain ⟨down, j, _, hd⟩ := steps_of_mem_preorderFromAll cs above _ 0 h
      have := congrArg List.length hd
      simp [steps] at this
      omega
theorem nodup_preorderFromAll : (cs : List Tree) → (above : List (Nat × Tree)) →
    (parent : Tree) → (i : Nat) → (preorderFromAll above parent i cs).Nodup
  | [], _, _, _ => by simp [preorderFromAll]
  | c :: cs, above, parent, i => by
      rw [preorderFromAll, List.nodup_append]
      refine ⟨nodup_preorderFrom c _, nodup_preorderFromAll cs above parent (i + 1), ?_⟩
      rintro s hs u hu rfl
      -- the step below the common parent is `i` on the left and above `i` on the right
      obtain ⟨down, hd⟩ := steps_of_mem_preorderFrom c _ hs
      obtain ⟨down', j, hj, hd'⟩ := steps_of_mem_preorderFromAll cs above parent (i + 1) hu
      have hsteps := hd.symm.trans hd'
      have hij := (List.append_inj' hsteps (by simp)).2
      simp only [List.map_cons, List.cons.injEq] at hij
      omega
end

theorem nodup_preorder (s : Site) : s.preorder.Nodup := nodup_preorderFrom s.tree s.above

end Site

end Treebank
