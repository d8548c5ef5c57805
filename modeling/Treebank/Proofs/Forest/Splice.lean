import Treebank.Proofs.Forest.Edit
import Treebank.Proofs.Forest.Preorder

/-!
# Putting what is below a node into its slot

Below a node there are nodes of which none is below another, such as its children, or a single node.
When these are put into the slot of the node, in their order, the tree keeps what hangs from them and
what is not below the node; the rest leaves it. What is kept is met in the same order as before.
-/

namespace Treebank.Forest

variable {f f' : Forest} {a b c n m p r : Nat} {cs : List Nat}

/-! ## Layers -/

/-- The first node is the second one or is met on the way up from it. -/
def spans (f : Forest) (a n : NodeId) : Bool := a == n || f.dominates a n

theorem WellFormed.spans_iff (h : f.WellFormed) : f.spans a n = true ↔ f.Covers a n := by
  rw [spans, Bool.or_eq_true, beq_iff_eq, h.dominates_iff]
  constructor
  · rintro (rfl | ⟨hcov, _⟩)
    · exact .self
    · exact hcov
  · intro hcov
    by_cases hne : a = n
    · exact Or.inl hne
    · exact Or.inr ⟨hcov, hne⟩

/-- The node is kept if of what stands below `a`, and `a` itself, only that is kept which hangs from
the nodes `cs`. -/
def isKept (f : Forest) (a : NodeId) (cs : List NodeId) (n : NodeId) : Bool :=
  !f.spans a n || cs.any (f.spans · n)

theorem WellFormed.isKept_iff (h : f.WellFormed) :
    f.isKept a cs n = true ↔ ¬f.Covers a n ∨ ∃ c ∈ cs, f.Covers c n := by
  simp only [isKept, Bool.or_eq_true, Bool.not_eq_true', List.any_eq_true, h.spans_iff]
  rw [← Bool.not_eq_true, h.spans_iff]

/-- The nodes stand below `a` and none of them below another; the walk down from `a` meets what hangs
from them in their order. -/
structure Layer (f : Forest) (a : NodeId) (cs : List NodeId) : Prop where
  below : ∀ c ∈ cs, f.Covers a c ∧ a ≠ c
  apart : ∀ c ∈ cs, ∀ d ∈ cs, f.Covers c d → c = d
  order : (f.preorder a).filter (f.isKept a cs) = cs.flatMap f.preorder

/-- The children of one node do not cover one another. -/
theorem WellFormed.eq_of_covers_sibling (h : f.WellFormed) (hb : f.parent? b = some p)
    (hc : f.parent? c = some p) (hcov : f.Covers b c) : b = c := by
  by_cases hne : b = c
  · exact hne
  · exact absurd (hcov.parent hne hc) ((h.grounded b).not_covers hb)

theorem WellFormed.filter_preorder_children (h : f.WellFormed) (a : NodeId) :
    (f.preorder a).filter (f.isKept a (f.children a)) = (f.children a).flatMap f.preorder := by
  have htop : ¬f.isKept a (f.children a) a = true := by
    rw [h.isKept_iff]
    rintro (hnot | ⟨c, hc, hcov⟩)
    · exact hnot .self
    · exact (h.grounded c).not_covers (h.mem_children.mp hc) hcov
  rw [h.preorder_eq, List.filter_cons_of_neg htop, List.filter_eq_self]
  intro n hn
  obtain ⟨c, hc, hn⟩ := List.mem_flatMap.mp hn
  exact h.isKept_iff.mpr (Or.inr ⟨c, hc, h.mem_preorder.mp hn⟩)

theorem WellFormed.layer_children (h : f.WellFormed) (a : NodeId) : f.Layer a (f.children a) where
  below c hc := by
    have hp := h.mem_children.mp hc
    exact ⟨.under hp .self, ((h.grounded c).ne_parent hp).symm⟩
  apart c hc d hd := h.eq_of_covers_sibling (h.mem_children.mp hc) (h.mem_children.mp hd)
  order := h.filter_preorder_children a

theorem Covers.exists_child (h : f.Covers a b) (hne : a ≠ b) :
    ∃ c, f.parent? c = some a ∧ f.Covers c b := by
  induction h with
  | self => exact absurd rfl hne
  | @under n p hp hcov ih =>
      by_cases hap : a = p
      · subst hap
        exact ⟨n, hp, .self⟩
      · obtain ⟨c, hc, hcp⟩ := ih hap
        exact ⟨c, hc, .under hp hcp⟩

/-- Of the children of a node, only one has a given node below it; what hangs from the others is not
below that node. -/
theorem WellFormed.not_covers_beside (h : f.WellFormed) {d : NodeId} (hc : f.parent? c = some a)
    (hcb : f.Covers c b) (hd : f.parent? d = some a) (hdc : d ≠ c) (hdn : f.Covers d n) :
    ¬f.Covers b n := by
  intro hbn
  rcases hdn.linear hbn with hdb | hbd
  · rcases hdb.linear hcb with hcov | hcov
    · exact hdc (h.eq_of_covers_sibling hd hc hcov)
    · exact hdc (h.eq_of_covers_sibling hc hd hcov).symm
  · exact hdc (h.eq_of_covers_sibling hc hd (hcb.trans hbd)).symm

theorem WellFormed.filter_preorder_sibling (h : f.WellFormed) {d : NodeId} (hc : f.parent? c = some a)
    (hcb : f.Covers c b) (hd : f.parent? d = some a) (hdc : d ≠ c) :
    (f.preorder d).filter (f.spans b) = [] := by
  rw [List.filter_eq_nil_iff]
  intro n hn hbn
  exact h.not_covers_beside hc hcb hd hdc (h.mem_preorder.mp hn) (h.spans_iff.mp hbn)

theorem flatMap_eq_of_others_nil {α β : Type} {g : α → List β} {x : α} {xs : List α}
    (hnodup : xs.Nodup) (hx : x ∈ xs) (hothers : ∀ y ∈ xs, y ≠ x → g y = []) :
    xs.flatMap g = g x := by
  obtain ⟨l₁, l₂, rfl⟩ := List.append_of_mem hx
  rw [List.nodup_middle, List.nodup_cons] at hnodup
  have hnil : ∀ y ∈ l₁ ++ l₂, g y = [] := by
    intro y hy
    refine hothers y ?_ fun hyx => hnodup.1 (hyx ▸ hy)
    rcases List.mem_append.mp hy with hy | hy
    · exact List.mem_append_left _ hy
    · exact List.mem_append_right _ (List.mem_cons_of_mem x hy)
  obtain ⟨hl₁, hl₂⟩ := List.forall_mem_append.mp hnil
  rw [List.flatMap_append, List.flatMap_cons, List.flatMap_eq_nil_iff.mpr hl₁,
    List.flatMap_eq_nil_iff.mpr hl₂, List.nil_append, List.append_nil]

/-- The walk down from a node meets what hangs from one below it all at once. -/
theorem WellFormed.filter_preorder_spans (h : f.WellFormed) (hcov : f.Covers a b) :
    (f.preorder a).filter (f.spans b) = f.preorder b := by
  induction a using h.induction_down with
  | node a ih =>
      by_cases hne : a = b
      · subst hne
        rw [List.filter_eq_self]
        exact fun n hn => h.spans_iff.mpr (h.mem_preorder.mp hn)
      · obtain ⟨c, hc, hcb⟩ := hcov.exists_child hne
        have hmem := h.mem_children.mpr hc
        have htop : ¬f.spans b a = true := by
          rw [h.spans_iff]
          exact fun hba => hne ((h.grounded b).eq_of_covers hcov hba)
        rw [h.preorder_eq, List.filter_cons_of_neg htop, List.filter_flatMap, ← ih c hmem hcb]
        apply flatMap_eq_of_others_nil (h.nodup_children a) hmem
        intro d hd hdc
        exact h.filter_preorder_sibling hc hcb (h.mem_children.mp hd) hdc

theorem WellFormed.layer_single (h : f.WellFormed) (hcov : f.Covers a b) (hne : a ≠ b) :
    f.Layer a [b] where
  below c hc := List.mem_singleton.mp hc ▸ ⟨hcov, hne⟩
  apart c hc d hd _ := (List.mem_singleton.mp hc).trans (List.mem_singleton.mp hd).symm
  order := by
    rw [List.flatMap_singleton, ← h.filter_preorder_spans hcov]
    apply List.filter_congr
    intro n hn
    have hspans := h.spans_iff.mpr (h.mem_preorder.mp hn)
    simp [isKept, hspans]

/-! ## Splicing -/

/-- The second forest comes from the first one by taking the nodes `cs` from where they stand and
putting them into the slot of `a`, if it has one. -/
structure Spliced (f f' : Forest) (a : NodeId) (cs : List NodeId) : Prop where
  wellFormed : f'.WellFormed
  size_eq : f'.size = f.size
  label_eq : ∀ n, f'.label n = f.label n
  parent?_eq : ∀ n, f'.parent? n =
    if n ∈ cs then f.parent? a else if n = a then none else f.parent? n
  slot : ∀ p, f.parent? a = some p →
    f'.children p = (f.children p).flatMap fun c => if c = a then cs else [c]
  elsewhere : ∀ n, f.parent? a ≠ some n → f'.children n = (f.children n).filter (· ∉ cs)

/-- At the top of a tree there is no slot to be filled. -/
theorem Released.spliced_top (h : f.Released f' cs) (ha : f.parent? a = none) :
    f.Spliced f' a cs where
  wellFormed := h.moves.wellFormed
  size_eq := h.moves.size_eq
  label_eq := h.label_eq
  parent?_eq n := by
    rw [h.moves.parent?_eq, ha]
    split
    · rfl
    · split
      · rename_i hna
        rw [hna, ha]
      · rfl
  slot p hp := by
    rw [ha] at hp
    cases hp
  elsewhere n _ := h.children_eq n

/-- The nodes taken to the top are put into the slot. -/
theorem Released.spliced_slot {f₁ f₂ : Forest} (h : f.Released f₁ cs) (hf : f.WellFormed)
    (hcs : ∀ c ∈ cs, f.Covers a c ∧ a ≠ c) (hp : f.parent? a = some p)
    (hout : f₁.Moves f' [a] none) (hin : f'.Moves f₂ cs (some p))
    (hgroup : f₁.Regroups f₂ p ((f₁.children p).flatMap fun c => if c = a then cs else [c])) :
    f.Spliced f₂ a cs where
  wellFormed := hin.wellFormed
  size_eq := hin.size_eq.trans (hout.size_eq.trans h.moves.size_eq)
  label_eq n := (hgroup.label_eq n).trans (h.label_eq n)
  parent?_eq n := by
    rw [hin.parent?_eq, hout.parent?_eq, h.moves.parent?_eq, hp]
    by_cases hn : n ∈ cs
    · simp [hn]
    · simp [hn]
  slot q hq := by
    rw [hp, Option.some.injEq] at hq
    subst hq
    have hsisters : (f.children p).filter (· ∉ cs) = f.children p := by
      refine filter_not_mem_eq_self fun c hc hmem => ?_
      obtain ⟨hac, hne⟩ := hcs c hmem
      exact (hf.grounded a).not_covers hp (hac.parent hne (hf.mem_children.mp hc))
    rw [hgroup.children_at, h.children_eq, hsisters]
  elsewhere n hn := by
    have hnp : n ≠ p := by
      rintro rfl
      exact hn hp
    rw [hgroup.children_ne n hnp, h.children_eq]

namespace Spliced

variable (h : f.Spliced f' a cs) (hf : f.WellFormed) (hcs : f.Layer a cs)
include h hf hcs

/-- What hangs from the nodes put into the slot has the children it had. -/
theorem children_of_covers (hc : c ∈ cs) (hcov : f.Covers c n) : f'.children n = f.children n := by
  obtain ⟨hac, hne⟩ := hcs.below c hc
  rw [h.elsewhere, filter_not_mem_eq_self]
  · intro d hd hdcs
    have hp := hf.mem_children.mp hd
    obtain rfl := hcs.apart c hc d hdcs (.under hp hcov)
    exact (hf.grounded c).not_covers hp hcov
  · intro hp
    exact hne ((hf.grounded c).eq_of_covers hac (.under hp hcov))

theorem below (hc : c ∈ cs) (hcov : f.Covers c n) :
    f'.preorder n = f.preorder n ∧ f'.tree n = f.tree n :=
  hf.same_below h.wellFormed fun m hm =>
    ⟨h.label_eq m, h.children_of_covers hf hcs hc (hcov.trans hm)⟩

/-- What is not below the node has the children it had, with the slot filled anew. -/
theorem children_of_not_covers (hn : ¬f.Covers a n) :
    f'.children n = (f.children n).flatMap fun c => if c = a then cs else [c] := by
  by_cases hslot : f.parent? a = some n
  · exact h.slot n hslot
  · have hsame : ∀ c ∈ f.children n, c ∉ cs ∧ c ≠ a := by
      intro c hc
      have hp := hf.mem_children.mp hc
      constructor
      · intro hccs
        obtain ⟨hac, hne⟩ := hcs.below c hccs
        exact hn (hac.parent hne hp)
      · rintro rfl
        exact hslot hp
    have hothers : (f.children n).flatMap (fun c => if c = a then cs else [c]) =
        (f.children n).flatMap fun c => [c] :=
      List.flatMap_congr fun c hc => if_neg (hsame c hc).2
    rw [h.elsewhere n hslot, hothers, List.flatMap_singleton']
    exact filter_not_mem_eq_self fun c hc => (hsame c hc).1

/-- The walk from a node that is not below meets what is kept, in the same order as before. -/
theorem preorder_of_not_covers (hn : ¬f.Covers a n) :
    f'.preorder n = (f.preorder n).filter (f.isKept a cs) := by
  induction n using hf.induction_down with
  | node n ih =>
      have hkept : f.isKept a cs n = true := hf.isKept_iff.mpr (Or.inl hn)
      rw [hf.preorder_eq, h.wellFormed.preorder_eq, h.children_of_not_covers hf hcs hn,
        List.filter_cons_of_pos hkept, List.filter_flatMap, List.flatMap_assoc]
      refine congrArg (n :: ·) (List.flatMap_congr fun c hc => ?_)
      by_cases hca : c = a
      · subst hca
        rw [if_pos rfl, hcs.order]
        exact List.flatMap_congr fun d hd => (h.below hf hcs hd .self).1
      · rw [if_neg hca, List.flatMap_singleton]
        apply ih c hc
        exact fun hac => hn (hac.parent (Ne.symm hca) (hf.mem_children.mp hc))

/-- The top of the tree after nodes were put into the slot of `a`: at the top of the tree there is one
such node, and it becomes the top. -/
theorem preorder_top {r' : NodeId} (hr : f.parent? r = none)
    (hroot : if a = r then cs = [r'] else r' = r) :
    f'.preorder r' = (f.preorder r).filter (f.isKept a cs) := by
  split at hroot
  · rename_i har
    subst har hroot
    rw [hcs.order, List.flatMap_singleton]
    exact (h.below hf hcs (List.mem_singleton_self r') .self).1
  · rename_i har
    subst hroot
    exact h.preorder_of_not_covers hf hcs fun hcov => har (hcov.of_top hr)

end Spliced

end Treebank.Forest
