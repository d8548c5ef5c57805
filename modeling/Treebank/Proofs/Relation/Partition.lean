import Treebank.Proofs.Relation.Converse

/-!
# Dominance and precedence

Of two nodes of a tree either both are one node, or one of them is above the other, or the words of
one stand before those of the other; no two of these are the case at a time.
-/

namespace Treebank

namespace Site

variable {s u : Site} {t : Tree}

theorem sizeOf_lt_of_mem_descendants (h : u ∈ s.descendants) : sizeOf u.tree < sizeOf s.tree := by
  rw [mem_descendants] at h
  induction h with
  | step hu => exact sizeOf_lt_of_mem_children hu
  | cons hm _ _ ih => exact Nat.lt_trans ih (sizeOf_lt_of_mem_children hm)

theorem exists_child_of_mem_descendants (h : u ∈ s.descendants) :
    ∃ c ∈ s.children, u = c ∨ u ∈ c.descendants := by
  rw [collects_descendants s, List.mem_flatMap] at h
  obtain ⟨c, hc, hu⟩ := h
  exact ⟨c, hc, by simpa using hu⟩

theorem mem_descendants_child {c : Site} (hs : s ∈ u.descendants) (hc : c ∈ s.children) :
    c ∈ u.descendants := by
  rw [mem_descendants] at hs ⊢
  exact hs.concat rfl hc

/-- Two nodes are one, or one of them is above the other, or one covers words before the other. -/
theorem In.cases_pair (hs : In t s) (hu : In t u) :
    u = s ∨ u ∈ s.descendants ∨ s ∈ u.descendants ∨ s.span.stop ≤ u.span.start ∨
      u.span.stop ≤ s.span.start := by
  -- going down from the top to the first node, the second one keeps its place or takes a new one
  induction hs with
  | top =>
      have hmem := mem_preorder_top.mpr hu
      rw [preorder_eq] at hmem
      rcases List.mem_cons.mp hmem with rfl | hbelow
      · exact .inl rfl
      · exact .inr (.inl hbelow)
  | @child p c above i hp hc ih =>
      have hchild : (Site.mk p above).child? i = some ⟨c, (i, p) :: above⟩ := by
        simp [child?, hc]
      have hmem : (⟨c, (i, p) :: above⟩ : Site) ∈ (Site.mk p above).children :=
        mem_children.mpr ⟨i, c, hc, rfl⟩
      have hspan := span_child_le hchild
      rcases ih with rfl | hbelow | habove | hbefore | hafter
      · exact .inr (.inr (.inl ((children_sublist _).subset hmem)))
      · obtain ⟨d, hd, hu⟩ := exists_child_of_mem_descendants hbelow
        obtain ⟨j, hj⟩ := exists_child?_of_mem_children hd
        have hinner : d.span.start ≤ u.span.start ∧ u.span.stop ≤ d.span.stop := by
          rcases hu with rfl | hu
          · exact ⟨Nat.le_refl _, Nat.le_refl _⟩
          · exact span_descendant_le hu
        rcases Nat.lt_trichotomy i j with hij | rfl | hij
        · have hle := span_sisters_le hchild hj hij
          exact .inr (.inr (.inr (.inl (Nat.le_trans hle hinner.1))))
        · obtain rfl := Option.some.inj (hchild.symm.trans hj)
          exact hu.imp_right .inl
        · have hle := span_sisters_le hj hchild hij
          exact .inr (.inr (.inr (.inr (Nat.le_trans hinner.2 hle))))
      · exact .inr (.inr (.inl (mem_descendants_child habove hmem)))
      · exact .inr (.inr (.inr (.inl (Nat.le_trans hspan.2 hbefore))))
      · exact .inr (.inr (.inr (.inr (Nat.le_trans hafter hspan.1))))

end Site

namespace Relation

variable {t : Tree} {s u : Site} {head : HeadFinder} {category : BasicCategory}

/-- Identity, dominance and precedence, either way. -/
def positions : List Relation := [identity, dominates, dominatedBy, precedes, follows]

theorem mem_precedes (hu : Site.In t u) :
    u ∈ precedes.candidates (.ofTree t head category) s ↔ s.span.stop ≤ u.span.start := by
  simp [candidates, mem_spanning, hu]

theorem mem_follows (hu : Site.In t u) :
    u ∈ follows.candidates (.ofTree t head category) s ↔ u.span.stop ≤ s.span.start := by
  simp [candidates, mem_spanning, hu]

theorem mem_dominatedBy (hs : Site.In t s) (hu : Site.In t u) :
    u ∈ dominatedBy.candidates (.ofTree t head category) s ↔ s ∈ u.descendants :=
  mem_candidates_converse hs hu

/-- What the relation says of the sizes of two nodes and of the words that they cover. -/
theorem bounds_of_mem_positions {r : Relation} (hr : r ∈ positions) (hs : Site.In t s)
    (hu : Site.In t u) (h : u ∈ r.candidates (.ofTree t head category) s) :
    (r = identity ∧ sizeOf u.tree = sizeOf s.tree ∧ u.span.start = s.span.start ∧
        u.span.stop = s.span.stop) ∨
      (r = dominates ∧ sizeOf u.tree < sizeOf s.tree ∧ s.span.start ≤ u.span.start ∧
        u.span.stop ≤ s.span.stop) ∨
      (r = dominatedBy ∧ sizeOf s.tree < sizeOf u.tree ∧ u.span.start ≤ s.span.start ∧
        s.span.stop ≤ u.span.stop) ∨
      (r = precedes ∧ s.span.stop ≤ u.span.start) ∨
      (r = follows ∧ u.span.stop ≤ s.span.start) := by
  simp only [positions, List.mem_cons, List.not_mem_nil, or_false] at hr
  rcases hr with rfl | rfl | rfl | rfl | rfl
  · obtain rfl := List.mem_singleton.mp h
    exact .inl ⟨rfl, rfl, rfl, rfl⟩
  · exact .inr (.inl ⟨rfl, Site.sizeOf_lt_of_mem_descendants h, Site.span_descendant_le h⟩)
  · have habove := (mem_dominatedBy hs hu).mp h
    exact .inr (.inr (.inl
      ⟨rfl, Site.sizeOf_lt_of_mem_descendants habove, Site.span_descendant_le habove⟩))
  · exact .inr (.inr (.inr (.inl ⟨rfl, (mem_precedes hu).mp h⟩)))
  · exact .inr (.inr (.inr (.inr ⟨rfl, (mem_follows hu).mp h⟩)))

theorem eq_of_mem_positions {r r' : Relation} (hr : r ∈ positions) (hr' : r' ∈ positions)
    (hs : Site.In t s) (hu : Site.In t u) (h : u ∈ r.candidates (.ofTree t head category) s)
    (h' : u ∈ r'.candidates (.ofTree t head category) s) : r = r' := by
  have hspan := s.start_lt_stop
  have hspan' := u.start_lt_stop
  rcases bounds_of_mem_positions hr hs hu h with
    ⟨rfl, hbounds⟩ | ⟨rfl, hbounds⟩ | ⟨rfl, hbounds⟩ | ⟨rfl, hbounds⟩ | ⟨rfl, hbounds⟩ <;>
  rcases bounds_of_mem_positions hr' hs hu h' with
    ⟨rfl, hbounds'⟩ | ⟨rfl, hbounds'⟩ | ⟨rfl, hbounds'⟩ | ⟨rfl, hbounds'⟩ | ⟨rfl, hbounds'⟩
  -- the bounds of two different positions contradict each other
  all_goals first | rfl | omega

theorem exists_position (head : HeadFinder) (category : BasicCategory) (hs : Site.In t s)
    (hu : Site.In t u) : ∃ r ∈ positions, u ∈ r.candidates (.ofTree t head category) s := by
  rcases hs.cases_pair hu with rfl | hbelow | habove | hbefore | hafter
  · exact ⟨identity, by simp [positions], List.mem_singleton_self u⟩
  · exact ⟨dominates, by simp [positions], hbelow⟩
  · exact ⟨dominatedBy, by simp [positions], (mem_dominatedBy hs hu).mpr habove⟩
  · exact ⟨precedes, by simp [positions], (mem_precedes hu).mpr hbefore⟩
  · exact ⟨follows, by simp [positions], (mem_follows hu).mpr hafter⟩

end Relation

/-- Exactly one of identity, dominance and precedence, either way, holds of two nodes of a tree. Each
node covers some words, which are those between the ends of its span in the words of the tree, and the
spans of its children stand side by side and cover that of the node. -/
theorem dominance_and_precedence (t : Tree) (head : HeadFinder) (category : BasicCategory)
    {s u : Site} (hs : Site.In t s) (hu : Site.In t u) :
    (∃! r, r ∈ Relation.positions ∧ u ∈ r.candidates (.ofTree t head category) s) ∧
      s.span.start < s.span.stop ∧
      (s.tree.children ≠ [] →
        Site.Tiles s.span.start s.span.stop (s.children.map Site.span)) ∧
      (t.words.drop s.span.start).take (s.span.stop - s.span.start) = s.tree.words := by
  refine ⟨?_, s.start_lt_stop, Site.tiles_children, Site.words_eq hs⟩
  obtain ⟨r, hr, hmem⟩ := Relation.exists_position head category hs hu
  refine ⟨r, ⟨hr, hmem⟩, ?_⟩
  rintro r' ⟨hr', hmem'⟩
  exact Relation.eq_of_mem_positions hr' hr hs hu hmem' hmem

/-- A phrase and the one word in it have the same span, and still only one of the relations puts them
together. -/
theorem dominance_and_precedence_in_phrase :
    let phrase := Tree.node "NP" [.node "NN" [.leaf "dog"]]
    let t := Tree.node "S" [phrase, .node "PP" []]
    let s : Site := ⟨phrase, [(0, t)]⟩
    let u : Site := ⟨.leaf "dog", [(0, .node "NN" [.leaf "dog"]), (0, phrase), (0, t)]⟩
    Site.In t s ∧ Site.In t u ∧ s.span = u.span ∧
      (∃! r, r ∈ Relation.positions ∧
        u ∈ r.candidates (.ofTree t HeadFinder.firstChild id) s) ∧
      (t.words.drop s.span.start).take (s.span.stop - s.span.start) = ["dog"] := by
  intro phrase t s u
  have hs : Site.In t s := .child .top rfl
  have hu : Site.In t u := .child (.child hs rfl) rfl
  have hpair := dominance_and_precedence t HeadFinder.firstChild id hs hu
  exact ⟨hs, hu, rfl, hpair.1, hpair.2.2.2⟩

end Treebank
