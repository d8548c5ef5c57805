import Mathlib.Data.List.Nodup
import Treebank.Proofs.Relation.Walk

/-!
# The order of candidates

The nodes that a node stands in a relation to are listed in the preorder of the tree, or against it
where they are nodes above, the nearest first. Either way no node is listed twice.
-/

namespace Treebank

namespace Site

variable {next : Site → List Site} {test : String → Bool} {f : Site → List Site} {pick : Pick}
  {s u : Site} {t : Tree}

/-! ## Steps -/

theorem mem_children : u ∈ s.children ↔
    ∃ i c, s.tree.children[i]? = some c ∧ u = ⟨c, (i, s.tree) :: s.above⟩ := by
  simp only [children, List.mem_map, Prod.exists, List.mem_zipIdx_iff_getElem?]
  constructor
  · rintro ⟨c, i, hc, rfl⟩
    exact ⟨i, c, hc, rfl⟩
  · rintro ⟨i, c, hc, rfl⟩
    exact ⟨c, i, hc, rfl⟩

theorem child?_eq (s : Site) (i : Nat) : s.child? i = s.children[i]? := by
  rw [child?, children, List.getElem?_map, List.getElem?_zipIdx]
  simp [Function.comp_def]

theorem sizeOf_lt_of_mem_children (hu : u ∈ s.children) : sizeOf u.tree < sizeOf s.tree := by
  obtain ⟨i, c, hc, rfl⟩ := mem_children.mp hu
  obtain ⟨⟨l, cs⟩, above⟩ := s
  have hlt := List.sizeOf_lt_of_mem (List.mem_of_getElem? hc)
  show sizeOf c < sizeOf (Tree.node l cs)
  rw [Tree.children] at hlt
  rw [Tree.node.sizeOf_spec]
  omega

theorem length_above_lt_of_parent? (hu : u ∈ s.parent?.toList) :
    u.above.length < s.above.length := by
  obtain ⟨x, _ | ⟨e, above⟩⟩ := s
  · cases hu
  · obtain rfl := List.mem_singleton.mp hu
    exact Nat.lt_succ_self _

theorem picked_sublist (pick : Pick) (s : Site) : (s.picked pick).Sublist s.children := by
  rw [picked]
  split
  · exact List.nil_sublist _
  · rename_i i _
    rw [child?_eq]
    cases hc : s.children[i]? with
    | none => exact List.nil_sublist _
    | some c => exact List.singleton_sublist.mpr (List.mem_of_getElem? hc)

theorem pickedBy_sublist (pick : Pick) (s : Site) :
    (s.pickedBy pick).Sublist s.parent?.toList := by
  obtain ⟨x, _ | ⟨⟨i, p⟩, above⟩⟩ := s
  · exact .refl _
  · simp only [pickedBy]
    split
    · exact .refl _
    · exact List.nil_sublist _

/-! ## Nodes below and nodes above -/

theorem sublist_descendants (h : Collects next test f) (hnext : ∀ s, (next s).Sublist s.children)
    (s : Site) : (f s).Sublist s.descendants := by
  have hsize : ∀ s : Site, ∀ c ∈ s.children, sizeOf c.tree < sizeOf s.tree :=
    fun _ _ => sizeOf_lt_of_mem_children
  exact h.sublist collects_descendants hnext hsize

theorem sublist_ancestors (h : Collects next test f)
    (hnext : ∀ s, (next s).Sublist s.parent?.toList) (s : Site) : (f s).Sublist s.ancestors := by
  have hsize : ∀ s : Site, ∀ p ∈ s.parent?.toList, p.above.length < s.above.length :=
    fun _ _ => length_above_lt_of_parent?
  exact h.sublist collects_ancestors hnext hsize

theorem Collects.mem_iff_down (h : Collects next test f)
    (hnext : ∀ s, (next s).Sublist s.children) : u ∈ f s ↔ Walk next test s u := by
  have hsize : ∀ s, ∀ c ∈ next s, sizeOf c.tree < sizeOf s.tree :=
    fun s _ hc => sizeOf_lt_of_mem_children ((hnext s).subset hc)
  exact h.mem_iff hsize

theorem Collects.mem_iff_up (h : Collects next test f)
    (hnext : ∀ s, (next s).Sublist s.parent?.toList) : u ∈ f s ↔ Walk next test s u := by
  have hsize : ∀ s, ∀ p ∈ next s, p.above.length < s.above.length :=
    fun s _ hp => length_above_lt_of_parent? ((hnext s).subset hp)
  exact h.mem_iff hsize

theorem mem_descendants : u ∈ s.descendants ↔ Walk children (fun _ => true) s u :=
  collects_descendants.mem_iff_down fun _ => .refl _

theorem children_sublist (s : Site) : s.children.Sublist s.descendants :=
  collects_descendants.next_sublist

theorem preorder_sublist_descendants (hu : u ∈ s.children) :
    u.preorder.Sublist s.descendants := by
  rw [collects_descendants s, preorder_eq]
  exact List.sublist_flatten_of_mem (List.mem_map_of_mem hu)

/-- The nodes above from the topmost one on, the node and those below stand in the preorder in this
order. -/
theorem ancestors_preorder_sublist (hs : In t s) :
    (s.ancestors.reverse ++ s.preorder).Sublist (top t).preorder := by
  induction hs with
  | top => exact .refl _
  | @child p c above i hp hc ih =>
      have hchild : (⟨c, (i, p) :: above⟩ : Site) ∈ (Site.mk p above).children :=
        mem_children.mpr ⟨i, c, hc, rfl⟩
      have hancestors : (Site.mk c ((i, p) :: above)).ancestors =
          ⟨p, above⟩ :: (Site.mk p above).ancestors := rfl
      rw [preorder_eq] at ih
      rw [hancestors, List.reverse_cons, List.append_assoc, List.singleton_append]
      exact (((preorder_sublist_descendants hchild).cons_cons _).append_left _).trans ih

theorem preorder_sublist (hs : In t s) : s.preorder.Sublist (top t).preorder :=
  (List.sublist_append_right _ _).trans (ancestors_preorder_sublist hs)

theorem descendants_sublist (hs : In t s) : s.descendants.Sublist (top t).preorder := by
  refine .trans ?_ (preorder_sublist hs)
  rw [preorder_eq]
  exact List.sublist_cons_self _ _

theorem ancestors_sublist (hs : In t s) : s.ancestors.reverse.Sublist (top t).preorder :=
  (List.sublist_append_left _ _).trans (ancestors_preorder_sublist hs)

theorem sistersBy_sublist (test : Nat → Nat → Bool) (hs : In t s) :
    (s.sistersBy test).Sublist (top t).preorder := by
  obtain ⟨x, _ | ⟨⟨i, p⟩, above⟩⟩ := s
  · exact List.nil_sublist _
  · have hall := (children_sublist ⟨p, above⟩).trans (descendants_sublist hs.parent)
    refine .trans (List.filter_sublist.map _) ?_
    rw [List.map_map]
    exact hall

/-- The number of a node in the preorder of the tree. -/
def place (t : Tree) (s : Site) : Nat := (top t).preorder.idxOf s

theorem pairwise_place (t : Tree) : (top t).preorder.Pairwise fun a b => place t a < place t b := by
  rw [List.pairwise_iff_getElem]
  intro i j hi hj hij
  rw [place, place, (nodup_preorder _).idxOf_getElem, (nodup_preorder _).idxOf_getElem]
  exact hij

end Site

namespace Relation

variable {t : Tree} {s u : Site} {r : Relation}

/-- The relation leads to nodes above. -/
def leadsUp : Relation → Bool
  | childOf | dominatedBy | immediateHeadOf | headOf | firstChildOf | lastChildOf | onlyChildOf
  | leftmostDescendantOf | rightmostDescendantOf | unaryPathFrom | ithChildOf _
  | dominatedByVia _ => true
  | _ => false

theorem spanning_sublist {g : Grounds} {nodes : List Site} (hg : g.nodes.map (·.1) = nodes)
    (test : Span → Span → Bool) : (spanning g s test).Sublist nodes := by
  rw [← hg]
  exact List.filter_sublist.map _

theorem candidates_sublist_ancestors {g : Grounds} (h : r.leadsUp = true) :
    (r.candidates g s).Sublist s.ancestors := by
  have hparent : s.parent?.toList.Sublist s.ancestors := Site.collects_ancestors.next_sublist
  cases r <;> cases h <;> simp only [candidates]
  case childOf => exact hparent
  case dominatedBy => exact .refl _
  case immediateHeadOf | firstChildOf | lastChildOf | onlyChildOf | ithChildOf =>
      exact (Site.pickedBy_sublist _ s).trans hparent
  case headOf | leftmostDescendantOf | rightmostDescendantOf | unaryPathFrom =>
      exact Site.sublist_ancestors (Site.collects_pickedUp _) (Site.pickedBy_sublist _) s
  case dominatedByVia =>
      exact Site.sublist_ancestors (Site.collects_climbThrough _) (fun _ => .refl _) s

/-- A relation that does not lead up leads to nodes below, to sisters, to nodes told by the words that
they cover, or to the node itself. -/
theorem candidates_cases {g : Grounds} (h : r.leadsUp = false) :
    (r.candidates g s).Sublist s.descendants ∨
      (∃ test, (∀ i, test i i = false) ∧ r.candidates g s = s.sistersBy test) ∨
      (∃ test, (∀ span : Span, span.start < span.stop → test span span = false) ∧
        r.candidates g s = spanning g s test) ∨
      r = identity := by
  cases r <;> cases h <;> simp only [candidates]
  case parentOf => exact .inl (Site.children_sublist s)
  case dominates => exact .inl (.refl _)
  case dominatesVia =>
      exact .inl (Site.sublist_descendants (Site.collects_descendThroughAll _) (fun _ => .refl _) s)
  case immediatelyHeadedBy | firstChild | lastChild | onlyChild | ithChild =>
      exact .inl ((Site.picked_sublist _ s).trans (Site.children_sublist s))
  case headedBy | leftmostDescendant | rightmostDescendant | unaryPathTo =>
      exact .inl (Site.sublist_descendants (Site.collects_pickedDown _) (Site.picked_sublist _) s)
  case sister | immediateLeftSister | immediateRightSister | leftSister | rightSister =>
      exact .inr (.inl ⟨_, fun i => by simp, rfl⟩)
  case immediatelyPrecedes | precedes | immediatelyFollows | follows =>
      exact .inr (.inr (.inl ⟨_, fun span hspan => by simp; omega, rfl⟩))
  case identity => exact .inr (.inr (.inr trivial))

theorem candidates_sublist_preorder {head : HeadFinder} {category : BasicCategory}
    (hs : Site.In t s) (h : r.leadsUp = false) :
    (r.candidates (.ofTree t head category) s).Sublist (Site.top t).preorder := by
  rcases candidates_cases h with hbelow | ⟨test, -, heq⟩ | ⟨test, -, heq⟩ | rfl
  · exact hbelow.trans (Site.descendants_sublist hs)
  · rw [heq]
    exact Site.sistersBy_sublist test hs
  · rw [heq]
    exact spanning_sublist (Grounds.nodes_ofTree t head category) test
  · exact List.singleton_sublist.mpr (Site.mem_preorder_top.mpr hs)

/-- Candidates stand in the preorder of the tree, or against it for the relations that lead up. -/
theorem pairwise_candidates (head : HeadFinder) (category : BasicCategory) (r : Relation)
    (hs : Site.In t s) : (r.candidates (.ofTree t head category) s).Pairwise fun a b =>
      if r.leadsUp then Site.place t b < Site.place t a else Site.place t a < Site.place t b := by
  cases hup : r.leadsUp with
  | false => simpa using (Site.pairwise_place t).sublist (candidates_sublist_preorder hs hup)
  | true =>
      have habove := (Site.pairwise_place t).sublist (Site.ancestors_sublist hs)
      simpa using (List.pairwise_reverse.mp habove).sublist (candidates_sublist_ancestors hup)

end Relation

end Treebank
