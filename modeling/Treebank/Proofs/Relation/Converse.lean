import Treebank.Proofs.Relation.Span

/-!
# Relations and their converses

Every relation has a converse: a node is a candidate of a relation at another node if and only if the
other one is a candidate of the converse at it. Together with the order of the candidates this is the
main statement of the module.
-/

namespace Treebank

namespace Site

variable {next back : Site → List Site} {test : String → Bool} {f g : Site → List Site}
  {pick : Pick} {s u : Site} {t : Tree}

/-! ## Single steps -/

theorem mem_parent? : s ∈ u.parent?.toList ↔ ∃ i, u.above = (i, s.tree) :: s.above := by
  obtain ⟨x, _ | ⟨⟨i, p⟩, above⟩⟩ := u
  · simp [parent?]
  · obtain ⟨y, above'⟩ := s
    simp [parent?, eq_comm]

theorem In.mem_children_iff (hu : In t u) : u ∈ s.children ↔ s ∈ u.parent?.toList := by
  rw [mem_children, mem_parent?]
  constructor
  · rintro ⟨i, c, _, rfl⟩
    exact ⟨i, rfl⟩
  · rintro ⟨i, habove⟩
    cases hu with
    | top => cases habove
    | child _ hc =>
        cases habove
        exact ⟨i, _, hc, rfl⟩

theorem mem_pickedBy : s ∈ u.pickedBy pick ↔
    ∃ i, u.above = (i, s.tree) :: s.above ∧ pick s = some i := by
  obtain ⟨x, _ | ⟨⟨i, p⟩, above⟩⟩ := u
  · simp [pickedBy]
  · simp only [pickedBy, List.cons.injEq, Prod.mk.injEq]
    constructor
    · intro h
      split at h
      · rename_i hpick
        obtain rfl := List.mem_singleton.mp h
        exact ⟨i, ⟨⟨rfl, rfl⟩, rfl⟩, beq_iff_eq.mp hpick⟩
      · cases h
    · rintro ⟨j, ⟨⟨rfl, rfl⟩, rfl⟩, hpick⟩
      rw [if_pos (beq_iff_eq.mpr hpick)]
      exact List.mem_singleton_self s

theorem In.mem_picked_iff (hu : In t u) : u ∈ s.picked pick ↔ s ∈ u.pickedBy pick := by
  rw [mem_pickedBy]
  constructor
  · intro h
    rw [picked] at h
    split at h
    · cases h
    · rename_i i hpick
      obtain ⟨c, hc, rfl⟩ := Option.map_eq_some_iff.mp (Option.mem_toList.mp h)
      exact ⟨i, rfl, hpick⟩
  · rintro ⟨i, habove, hpick⟩
    cases hu with
    | top => cases habove
    | @child p c above j _ hc =>
        cases habove
        simp only [picked, hpick, child?, hc]
        simp

theorem mem_sistersBy {test : Nat → Nat → Bool} : u ∈ s.sistersBy test ↔
    ∃ i j p above, s.above = (i, p) :: above ∧ u.above = (j, p) :: above ∧
      p.children[j]? = some u.tree ∧ test i j = true := by
  obtain ⟨x, _ | ⟨⟨i, p⟩, above⟩⟩ := s
  · simp [sistersBy, family]
  · simp only [sistersBy, family, List.mem_map, List.mem_filter, Prod.exists, Prod.mk.injEq,
      List.mem_zipIdx_iff_getElem?, List.cons.injEq]
    constructor
    · rintro ⟨_, _, ⟨⟨c, j, hc, rfl, rfl⟩, htest⟩, rfl⟩
      exact ⟨i, j, p, above, ⟨⟨rfl, rfl⟩, rfl⟩, rfl, hc, htest⟩
    · rintro ⟨_, j, _, _, ⟨⟨rfl, rfl⟩, rfl⟩, hu, hc, htest⟩
      refine ⟨j, u, ⟨⟨u.tree, j, hc, rfl, ?_⟩, htest⟩, rfl⟩
      rw [← hu]

theorem In.mem_sistersBy_iff {test test' : Nat → Nat → Bool} (htest : ∀ i j, test i j = test' j i)
    (hs : In t s) (hu : In t u) : u ∈ s.sistersBy test ↔ s ∈ u.sistersBy test' := by
  have hchild {s : Site} {i : Nat} {p : Tree} {above : List (Nat × Tree)} (hs : In t s)
      (habove : s.above = (i, p) :: above) : p.children[i]? = some s.tree := by
    cases hs with
    | top => cases habove
    | child _ hc =>
        cases habove
        exact hc
  rw [mem_sistersBy, mem_sistersBy]
  constructor
  · rintro ⟨i, j, p, above, hi, hj, _, hpass⟩
    exact ⟨j, i, p, above, hj, hi, hchild hs hi, htest i j ▸ hpass⟩
  · rintro ⟨j, i, p, above, hj, hi, _, hpass⟩
    exact ⟨i, j, p, above, hi, hj, hchild hu hj, htest i j ▸ hpass⟩

/-! ## Walks -/

/-- What is met on walks down is met on walks up that take the same steps the other way. -/
theorem In.mem_collected_iff (hf : Collects next test f) (hg : Collects back test g)
    (hnext : ∀ s, (next s).Sublist s.children) (hback : ∀ s, (back s).Sublist s.parent?.toList)
    (hstep : ∀ s u, In t u → (u ∈ next s ↔ s ∈ back u)) (hs : In t s) (hu : In t u) :
    u ∈ f s ↔ s ∈ g u := by
  have hdown : ∀ s u, In t s → u ∈ next s → In t u :=
    fun s u hs h => hs.of_mem_children ((hnext s).subset h)
  have hup : ∀ u s, In t u → s ∈ back u → In t s :=
    fun u s hu h => hu.of_parent? (Option.mem_toList.mp ((hback u).subset h))
  rw [hf.mem_iff_down hnext, hg.mem_iff_up hback]
  constructor
  · exact Walk.reverse hdown (fun s u _ hu => (hstep s u hu).mp) hs
  · exact Walk.reverse hup (fun u s hu _ => (hstep s u hu).mpr) hu

end Site

namespace Relation

variable {t : Tree} {s u : Site} {r : Relation} {head : HeadFinder} {category : BasicCategory}

/-- The relation in which the second node of a pair stands to the first. -/
def converse : Relation → Relation
  | parentOf => childOf
  | childOf => parentOf
  | dominates => dominatedBy
  | dominatedBy => dominates
  | sister => sister
  | immediateLeftSister => immediateRightSister
  | immediateRightSister => immediateLeftSister
  | leftSister => rightSister
  | rightSister => leftSister
  | immediatelyPrecedes => immediatelyFollows
  | precedes => follows
  | immediatelyFollows => immediatelyPrecedes
  | follows => precedes
  | identity => identity
  | immediatelyHeadedBy => immediateHeadOf
  | immediateHeadOf => immediatelyHeadedBy
  | headedBy => headOf
  | headOf => headedBy
  | firstChild => firstChildOf
  | lastChild => lastChildOf
  | onlyChild => onlyChildOf
  | firstChildOf => firstChild
  | lastChildOf => lastChild
  | onlyChildOf => onlyChild
  | leftmostDescendant => leftmostDescendantOf
  | rightmostDescendant => rightmostDescendantOf
  | leftmostDescendantOf => leftmostDescendant
  | rightmostDescendantOf => rightmostDescendant
  | unaryPathTo => unaryPathFrom
  | unaryPathFrom => unaryPathTo
  | ithChild i => ithChildOf i
  | ithChildOf i => ithChild i
  | dominatesVia d => dominatedByVia d
  | dominatedByVia d => dominatesVia d

theorem converse_converse (r : Relation) : r.converse.converse = r := by cases r <;> rfl

theorem mem_spanning {test : Span → Span → Bool} :
    u ∈ spanning (.ofTree t head category) s test ↔ Site.In t u ∧ test s.span u.span = true := by
  simp [spanning, Grounds.ofTree, Site.mem_preorder_top]

/-- The converse of a relation that does not lead up. -/
theorem mem_candidates_of_not_leadsUp (h : r.leadsUp = false) (hs : Site.In t s)
    (hu : Site.In t u) : u ∈ r.candidates (.ofTree t head category) s ↔
      s ∈ r.converse.candidates (.ofTree t head category) u := by
  have hparent : ∀ s u, Site.In t u → (u ∈ s.children ↔ s ∈ u.parent?.toList) :=
    fun s u hu => hu.mem_children_iff
  cases r <;> cases h <;> simp only [candidates, converse]
  case parentOf => exact hu.mem_children_iff
  case dominates =>
      exact hs.mem_collected_iff Site.collects_descendants Site.collects_ancestors
        (fun _ => .refl _) (fun _ => .refl _) hparent hu
  case dominatesVia =>
      exact hs.mem_collected_iff (Site.collects_descendThroughAll _) (Site.collects_climbThrough _)
        (fun _ => .refl _) (fun _ => .refl _) hparent hu
  case sister | immediateLeftSister | immediateRightSister | leftSister | rightSister =>
      exact hs.mem_sistersBy_iff (fun i j => by grind) hu
  case immediatelyPrecedes | immediatelyFollows =>
      simp only [mem_spanning, hs, hu, true_and, beq_iff_eq]
      exact eq_comm
  case precedes | follows => simp only [mem_spanning, hs, hu, true_and]
  case identity => rw [List.mem_singleton, List.mem_singleton, eq_comm]
  case immediatelyHeadedBy | firstChild | lastChild | onlyChild | ithChild =>
      exact hu.mem_picked_iff
  case headedBy | leftmostDescendant | rightmostDescendant | unaryPathTo =>
      exact hs.mem_collected_iff (Site.collects_pickedDown _) (Site.collects_pickedUp _)
        (Site.picked_sublist _) (Site.pickedBy_sublist _) (fun _ _ hu => hu.mem_picked_iff) hu

theorem leadsUp_converse (h : r.leadsUp = true) : r.converse.leadsUp = false := by
  cases r <;> cases h <;> rfl

theorem mem_candidates_converse (hs : Site.In t s) (hu : Site.In t u) :
    u ∈ r.candidates (.ofTree t head category) s ↔
      s ∈ r.converse.candidates (.ofTree t head category) u := by
  cases hup : r.leadsUp with
  | false => exact mem_candidates_of_not_leadsUp hup hs hu
  | true =>
      rw [mem_candidates_of_not_leadsUp (leadsUp_converse hup) hu hs, converse_converse]

/-! ## No node at itself -/

theorem not_mem_descendants_self (s : Site) : s ∉ s.descendants := by
  have hnodup := Site.nodup_preorder s
  rw [Site.preorder_eq, List.nodup_cons] at hnodup
  exact hnodup.1

theorem not_mem_sistersBy_self {test : Nat → Nat → Bool} (htest : ∀ i, test i i = false) :
    s ∉ s.sistersBy test := by
  rw [Site.mem_sistersBy]
  rintro ⟨i, j, p, above, hi, hj, _, hpass⟩
  rw [hi, List.cons.injEq, Prod.mk.injEq] at hj
  rw [← hj.1.1, htest] at hpass
  cases hpass

theorem not_mem_spanning_self {test : Span → Span → Bool} (htest : test s.span s.span = false) :
    s ∉ spanning (.ofTree t head category) s test := by
  rw [mem_spanning, htest]
  simp

/-- Only identity leads from a node to the node itself. -/
theorem mem_candidates_self (hs : Site.In t s) :
    s ∈ r.candidates (.ofTree t head category) s ↔ r = identity := by
  have hdown : ∀ {r : Relation}, r.leadsUp = false → r ≠ identity →
      s ∉ r.candidates (.ofTree t head category) s := by
    intro r h hne
    rcases candidates_cases (g := .ofTree t head category) (s := s) h with
      hbelow | ⟨test, htest, heq⟩ | ⟨test, htest, heq⟩ | rfl
    · exact fun h => not_mem_descendants_self s (hbelow.subset h)
    · rw [heq]
      exact not_mem_sistersBy_self htest
    · rw [heq]
      exact not_mem_spanning_self (htest _ s.start_lt_stop)
    · exact absurd rfl hne
  constructor
  · intro h
    by_contra hne
    cases hup : r.leadsUp with
    | false => exact hdown hup hne h
    | true =>
        refine hdown (leadsUp_converse hup) ?_ ((mem_candidates_converse hs hs).mp h)
        intro hid
        rw [← converse_converse r, hid] at hne
        exact hne rfl
  · rintro rfl
    exact List.mem_singleton_self s

/-! ## Pairs of relations -/

/-- A node is a candidate of a relation at another node if and only if that one is a candidate of the
converse relation at it. The candidates are nodes of the tree and stand in its preorder, or against it
where they are nodes above, and only identity leads from a node to the node itself. -/
theorem candidates_converse (t : Tree) (head : HeadFinder) (category : BasicCategory) (r : Relation)
    {s u : Site} (hs : Site.In t s) (hu : Site.In t u) :
    let g := Grounds.ofTree t head category
    (u ∈ r.candidates g s ↔ s ∈ r.converse.candidates g u) ∧
      (∀ v ∈ r.candidates g s, v ∈ (Site.top t).preorder) ∧
      (r.candidates g s).Pairwise (fun a b =>
        if r.leadsUp then Site.place t b < Site.place t a else Site.place t a < Site.place t b) ∧
      (r.candidates g s).Nodup ∧ (s ∈ r.candidates g s ↔ r = identity) := by
  intro g
  have hsorted := pairwise_candidates head category r hs
  refine ⟨mem_candidates_converse hs hu, fun v hv => ?_, hsorted, ?_, mem_candidates_self hs⟩
  · exact Site.mem_preorder_top.mpr (in_of_mem_candidates (Grounds.within_ofTree t head category) hs hv)
  · refine hsorted.imp fun hlt heq => ?_
    subst heq
    simp at hlt

/-- The determiner is reached from the sentence through the noun phrase, and so the other way
round. -/
theorem converse_of_way_through_phrase :
    let determiner := Tree.node "DT" [.leaf "the"]
    let phrase := Tree.node "NP" [determiner, .node "NN" [.leaf "dog"]]
    let t := Tree.node "S" [phrase, .node "VP" [.leaf "barked"]]
    let u : Site := ⟨determiner, [(0, phrase), (0, t)]⟩
    let g := Grounds.ofTree t HeadFinder.firstChild id
    let r := dominatesVia ⟨[.literal "NP"], false⟩
    Site.In t (.top t) ∧ Site.In t u ∧ u ∈ r.candidates g (.top t) ∧
      Site.top t ∈ r.converse.candidates g u := by
  intro determiner phrase t u g r
  have hu : Site.In t u := .child (.child .top rfl) rfl
  have hmem : u ∈ r.candidates g (.top t) := by decide +kernel
  exact ⟨.top, hu, hmem, (candidates_converse t _ _ r .top hu).1.mp hmem⟩

end Relation

end Treebank
