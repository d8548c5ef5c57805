import Treebank.Proofs.Site
import Treebank.Relation.Candidates

/-!
# Relations stay in their tree

The nodes that a node stands in a relation to are nodes of the same tree.
-/

namespace Treebank

namespace Site

variable {t : Tree} {s u : Site} {above : List (Nat × Tree)}

/-! ## Neighbours -/

theorem In.of_child? {i : Nat} (hs : In t s) (hu : s.child? i = some u) : In t u := by
  simp only [child?, Option.map_eq_some_iff] at hu
  obtain ⟨c, hc, rfl⟩ := hu
  exact .child hs hc

theorem In.of_mem_children (hs : In t s) (hu : u ∈ s.children) : In t u := by
  simp only [children, List.mem_map, Prod.exists] at hu
  obtain ⟨c, i, hc, rfl⟩ := hu
  exact .child hs (List.mem_zipIdx_iff_getElem?.mp hc)

theorem In.of_parent? (hs : In t s) (hu : s.parent? = some u) : In t u := by
  obtain ⟨x, above⟩ := s
  cases above with
  | nil => simp [parent?] at hu
  | cons e above =>
      simp only [parent?, Option.some.injEq] at hu
      exact hu ▸ hs.parent

theorem In.of_mem_descendants (hs : In t s) (hu : u ∈ s.descendants) : In t u :=
  In.of_mem_preorderFromAll hs (by simp) hu

theorem In.of_mem_sistersBy {test : Nat → Nat → Bool} (hs : In t s)
    (hu : u ∈ s.sistersBy test) : In t u := by
  obtain ⟨x, above⟩ := s
  cases above with
  | nil => simp [sistersBy, family] at hu
  | cons e above =>
      simp only [sistersBy, family, List.mem_map, List.mem_filter, Prod.exists] at hu
      obtain ⟨_, _, ⟨⟨c, j, hc, he⟩, _⟩, rfl⟩ := hu
      simp only [Prod.mk.injEq] at he
      obtain ⟨rfl, rfl⟩ := he
      exact .child hs.parent (List.mem_zipIdx_iff_getElem?.mp hc)

/-! ## Ways up -/

theorem In.of_mem_climb {test : Nat → Site → Bool} {x : Tree} (hs : In t ⟨x, above⟩)
    (hu : u ∈ climb test above) : In t u := by
  induction above generalizing x with
  | nil => simp [climb] at hu
  | cons e above ih =>
      simp only [climb] at hu
      split at hu
      · rcases List.mem_cons.mp hu with rfl | hu
        · exact hs.parent
        · exact ih hs.parent hu
      · simp at hu

theorem In.of_mem_climbThrough {test : String → Bool} {x : Tree} (hs : In t ⟨x, above⟩)
    (hu : u ∈ climbThrough test above) : In t u := by
  induction above generalizing x with
  | nil => simp [climbThrough] at hu
  | cons e above ih =>
      simp only [climbThrough] at hu
      rcases List.mem_cons.mp hu with rfl | hu
      · exact hs.parent
      · split at hu
        · exact ih hs.parent hu
        · simp at hu

/-! ## Ways down -/

mutual
theorem In.of_mem_descend {pick : Site → Option Nat} : {x : Tree} → {above : List (Nat × Tree)} →
    In t ⟨x, above⟩ → u ∈ descend pick above x → In t u
  | .node l cs, above, hs, hu => by
      simp only [descend] at hu
      split at hu
      · simp at hu
      · rename_i i _
        exact In.of_mem_descendAt hs (fun c hc => hc) hu
theorem In.of_mem_descendAt {pick : Site → Option Nat} : {cs : List Tree} →
    {above : List (Nat × Tree)} → {parent : Tree} → {i skip : Nat} → In t ⟨parent, above⟩ →
    (∀ c, cs[skip]? = some c → parent.children[i]? = some c) →
    u ∈ descendAt pick above parent i skip cs → In t u
  | [], _, _, _, _, _, _, hu => by simp [descendAt] at hu
  | c :: cs, above, parent, i, 0, hs, hc, hu => by
      have hchild : In t ⟨c, (i, parent) :: above⟩ := .child hs (hc c rfl)
      simp only [descendAt, List.mem_cons] at hu
      rcases hu with rfl | hu
      · exact hchild
      · exact In.of_mem_descend hchild hu
  | c :: cs, above, parent, i, skip + 1, hs, hc, hu => by
      simp only [descendAt] at hu
      exact In.of_mem_descendAt hs (fun d hd => hc d (by simpa using hd)) hu
end

mutual
theorem In.of_mem_descendThrough {test : String → Bool} : {x : Tree} →
    {above : List (Nat × Tree)} → In t ⟨x, above⟩ → u ∈ descendThrough test above x → In t u
  | .node l cs, above, hs, hu => by
      simp only [descendThrough] at hu
      split at hu
      · exact In.of_mem_descendThroughAll hs (by simp [Tree.children]) hu
      · simp at hu
theorem In.of_mem_descendThroughAll {test : String → Bool} : {cs : List Tree} →
    {above : List (Nat × Tree)} → {parent : Tree} → {i : Nat} → In t ⟨parent, above⟩ →
    (∀ j, cs[j]? = parent.children[i + j]?) → u ∈ descendThroughAll test above parent i cs →
    In t u
  | [], _, _, _, _, _, hu => by simp [descendThroughAll] at hu
  | c :: cs, above, parent, i, hs, hcs, hu => by
      have hchild : In t ⟨c, (i, parent) :: above⟩ := .child hs (by simpa using (hcs 0).symm)
      simp only [descendThroughAll, List.cons_append, List.mem_cons, List.mem_append] at hu
      rcases hu with rfl | hu | hu
      · exact hchild
      · exact In.of_mem_descendThrough hchild hu
      · refine In.of_mem_descendThroughAll hs (fun j => ?_) hu
        have hj := hcs (j + 1)
        rw [List.getElem?_cons_succ] at hj
        rw [hj, show i + (j + 1) = i + 1 + j by omega]
end

/-! ## Picks -/

theorem In.of_mem_picked {pick : Pick} (hs : In t s) (hu : u ∈ s.picked pick) : In t u := by
  simp only [picked] at hu
  split at hu
  · simp at hu
  · exact hs.of_child? (Option.mem_toList.mp hu)

theorem In.of_mem_pickedBy {pick : Pick} (hs : In t s) (hu : u ∈ s.pickedBy pick) : In t u := by
  obtain ⟨x, above⟩ := s
  cases above with
  | nil => simp [pickedBy] at hu
  | cons e above =>
      simp only [pickedBy] at hu
      split at hu
      · exact List.mem_singleton.mp hu ▸ hs.parent
      · simp at hu

theorem In.of_mem_pickedDown {pick : Pick} (hs : In t s) (hu : u ∈ s.pickedDown pick) : In t u :=
  In.of_mem_descend hs hu

theorem In.of_mem_pickedUp {pick : Pick} (hs : In t s) (hu : u ∈ s.pickedUp pick) : In t u :=
  In.of_mem_climb hs hu

end Site

namespace Grounds

variable {t : Tree} {s : Site}

/-- All nodes of the grounds are nodes of the tree. -/
def Within (g : Grounds) (t : Tree) : Prop := ∀ e ∈ g.nodes, e.1.In t

theorem nodes_ofTree (t : Tree) (head : HeadFinder) (category : BasicCategory) :
    (ofTree t head category).nodes.map (·.1) = (Site.top t).preorder := by
  simp [ofTree, Function.comp_def]

theorem within_ofTree (t : Tree) (head : HeadFinder) (category : BasicCategory) :
    (ofTree t head category).Within t := by
  intro e he
  rw [← Site.mem_preorder_top, ← nodes_ofTree t head category]
  exact List.mem_map_of_mem he

end Grounds

namespace Relation

variable {t : Tree} {s u : Site}

theorem in_of_mem_spanning {g : Grounds} {test : Span → Span → Bool} (hg : g.Within t)
    (hu : u ∈ spanning g s test) : Site.In t u := by
  simp only [spanning, List.mem_map, List.mem_filter] at hu
  obtain ⟨e, ⟨he, _⟩, rfl⟩ := hu
  exact hg e he

/-- A relation leads from a node of a tree to nodes of that tree. -/
theorem in_of_mem_candidates {r : Relation} {g : Grounds} (hg : g.Within t) (hs : Site.In t s)
    (hu : u ∈ r.candidates g s) : Site.In t u := by
  cases r <;> simp only [candidates] at hu
  case parentOf => exact hs.of_mem_children hu
  case childOf => exact hs.of_parent? (Option.mem_toList.mp hu)
  case dominates => exact hs.of_mem_descendants hu
  case dominatedBy => exact Site.In.of_mem_climb hs hu
  case sister | immediateLeftSister | immediateRightSister | leftSister | rightSister =>
      exact hs.of_mem_sistersBy hu
  case immediatelyPrecedes | precedes | immediatelyFollows | follows =>
      exact in_of_mem_spanning hg hu
  case identity => exact List.mem_singleton.mp hu ▸ hs
  case immediatelyHeadedBy | firstChild | lastChild | onlyChild | ithChild =>
      exact hs.of_mem_picked hu
  case immediateHeadOf | firstChildOf | lastChildOf | onlyChildOf | ithChildOf =>
      exact hs.of_mem_pickedBy hu
  case headedBy | leftmostDescendant | rightmostDescendant | unaryPathTo =>
      exact hs.of_mem_pickedDown hu
  case headOf | leftmostDescendantOf | rightmostDescendantOf | unaryPathFrom =>
      exact hs.of_mem_pickedUp hu
  case dominatesVia => exact Site.In.of_mem_descendThroughAll hs (by simp) hu
  case dominatedByVia => exact Site.In.of_mem_climbThrough hs hu

end Relation

end Treebank
