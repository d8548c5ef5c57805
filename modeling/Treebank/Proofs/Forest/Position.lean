import Treebank.Proofs.Forest.Preorder
import Treebank.Proofs.Forest.Standing
import Treebank.Proofs.Relation.Converse

/-!
# Nodes of a forest and sites of a tree

A node below another one has a site in the tree of that one. Where it stands among the children of its
parent tells which nodes the relations between sisters and between parents and children lead to.
-/

namespace Treebank

/-- If the test singles out one index, just the sister of that index is picked out. -/
theorem Site.In.sistersBy_eq_singleton {t x p c : Tree} {above : List (Nat × Tree)} {i j : Nat}
    {test : Nat → Nat → Bool} (hs : Site.In t ⟨x, (i, p) :: above⟩) (hc : p.children[j]? = some c)
    (htest : ∀ k, test i k = true ↔ k = j) :
    (Site.mk x ((i, p) :: above)).sistersBy test = [⟨c, (j, p) :: above⟩] := by
  have hnodup := (sistersBy_sublist test hs).nodup (nodup_preorder (.top t))
  refine List.perm_singleton.mp ((List.perm_ext_iff_of_nodup hnodup (List.nodup_singleton _)).mpr ?_)
  rintro ⟨y, below⟩
  rw [mem_sistersBy, List.mem_singleton, Site.mk.injEq]
  constructor
  · rintro ⟨_, k, _, _, heq, rfl, hy, hpass⟩
    cases heq
    rw [htest] at hpass
    subst hpass
    rw [hc] at hy
    exact ⟨(Option.some.inj hy).symm, rfl⟩
  · rintro ⟨rfl, rfl⟩
    exact ⟨i, j, p, above, rfl, rfl, hc, (htest j).mpr rfl⟩

namespace Forest

variable {f : Forest} {r n p c : Nat} {i : Nat} {u v : Site}

/-- The site is that of the node in the tree with the top `r`. -/
structure StandsAt (f : Forest) (r n : NodeId) (u : Site) : Prop where
  isIn : u.In (f.tree r)
  follow?_eq : f.follow? r u.address = some n

theorem standsAt_top (f : Forest) (r : NodeId) : f.StandsAt r r (.top (f.tree r)) := ⟨.top, rfl⟩

/-- The tree of a site is the one below its node. -/
theorem WellFormed.tree_of_follow? (hf : f.WellFormed) (hin : u.In (f.tree r))
    (hn : f.follow? r u.address = some n) : u.tree = f.tree n := by
  induction hin generalizing n with
  | top => exact congrArg f.tree (Option.some.inj hn)
  | @child p c above i _ hc ih =>
      rw [Site.address_child, follow?_concat, Option.bind_eq_some_iff] at hn
      obtain ⟨q, hq, hn⟩ := hn
      have hp : p = f.tree q := ih hq
      rw [hp, hf.tree_eq, Tree.children, List.getElem?_map, hn] at hc
      exact (Option.some.inj hc).symm

theorem StandsAt.tree_eq (h : f.StandsAt r n u) (hf : f.WellFormed) : u.tree = f.tree n :=
  hf.tree_of_follow? h.isIn h.follow?_eq

theorem StandsAt.getElem?_children (h : f.StandsAt r p u) (hf : f.WellFormed)
    (hc : (f.children p)[i]? = some c) : u.tree.children[i]? = some (f.tree c) := by
  rw [h.tree_eq hf, hf.tree_eq, Tree.children, List.getElem?_map, hc]
  rfl

theorem StandsAt.child (h : f.StandsAt r p u) (hf : f.WellFormed) (hc : (f.children p)[i]? = some c) :
    f.StandsAt r c ⟨f.tree c, (i, u.tree) :: u.above⟩ where
  isIn := .child h.isIn (h.getElem?_children hf hc)
  follow?_eq := by
    rw [Site.address_child, follow?_concat, h.follow?_eq, Option.bind_some, hc]

theorem StandsAt.unique (h : f.StandsAt r n u) (h' : f.StandsAt r n v) (hf : f.WellFormed)
    (hlt : r < f.size) (htop : f.parent? r = none) : u = v := by
  have haddress := (hf.linked.treeAt hlt htop).address_unique h.follow?_eq h'.follow?_eq
  exact h.isIn.eq_of_steps h'.isIn (List.reverse_injective haddress)

theorem WellFormed.exists_standsAt (hf : f.WellFormed) (hcov : f.Covers r n) :
    ∃ u, f.StandsAt r n u := by
  induction hcov with
  | self => exact ⟨_, f.standsAt_top r⟩
  | under hp _ ih =>
      obtain ⟨v, hv⟩ := ih
      obtain ⟨i, hi⟩ := List.getElem?_of_mem (hf.mem_children.mpr hp)
      exact ⟨_, hv.child hf hi⟩

/-! ## Sisters and children -/

/-- Two neighbours among the children of a node are each the only immediate sister of the other on that
side. -/
theorem StandsAt.neighbours {l : NodeId} (h : f.StandsAt r p u) (hf : f.WellFormed)
    (hl : (f.children p)[i]? = some l) (hn : (f.children p)[i + 1]? = some n) :
    ∃ v w, f.StandsAt r l v ∧ f.StandsAt r n w ∧
      ∀ g, Relation.immediateLeftSister.candidates g v = [w] ∧
        Relation.immediateRightSister.candidates g w = [v] := by
  have hv := h.child hf hl
  have hw := h.child hf hn
  refine ⟨_, _, hv, hw, fun g => ⟨?_, ?_⟩⟩
  · rw [Relation.candidates]
    exact hv.isIn.sistersBy_eq_singleton (h.getElem?_children hf hn) fun k => by simp
  · rw [Relation.candidates]
    exact hw.isIn.sistersBy_eq_singleton (h.getElem?_children hf hl) fun k => by simp

/-- The child that a number picks is the only one of that number. -/
theorem StandsAt.ithChild {index : Int} (h : f.StandsAt r p u) (hf : f.WellFormed)
    (hpick : Pick.ith (some index) u = some i) (hc : (f.children p)[i]? = some c) :
    ∃ v, f.StandsAt r c v ∧ ∀ g, (Relation.ithChild (some index)).candidates g u = [v] := by
  refine ⟨_, h.child hf hc, fun g => ?_⟩
  rw [Relation.candidates, Site.picked, hpick]
  simp only [Site.child?, h.getElem?_children hf hc]
  rfl

end Forest

end Treebank
