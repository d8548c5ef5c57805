import Treebank.Proofs.Forest.Standing
import Treebank.Proofs.Reduction.Agreement
import Treebank.Reduction.Result

/-!
# Reduction depends on structure only

Two trees of one structure are reduced in the same way, in whatever forests they stand, and whatever
has been done before with other trees of these forests.
-/

namespace Treebank

open Forest

variable {f g : Forest} {top other n : NodeId} {t u : Tree} {rules : List Rule}
  {budget : Option Nat} {turns : Nat} {index : Int}

/-! ## Other trees -/

/-- Reduction changes no nodes but those of the tree that it works on. -/
theorem Forest.TreeAt.node_reduce (h : g.TreeAt other u) (hlt : n < g.size) (hn : ¬g.Reaches other n) :
    (reduce rules budget turns index g other).2.forest.node n = g.node n := by
  obtain ⟨_, hleads, _⟩ := reduce_agree rules budget turns index index (h.pairs h)
    (samePlace_top g g other other)
  exact hleads.kept_left n hlt fun _ ⟨path, hpath, _⟩ => hn ⟨path, hpath⟩

theorem Forest.TreeAt.size_reduce (h : g.TreeAt other u) :
    g.size ≤ (reduce rules budget turns index g other).2.forest.size := by
  obtain ⟨_, hleads, _⟩ := reduce_agree rules budget turns index index (h.pairs h)
    (samePlace_top g g other other)
  exact hleads.size_le_left

/-- A tree stands as it did after another one has been reduced. -/
theorem Forest.TreeAt.reduce_other (h : g.TreeAt top t) (hother : g.TreeAt other u) (hne : top ≠ other) :
    (reduce rules budget turns index g other).2.forest.TreeAt top t :=
  h.congr hother.size_reduce fun _ hn =>
    hother.node_reduce (h.lt_size_of_reaches hn) (h.disjoint hother hne hn)

/-- The second forest comes from the first one by planting trees, and by reducing trees other than the
one with the given top, successfully or not. -/
inductive OtherWork (top : NodeId) (f : Forest) : Forest → Prop where
  | none : OtherWork top f f
  | plant {g : Forest} (t : Tree) : OtherWork top f g → OtherWork top f (g.plant t).2
  | reduce {g : Forest} {other : NodeId} {u : Tree} (rules : List Rule) (budget : Option Nat)
      (turns : Nat) (index : Int) : OtherWork top f g → g.TreeAt other u → other ≠ top →
      OtherWork top f (reduce rules budget turns index g other).2.forest

theorem Forest.TreeAt.otherWork (h : f.TreeAt top t) (hwork : OtherWork top f g) : g.TreeAt top t := by
  induction hwork with
  | none => exact h
  | plant u _ ih => exact ih.adds (plant_adds _ u).2
  | reduce rules budget turns index _ hother hne ih => exact ih.reduce_other hother (Ne.symm hne)

/-! ## The same structure -/

/-- Two trees of one structure, the second after any work on other trees: their reductions are
interrupted for the same reason, or come to their ends with the same applications of rules, and
with trees of one structure again, or both without a tree. -/
theorem reduce_of_same_structure (rules : List Rule) (budget : Option Nat) (turns : Nat)
    (index index' : Int) {f f₀ f' : Forest} {top top' : NodeId} {t : Tree}
    (h : f.TreeAt top t) (h' : f₀.TreeAt top' t) (hbetween : OtherWork top' f₀ f') :
    let run := reduce rules budget turns index f top
    let run' := reduce rules budget turns index' f' top'
    let r := (Result.ofProgress top run.2).read run.2.forest
    let r' := (Result.ofProgress top' run'.2).read run'.2.forest
    run.1 = run'.1 ∧
      (run.1 = none → r.tree = r'.tree ∧ r.applications = r'.applications ∧
        r.ruleCounts = r'.ruleCounts ∧ r.matched = r'.matched ∧
        r.budgetExhausted = r'.budgetExhausted) := by
  intro run run' r r'
  have h' := h'.otherWork hbetween
  have hpairs := h.pairs h'
  have htop := samePlace_top f f' top top'
  obtain ⟨R, _, hend, hsame⟩ := reduce_agree rules budget turns index index' hpairs htop
  refine ⟨hsame, fun hdone => ⟨?_, hend.applications_eq, hend.ruleCounts_eq, ?_,
    hend.budgetExhausted_eq⟩⟩
  · have hleft := not_endlessBelow_of_reduce h.not_endlessBelow hdone
    show run.2.root.map run.2.forest.tree = run'.2.root.map run'.2.forest.tree
    have hroot := hend.root
    cases hr : run.2.root <;> cases hr' : run'.2.root <;> rw [hr, hr'] at hroot <;> cases hroot
    · rfl
    · rename_i hrr
      exact congrArg some (hend.forest.tree_eq hrr (hleft _ hr))
  · show (run.2.applications != 0) = (run'.2.applications != 0)
    rw [hend.applications_eq]

/-- A tree by itself and a tree like it that stands beside another one, which has been reduced. -/
theorem reduce_beside_other :
    let t := Tree.node "S" [.node "NP" [.node "dog" []], .node "VP" []]
    let p : CompiledPattern := ⟨"__=n", .node (some ⟨[.any], false⟩) (some "n") none,
      ⟨HeadFinder.firstChild, id⟩⟩
    let rule : Rule := ⟨"cut", p, [.delete ["n"]], none⟩
    let first := Forest.empty.plant t
    let second := first.2.plant t
    let between := (reduce [rule] none 5 0 second.2 first.1).2.forest
    (reduce [rule] (some 1) 5 0 first.2 first.1).1 =
        (reduce [rule] (some 1) 5 1 between second.1).1 := by
  intro t p rule first second between
  have h : first.2.TreeAt first.1 t := treeAt_plant Forest.empty t
  have hfirst : second.2.TreeAt first.1 t := h.adds (plant_adds first.2 t).2
  have hsecond : second.2.TreeAt second.1 t := treeAt_plant first.2 t
  have hne : first.1 ≠ second.1 := Nat.ne_of_lt (by
    rw [(plant_adds first.2 t).1]
    exact h.lt_size)
  exact (reduce_of_same_structure [rule] (some 1) 5 0 1 h hsecond
    (.reduce [rule] none 5 0 .none hfirst hne)).1

end Treebank
