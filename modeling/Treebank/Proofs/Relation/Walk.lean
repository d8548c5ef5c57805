import Mathlib.Data.List.Flatten
import Treebank.Proofs.Candidates

/-!
# Walks through a tree

A walk takes a step to one of some nodes, and goes on from there if the label of that node passes a
test. The nodes below a node, those above it, the chains of heads and of outermost children are met
on such walks, and a walk is turned round by turning its steps round.
-/

namespace Treebank

namespace Site

variable {next back : Site → List Site} {test : String → Bool} {f f' : Site → List Site}
  {size : Site → Nat} {s m u : Site} {t : Tree}

/-! ## Walks -/

/-- The way from a node to another by steps of one kind; the labels of all nodes in between pass a
test. -/
inductive Walk (next : Site → List Site) (test : String → Bool) : Site → Site → Prop where
  | step {s u : Site} : u ∈ next s → Walk next test s u
  | cons {s m u : Site} : m ∈ next s → test m.label = true → Walk next test m u →
      Walk next test s u

theorem Walk.concat (h : Walk next test s m) (hm : test m.label = true) (hu : u ∈ next m) :
    Walk next test s u := by
  induction h with
  | step hstep => exact .cons hstep hm (.step hu)
  | cons hstep htest _ ih => exact .cons hstep htest (ih hm hu)

/-- A walk in a tree can be gone the other way if all its steps can. -/
theorem Walk.reverse (hin : ∀ s u, In t s → u ∈ next s → In t u)
    (hback : ∀ s u, In t s → In t u → u ∈ next s → s ∈ back u) (hs : In t s)
    (h : Walk next test s u) : Walk back test u s := by
  induction h with
  | step hstep => exact .step (hback _ _ hs (hin _ _ hs hstep) hstep)
  | cons hstep htest _ ih =>
      have hm := hin _ _ hs hstep
      exact (ih hm).concat htest (hback _ _ hs hm hstep)

/-! ## Lists of the nodes met -/

/-- The lists hold the nodes that are met on walks, each before those that are met after it. -/
def Collects (next : Site → List Site) (test : String → Bool) (f : Site → List Site) : Prop :=
  ∀ s, f s = (next s).flatMap fun c => c :: if test c.label then f c else []

theorem Collects.mem_iff (h : Collects next test f) (hsize : ∀ s, ∀ c ∈ next s, size c < size s) :
    u ∈ f s ↔ Walk next test s u := by
  induction hk : size s using Nat.strongRecOn generalizing s with
  | ind k ih =>
      rw [h s, List.mem_flatMap]
      constructor
      · rintro ⟨c, hc, hu⟩
        rcases List.mem_cons.mp hu with rfl | hu
        · exact .step hc
        · split at hu
          · rename_i htest
            exact .cons hc htest ((ih _ (hk ▸ hsize s c hc) rfl).mp hu)
          · cases hu
      · intro hwalk
        cases hwalk with
        | step hu => exact ⟨u, hu, .head _⟩
        | @cons _ m _ hm htest hrest =>
            refine ⟨m, hm, List.mem_cons_of_mem _ ?_⟩
            rw [if_pos htest]
            exact (ih _ (hk ▸ hsize s m hm) rfl).mpr hrest

/-- Walks with fewer steps to choose from meet fewer nodes, in the same order. -/
theorem Collects.sublist (h : Collects next test f) (h' : Collects back (fun _ => true) f')
    (hnext : ∀ s, (next s).Sublist (back s)) (hsize : ∀ s, ∀ c ∈ back s, size c < size s) :
    (f s).Sublist (f' s) := by
  induction hk : size s using Nat.strongRecOn generalizing s with
  | ind k ih =>
      rw [h s, h' s]
      refine ((hnext s).flatMap _).trans (List.Sublist.flatMap_right _ fun c hc => ?_)
      refine .cons_cons c ?_
      split
      · exact ih _ (hk ▸ hsize s c hc) rfl
      · exact List.nil_sublist _

theorem Collects.next_sublist (h : Collects next test f) : (next s).Sublist (f s) := by
  rw [h s]
  conv => lhs; rw [← List.flatMap_singleton' (next s)]
  exact List.Sublist.flatMap_right _ fun c _ => (List.nil_sublist _).cons_cons c

/-! ## Ways down -/

theorem preorderFrom_eq (above : List (Nat × Tree)) (x : Tree) :
    preorderFrom above x = ⟨x, above⟩ :: (Site.mk x above).descendants := by
  cases x
  rfl

theorem preorder_eq (s : Site) : s.preorder = s :: s.descendants := preorderFrom_eq s.above s.tree

theorem preorderFromAll_eq (above : List (Nat × Tree)) (parent : Tree) (i : Nat)
    (cs : List Tree) : preorderFromAll above parent i cs =
      (cs.zipIdx i).flatMap fun e => preorderFrom ((e.2, parent) :: above) e.1 := by
  induction cs generalizing i with
  | nil => rfl
  | cons c cs ih => rw [preorderFromAll, List.zipIdx_cons, List.flatMap_cons, ih]

theorem collects_descendants : Collects children (fun _ => true) descendants := by
  intro s
  rw [descendants, preorderFromAll_eq, children, List.flatMap_map]
  exact congrArg (List.flatMap · _) (funext fun e => preorderFrom_eq _ _)

theorem descendThrough_eq (test : String → Bool) (above : List (Nat × Tree)) (x : Tree) :
    descendThrough test above x =
      if test x.label then descendThroughAll test above x 0 x.children else [] := by
  cases x
  rfl

theorem descendThroughAll_eq (test : String → Bool) (above : List (Nat × Tree)) (parent : Tree)
    (i : Nat) (cs : List Tree) : descendThroughAll test above parent i cs =
      (cs.zipIdx i).flatMap fun e =>
        ⟨e.1, (e.2, parent) :: above⟩ :: descendThrough test ((e.2, parent) :: above) e.1 := by
  induction cs generalizing i with
  | nil => rfl
  | cons c cs ih => rw [descendThroughAll, List.zipIdx_cons, List.flatMap_cons, ih]

theorem collects_descendThroughAll (test : String → Bool) :
    Collects children test fun s => descendThroughAll test s.above s.tree 0 s.tree.children := by
  intro s
  show descendThroughAll test s.above s.tree 0 s.tree.children = _
  rw [descendThroughAll_eq, children, List.flatMap_map]
  exact congrArg (List.flatMap · _) (funext fun e => congrArg (_ :: ·) (descendThrough_eq _ _ _))

theorem descendAt_eq (pick : Pick) (above : List (Nat × Tree)) (parent : Tree) (i skip : Nat)
    (cs : List Tree) : descendAt pick above parent i skip cs =
      (cs[skip]?.map fun c => (⟨c, (i, parent) :: above⟩ : Site)).toList.flatMap fun c =>
        c :: c.pickedDown pick := by
  induction cs generalizing skip with
  | nil => cases skip <;> rfl
  | cons c cs ih =>
      cases skip with
      | zero => simp [descendAt, pickedDown]
      | succ skip => rw [descendAt, ih, List.getElem?_cons_succ]

theorem collects_pickedDown (pick : Pick) :
    Collects (picked pick) (fun _ => true) (pickedDown pick) := by
  rintro ⟨⟨l, cs⟩, above⟩
  rw [pickedDown, descend, picked]
  cases pick ⟨.node l cs, above⟩ with
  | none => rfl
  | some i => exact descendAt_eq pick above (.node l cs) i i cs

/-! ## Ways up -/

theorem collects_climbThrough (test : String → Bool) :
    Collects (fun s => s.parent?.toList) test fun s => climbThrough test s.above := by
  rintro ⟨x, _ | ⟨⟨i, p⟩, above⟩⟩
  · rfl
  · exact (List.append_nil _).symm

theorem collects_ancestors : Collects (fun s => s.parent?.toList) (fun _ => true) ancestors := by
  rintro ⟨x, _ | ⟨⟨i, p⟩, above⟩⟩
  · rfl
  · exact (List.append_nil _).symm

theorem collects_pickedUp (pick : Pick) :
    Collects (pickedBy pick) (fun _ => true) (pickedUp pick) := by
  rintro ⟨x, _ | ⟨⟨i, p⟩, above⟩⟩
  · rfl
  · simp only [pickedUp, climb, pickedBy]
    split <;> simp

end Site

end Treebank
