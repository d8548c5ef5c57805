import Treebank.Proofs.Relation.Order
import Treebank.Proofs.Tree.Substitution

/-!
# The words that nodes cover

Every node covers words, those that are written below it. The words of the children of a node stand
side by side and are all of its words, so that nodes below cover less, and of two sisters the left one
covers earlier words.
-/

namespace Treebank

namespace Tree

/-! ## Counting leaves -/

theorem leafCount_pos : (t : Tree) → 0 < t.leafCount
  | .node _ [] => Nat.zero_lt_one
  | .node _ (c :: _) => Nat.add_pos_left (leafCount_pos c) _

theorem leafCount_of_children {t : Tree} (h : t.children ≠ []) :
    t.leafCount = leafCounts t.children := by
  obtain ⟨l, _ | ⟨c, cs⟩⟩ := t
  · exact absurd rfl h
  · rfl

theorem leafCounts_append (cs ds : List Tree) :
    leafCounts (cs ++ ds) = leafCounts cs + leafCounts ds := by
  induction cs with
  | nil => simp [leafCounts]
  | cons c cs ih => simp [leafCounts, ih, Nat.add_assoc]

theorem leafCounts_take_succ {cs : List Tree} {c : Tree} {i : Nat} (h : cs[i]? = some c) :
    leafCounts (cs.take (i + 1)) = leafCounts (cs.take i) + c.leafCount := by
  rw [List.take_add_one, h, leafCounts_append]
  rfl

theorem leafCounts_take_le (cs : List Tree) {i j : Nat} (h : i ≤ j) :
    leafCounts (cs.take i) ≤ leafCounts (cs.take j) := by
  obtain ⟨k, rfl⟩ := Nat.exists_eq_add_of_le h
  rw [List.take_add, leafCounts_append]
  exact Nat.le_add_right _ _

/-! ## Words -/

theorem words_of_children {t : Tree} (h : t.children ≠ []) : t.words = wordsOf t.children := by
  obtain ⟨l, _ | ⟨c, cs⟩⟩ := t
  · exact absurd rfl h
  · rfl

theorem wordsOf_append (cs ds : List Tree) : wordsOf (cs ++ ds) = wordsOf cs ++ wordsOf ds := by
  induction cs with
  | nil => simp [wordsOf]
  | cons c cs ih => simp [wordsOf, ih]

mutual
theorem length_words : (t : Tree) → t.words.length = t.leafCount
  | .node _ [] => rfl
  | .node _ (c :: cs) => by
      rw [words, leafCount, List.length_append, length_words c, length_wordsOf cs]
theorem length_wordsOf : (cs : List Tree) → (wordsOf cs).length = leafCounts cs
  | [] => rfl
  | c :: cs => by
      rw [wordsOf, leafCounts, List.length_append, length_words c, length_wordsOf cs]
end

end Tree

namespace Site

variable {s u v : Site} {t : Tree} {i j : Nat}

/-! ## Spans -/

theorem start_lt_stop (s : Site) : s.span.start < s.span.stop :=
  Nat.lt_add_of_pos_right s.tree.leafCount_pos

theorem span_stop (s : Site) : s.span.stop = s.span.start + s.tree.leafCount := rfl

theorem span_child (h : s.child? i = some u) :
    u.span.start = s.span.start + Tree.leafCounts (s.tree.children.take i) ∧
      u.span.stop = s.span.start + Tree.leafCounts (s.tree.children.take (i + 1)) := by
  obtain ⟨c, hc, rfl⟩ := Option.map_eq_some_iff.mp h
  refine ⟨rfl, ?_⟩
  rw [Tree.leafCounts_take_succ hc, ← Nat.add_assoc]
  rfl

theorem children_ne_nil_of_child? (h : s.child? i = some u) : s.tree.children ≠ [] := by
  intro hnil
  simp [child?, hnil] at h

/-- A child covers only words of the node above it. -/
theorem span_child_le (h : s.child? i = some u) :
    s.span.start ≤ u.span.start ∧ u.span.stop ≤ s.span.stop := by
  obtain ⟨hstart, hstop⟩ := span_child h
  have hall := Tree.leafCounts_take_le s.tree.children (Nat.le_max_left (i + 1) s.tree.children.length)
  rw [List.take_of_length_le (Nat.le_max_right _ _),
    ← Tree.leafCount_of_children (children_ne_nil_of_child? h)] at hall
  rw [hstart, hstop, span_stop]
  omega

theorem exists_child?_of_mem_children (h : u ∈ s.children) : ∃ i, s.child? i = some u := by
  obtain ⟨i, hi⟩ := List.mem_iff_getElem?.mp h
  exact ⟨i, by rw [child?_eq, hi]⟩

theorem span_descendant_le (h : u ∈ s.descendants) :
    s.span.start ≤ u.span.start ∧ u.span.stop ≤ s.span.stop := by
  rw [mem_descendants] at h
  induction h with
  | step hu =>
      obtain ⟨i, hi⟩ := exists_child?_of_mem_children hu
      exact span_child_le hi
  | cons hm _ _ ih =>
      obtain ⟨i, hi⟩ := exists_child?_of_mem_children hm
      have hle := span_child_le hi
      exact ⟨Nat.le_trans hle.1 ih.1, Nat.le_trans ih.2 hle.2⟩

/-- Of two children the left one covers earlier words. -/
theorem span_sisters_le (hu : s.child? i = some u) (hv : s.child? j = some v) (h : i < j) :
    u.span.stop ≤ v.span.start := by
  rw [(span_child hu).2, (span_child hv).1]
  exact Nat.add_le_add_left (Tree.leafCounts_take_le _ h) _

/-! ## Words below a node -/

/-- Spans that stand side by side, the first from a number on and the last up to another one. -/
def Tiles (start stop : Nat) : List Span → Prop
  | [] => start = stop
  | span :: spans => span.start = start ∧ Tiles span.stop stop spans

/-- The spans of the children of a node stand side by side and cover that of the node. -/
theorem tiles_children (h : s.tree.children ≠ []) :
    Tiles s.span.start s.span.stop (s.children.map span) := by
  -- what holds of the last children, those before them being skipped
  have htiles : ∀ cs skipped, s.tree.children = skipped ++ cs →
      Tiles (s.span.start + Tree.leafCounts skipped) s.span.stop
        ((cs.zipIdx skipped.length).map fun e => (⟨e.1, (e.2, s.tree) :: s.above⟩ : Site).span) := by
    intro cs
    induction cs with
    | nil =>
        intro skipped heq
        rw [List.append_nil] at heq
        rw [← heq, ← Tree.leafCount_of_children h]
        exact rfl
    | cons c cs ih =>
        intro skipped heq
        have hchild : s.child? skipped.length =
            some ⟨c, (skipped.length, s.tree) :: s.above⟩ := by
          rw [child?, heq]
          simp
        have hspan := span_child hchild
        have htail := ih (skipped ++ [c]) (by simp [heq])
        rw [List.length_append, List.length_singleton] at htail
        have htake : (skipped ++ c :: cs).take (skipped.length + 1) = skipped ++ [c] :=
          List.take_length_add_append 1
        rw [heq, List.take_left, htake] at hspan
        rw [List.zipIdx_cons, List.map_cons, Tiles, hspan.2]
        exact ⟨hspan.1, htail⟩
  have hall := htiles s.tree.children [] rfl
  simpa [children, Tree.leafCounts, Function.comp_def] using hall

/-- Whatever is in the place of a node, its words stand between the same other words. -/
theorem exists_words_eq (hs : In t s) : ∃ before after, before.length = s.span.start ∧
    ∀ x, (t.replaceAt s.address x).words = before ++ x.words ++ after := by
  induction hs with
  | top => exact ⟨[], [], rfl, fun x => by simp [top, address, steps]⟩
  | @child p c above i hp hc ih =>
      obtain ⟨before, after, hlength, hwords⟩ := ih
      refine ⟨before ++ Tree.wordsOf (p.children.take i),
        Tree.wordsOf (p.children.drop (i + 1)) ++ after, ?_, fun x => ?_⟩
      · rw [List.length_append, hlength, Tree.length_wordsOf]
        rfl
      · have hchildren : (p.replaceAt [i] x).words = Tree.wordsOf (p.children.take i) ++ x.words ++
            Tree.wordsOf (p.children.drop (i + 1)) := by
          rw [Tree.replaceAt_child hc, Tree.words_of_children (by simp [Tree.children]), Tree.children,
            Tree.wordsOf_append, Tree.wordsOf, List.append_assoc]
        rw [address_child, Tree.replaceAt_append hp.get?_address, hwords, hchildren]
        simp only [List.append_assoc]

/-- With another tree in the place of a node, the words of that tree are in the place of the words that
the node covers. -/
theorem words_replaceAt (hs : In t s) (x : Tree) : (t.replaceAt s.address x).words =
    t.words.take s.span.start ++ x.words ++ t.words.drop s.span.stop := by
  obtain ⟨before, after, hlength, hwords⟩ := exists_words_eq hs
  have hself := hwords s.tree
  rw [Tree.replaceAt_self hs.get?_address] at hself
  have hstop : s.span.stop = (before ++ s.tree.words).length := by
    rw [span_stop, List.length_append, hlength, Tree.length_words]
  have htake : (before ++ s.tree.words ++ after).take s.span.start = before := by
    rw [← hlength, List.append_assoc, List.take_left]
  rw [hwords, hself, htake, hstop, List.drop_left]

/-- The words of the tree from the start of a span to its stop are the words of the node. -/
theorem words_eq (hs : In t s) :
    (t.words.drop s.span.start).take (s.span.stop - s.span.start) = s.tree.words := by
  obtain ⟨before, after, hlength, hwords⟩ := exists_words_eq hs
  have hself := hwords s.tree
  rw [Tree.replaceAt_self hs.get?_address] at hself
  have hcount : s.span.stop - s.span.start = s.tree.words.length := by
    rw [span_stop, Nat.add_sub_cancel_left, Tree.length_words]
  rw [hself, hcount, ← hlength, List.append_assoc, List.drop_left, List.take_left]

end Site

end Treebank
