import Treebank.Proofs.Tree.Token

/-!
# Reading by counting brackets

The depth of tokens is the number of opening brackets among them less that of closing ones. It tells
whether a text is a list of trees, how many they are, and where the reading of another text ends. No
word is lost: each becomes the label of a node.
-/

namespace Treebank.Tree

/-! ## Depth -/

/-- How much deeper a token leads into brackets. -/
def Token.rise : Token → Int
  | opening => 1
  | closing => -1
  | word _ => 0

/-- The number of opening brackets less that of closing ones. -/
def depth : List Token → Int
  | [] => 0
  | t :: ts => t.rise + depth ts

/-- The token is the one of this number, and neither within brackets nor an opening one; `start` is
the depth before the tokens. -/
def Misplaced (start : Int) (ts : List Token) (i : Nat) (t : Token) : Prop :=
  ts[i]? = some t ∧ t ≠ .opening ∧ start + depth (ts.take i) = 0

/-- The number of tokens after which the depth is zero. -/
def returns (start : Int) (ts : List Token) : Nat :=
  (List.range ts.length).countP fun i => start + depth (ts.take (i + 1)) = 0

/-- The words among tokens. -/
def Token.words (ts : List Token) : List String :=
  ts.filterMap fun t =>
    match t with
    | .word w => some w
    | _ => none

mutual
/-- The labels of a node and of all below it in preorder. -/
def labels : Tree → List String
  | node l cs => l :: labelsOf cs
def labelsOf : List Tree → List String
  | [] => []
  | c :: cs => labels c ++ labelsOf cs
end

/-- Texts that are not empty. -/
def nonEmpty (ls : List String) : List String := ls.filter (· ≠ "")

variable {t : Token} {ts : List Token} {start : Int} {fs : List Frame} {index : Nat}

@[simp]
theorem depth_nil : depth [] = 0 := rfl

@[simp]
theorem depth_cons (t : Token) (ts : List Token) : depth (t :: ts) = t.rise + depth ts := by
  rw [depth]

theorem not_misplaced_nil {i : Nat} : ¬Misplaced start [] i t := by simp [Misplaced]

theorem misplaced_zero {u : Token} :
    Misplaced start (t :: ts) 0 u ↔ u = t ∧ t ≠ .opening ∧ start = 0 := by
  simp only [Misplaced, List.getElem?_cons_zero, Option.some.injEq, List.take_zero, depth_nil,
    Int.add_zero]
  constructor
  · rintro ⟨rfl, hne, hstart⟩
    exact ⟨rfl, hne, hstart⟩
  · rintro ⟨rfl, hne, hstart⟩
    exact ⟨rfl, hne, hstart⟩

theorem misplaced_succ {i : Nat} {u : Token} :
    Misplaced start (t :: ts) (i + 1) u ↔ Misplaced (start + t.rise) ts i u := by
  simp [Misplaced, Int.add_assoc]

theorem returns_cons (start : Int) (t : Token) (ts : List Token) : returns start (t :: ts) =
    (if start + t.rise = 0 then 1 else 0) + returns (start + t.rise) ts := by
  simp [returns, List.range_succ_eq_map, List.countP_cons, List.countP_map, Function.comp_def,
    Int.add_assoc, Nat.add_comm]

/-! ## Labels -/

@[simp]
theorem labelsOf_append (xs ys : List Tree) : labelsOf (xs ++ ys) = labelsOf xs ++ labelsOf ys := by
  induction xs with
  | nil => rfl
  | cons x xs ih => simp [labelsOf, ih]

@[simp]
theorem nonEmpty_append (ls ms : List String) : nonEmpty (ls ++ ms) = nonEmpty ls ++ nonEmpty ms :=
  List.filter_append ..

/-- The labels of a node whose closing bracket is still to come. -/
def Frame.labels (f : Frame) : List String := f.label.getD "" :: labelsOf f.children.reverse

/-- The labels of nodes whose closing brackets are still to come, the innermost node first. -/
def openLabels : List Frame → List String
  | [] => []
  | f :: fs => openLabels fs ++ f.labels

/-- A node whose opening bracket was the last token has no children yet. -/
def Frame.Tidy (f : Frame) : Prop := f.label = none → f.children = []

theorem labels_close (f : Frame) : labels f.close = f.labels := by
  simp [Frame.close, Frame.labels, labels]

theorem labels_push (f : Frame) (x : Tree) : (f.push x).labels = f.labels ++ labels x := by
  simp [Frame.push, Frame.labels, labelsOf]

/-! ## Steps of the reader -/

/-- A token leads from some open nodes to others and finishes some trees, whatever follows. -/
structure Step (fs : List Frame) (t : Token) (fs' : List Frame) (done : List Tree) : Prop where
  placed : (fs.length : Int) = 0 → t = .opening
  reads : ∀ index ts, readFrom index fs (t :: ts) =
    (done ++ (readFrom (index + 1) fs' ts).1, (readFrom (index + 1) fs' ts).2)
  length : (fs'.length : Int) = fs.length + t.rise
  count : done.length = if (fs.length : Int) + t.rise = 0 then 1 else 0
  tidy : (∀ f ∈ fs, f.Tidy) → ∀ f ∈ fs', f.Tidy
  labels : (∀ f ∈ fs, f.Tidy) → nonEmpty (openLabels fs) ++ nonEmpty (Token.words [t]) =
    nonEmpty (labelsOf done) ++ nonEmpty (openLabels fs')

theorem step_opening_outside : Step [] .opening [.fresh] [] where
  placed := fun _ => rfl
  reads := fun _ _ => rfl
  length := rfl
  count := rfl
  tidy := fun _ => by simp [Frame.Tidy, Frame.fresh]
  labels := fun _ => by simp [openLabels, Frame.labels, Frame.fresh, labelsOf, nonEmpty, Token.words]

theorem step_opening (f : Frame) (fs : List Frame) :
    Step (f :: fs) .opening (.fresh :: ⟨some (f.label.getD ""), f.children⟩ :: fs) [] where
  placed := fun h => by simp at h; omega
  reads := fun _ _ => rfl
  length := by simp [Token.rise]
  count := by
    rw [if_neg (by simp [Token.rise]; omega)]
    rfl
  tidy := by simp_all [Frame.Tidy, Frame.fresh]
  labels := fun _ => by
    have hsame : (Frame.mk (some (f.label.getD "")) f.children).labels = f.labels := rfl
    have hfresh : nonEmpty Frame.fresh.labels = [] := rfl
    have hword : nonEmpty (Token.words [.opening]) = [] := rfl
    simp only [openLabels, nonEmpty_append, hsame, hfresh, hword]
    rfl

/-- The first word after an opening bracket is the label of the node. -/
theorem step_label {f : Frame} (fs : List Frame) (w : String) (hf : f.label = none) :
    Step (f :: fs) (.word w) (⟨some w, f.children⟩ :: fs) [] where
  placed := fun h => by simp at h; omega
  reads := fun _ _ => by simp only [readFrom, hf, List.nil_append]
  length := by simp [Token.rise]
  count := by
    rw [if_neg (by simp [Token.rise]; omega)]
    rfl
  tidy := by simp_all [Frame.Tidy]
  labels := fun h => by
    have hchildren : f.children = [] := h f List.mem_cons_self hf
    simp [openLabels, Frame.labels, labelsOf, nonEmpty, Token.words, hf, hchildren]

theorem step_word {f : Frame} (fs : List Frame) (w l : String) (hf : f.label = some l) :
    Step (f :: fs) (.word w) (f.push (leaf w) :: fs) [] where
  placed := fun h => by simp at h; omega
  reads := fun _ _ => by simp only [readFrom, hf, List.nil_append]
  length := by simp [Token.rise]
  count := by
    rw [if_neg (by simp [Token.rise]; omega)]
    rfl
  tidy := by simp_all [Frame.Tidy, Frame.push]
  labels := fun _ => by
    simp [openLabels, labels_push, labels, leaf, labelsOf, nonEmpty, Token.words]

theorem step_closing_outermost (f : Frame) : Step [f] .closing [] [f.close] where
  placed := fun h => by simp at h
  reads := fun _ _ => rfl
  length := rfl
  count := rfl
  tidy := fun _ => nofun
  labels := fun _ => by simp [openLabels, labelsOf, labels_close, nonEmpty, Token.words]

theorem step_closing (f g : Frame) (fs : List Frame) :
    Step (f :: g :: fs) .closing (g.push f.close :: fs) [] where
  placed := fun h => by simp at h; omega
  reads := fun _ _ => rfl
  length := by
    simp only [List.length_cons, Token.rise]
    omega
  count := by
    rw [if_neg (by simp [Token.rise]; omega)]
    rfl
  tidy := by simp_all [Frame.Tidy, Frame.push]
  labels := fun _ => by
    simp [openLabels, labels_push, labels_close, labelsOf, nonEmpty, Token.words]

/-- A token that is not misplaced makes a step. -/
theorem exists_step (fs : List Frame) (t : Token) (h : fs = [] → t = .opening) :
    ∃ fs' done, Step fs t fs' done := by
  cases fs with
  | nil =>
      obtain rfl := h rfl
      exact ⟨_, _, step_opening_outside⟩
  | cons f fs =>
      cases t with
      | opening => exact ⟨_, _, step_opening f fs⟩
      | word w =>
          cases hf : f.label with
          | none => exact ⟨_, _, step_label fs w hf⟩
          | some l => exact ⟨_, _, step_word fs w l hf⟩
      | closing =>
          cases fs with
          | nil => exact ⟨_, _, step_closing_outermost f⟩
          | cons g fs => exact ⟨_, _, step_closing f g fs⟩

/-- A run of the reader, step by step, with the trees and the fault that it gives. -/
inductive Run : Nat → List Frame → List Token → List Tree → Option ReadError → Prop where
  | finished {index : Nat} : Run index [] [] [] none
  | unfinished {index : Nat} (f : Frame) (fs : List Frame) :
      Run index (f :: fs) [] [] (some f.endError)
  | misplaced {index : Nat} {t : Token} (ts : List Token) : t ≠ .opening →
      Run index [] (t :: ts) [] (some (.expectedOpen t.text index))
  | step {index : Nat} {fs fs' : List Frame} {t : Token} {ts : List Token} {done trees : List Tree}
      {failure : Option ReadError} : Step fs t fs' done → Run (index + 1) fs' ts trees failure →
      Run index fs (t :: ts) (done ++ trees) failure

theorem run_readFrom (index : Nat) (fs : List Frame) (ts : List Token) :
    Run index fs ts (readFrom index fs ts).1 (readFrom index fs ts).2 := by
  induction ts generalizing index fs with
  | nil =>
      cases fs with
      | nil => exact .finished
      | cons f fs => exact .unfinished f fs
  | cons t ts ih =>
      by_cases h : fs = [] → t = .opening
      · obtain ⟨fs', done, hstep⟩ := exists_step fs t h
        rw [hstep.reads]
        exact .step hstep (ih _ _)
      · obtain ⟨rfl, ht⟩ := Classical.not_imp.mp h
        cases t with
        | opening => exact absurd rfl ht
        | closing => exact .misplaced ts ht
        | word w => exact .misplaced ts ht

/-! ## Where the reading ends -/

/-- No token is misplaced, and every bracket is closed; `start` is the depth before the tokens. -/
structure Balanced (start : Int) (ts : List Token) : Prop where
  placed : ∀ i t, ¬Misplaced start ts i t
  closed : start + depth ts = 0

theorem balanced_cons (h : start = 0 → t = .opening) :
    Balanced start (t :: ts) ↔ Balanced (start + t.rise) ts := by
  constructor
  · rintro ⟨hplaced, hclosed⟩
    refine ⟨fun i u hu => hplaced (i + 1) u (misplaced_succ.mpr hu), ?_⟩
    rwa [depth_cons, ← Int.add_assoc] at hclosed
  · rintro ⟨hplaced, hclosed⟩
    refine ⟨fun i u hu => ?_, by rwa [depth_cons, ← Int.add_assoc]⟩
    cases i with
    | zero =>
        obtain ⟨_, hne, hstart⟩ := misplaced_zero.mp hu
        exact hne (h hstart)
    | succ i => exact hplaced i u (misplaced_succ.mp hu)

/-- The text ends within brackets. -/
def ReadError.IsUnbalanced (e : ReadError) : Prop :=
  e = .endsAfterOpen ∨ ∃ label, e = .neverClosed label

theorem Frame.isUnbalanced_endError (f : Frame) : f.endError.IsUnbalanced := by
  rw [endError]
  split
  · exact Or.inl rfl
  · exact Or.inr ⟨_, rfl⟩

variable {trees : List Tree} {failure : Option ReadError} {e : ReadError}

theorem Run.failure_eq_none_iff (h : Run index fs ts trees failure) :
    failure = none ↔ Balanced fs.length ts := by
  induction h with
  | finished => exact ⟨fun _ => ⟨fun _ _ => not_misplaced_nil, rfl⟩, fun _ => rfl⟩
  | unfinished f fs =>
      refine ⟨nofun, fun ⟨_, hclosed⟩ => ?_⟩
      simp at hclosed
      omega
  | @misplaced _ t ts ht =>
      exact ⟨nofun, fun ⟨hplaced, _⟩ => absurd (misplaced_zero.mpr ⟨rfl, ht, rfl⟩) (hplaced 0 t)⟩
  | step hstep _ ih => rw [ih, hstep.length, balanced_cons hstep.placed]

/-- Every return to depth zero finishes a tree. -/
theorem Run.length_trees (h : Run index fs ts trees failure) (hnone : failure = none) :
    trees.length = returns fs.length ts := by
  induction h with
  | finished => rfl
  | unfinished f fs => cases hnone
  | misplaced ts ht => cases hnone
  | step hstep _ ih => rw [List.length_append, ih hnone, hstep.length, hstep.count, returns_cons]

theorem words_cons (t : Token) (ts : List Token) :
    Token.words (t :: ts) = Token.words [t] ++ Token.words ts := by
  cases t <;> rfl

/-- Every word becomes a label, and no other label has a text. -/
theorem Run.labels_trees (h : Run index fs ts trees failure) (hnone : failure = none)
    (htidy : ∀ f ∈ fs, f.Tidy) :
    nonEmpty (labelsOf trees) = nonEmpty (openLabels fs) ++ nonEmpty (Token.words ts) := by
  induction h with
  | finished => rfl
  | unfinished f fs => cases hnone
  | misplaced ts ht => cases hnone
  | @step _ fs fs' t ts done trees _ hstep _ ih =>
      calc nonEmpty (labelsOf (done ++ trees))
        _ = nonEmpty (labelsOf done) ++ nonEmpty (openLabels fs') ++ nonEmpty (Token.words ts) := by
            rw [labelsOf_append, nonEmpty_append, ih hnone (hstep.tidy htidy), List.append_assoc]
        _ = nonEmpty (openLabels fs) ++ nonEmpty (Token.words (t :: ts)) := by
            rw [← hstep.labels htidy, words_cons t ts, nonEmpty_append, List.append_assoc]

/-- The first `v` tokens are in place, and there the reading ends with a fault: the next token is
misplaced, or there is none although brackets are open. -/
inductive Fault (start : Int) (index : Nat) (ts : List Token) (v : Nat) : ReadError → Prop where
  | misplaced {t : Token} : (∀ i < v, ∀ u, ¬Misplaced start ts i u) → Misplaced start ts v t →
      Fault start index ts v (.expectedOpen t.text (index + v))
  | unbalanced {e : ReadError} : (∀ i t, ¬Misplaced start ts i t) → start + depth ts ≠ 0 →
      v = ts.length → e.IsUnbalanced → Fault start index ts v e

/-- The trees of the tokens up to the last of the first `v` after which the depth is zero, if there
is one. -/
inductive Completed (fs : List Frame) (ts : List Token) (v : Nat) : List Tree → Prop where
  | upTo {trees : List Tree} (j : Nat) : j ≤ v → fs.length + depth (ts.take j) = 0 →
      (∀ i, j < i → i ≤ v → fs.length + depth (ts.take i) ≠ 0) →
      (∀ index, readFrom index fs (ts.take j) = (trees, none)) → Completed fs ts v trees
  | nowhere : (∀ i ≤ v, fs.length + depth (ts.take i) ≠ 0) → Completed fs ts v []

theorem Fault.cons {v : Nat} (ht : start = 0 → t = .opening)
    (h : Fault (start + t.rise) (index + 1) ts v e) : Fault start index (t :: ts) (v + 1) e := by
  have hfirst (u : Token) : ¬Misplaced start (t :: ts) 0 u := fun hu => by
    obtain ⟨_, hne, hstart⟩ := misplaced_zero.mp hu
    exact hne (ht hstart)
  cases h with
  | misplaced hbefore hmisplaced =>
      rw [show index + 1 + v = index + (v + 1) by omega]
      refine .misplaced (fun i hi u => ?_) (misplaced_succ.mpr hmisplaced)
      cases i with
      | zero => exact hfirst u
      | succ i => exact fun hu => hbefore i (by omega) u (misplaced_succ.mp hu)
  | unbalanced hplaced hopen hv he =>
      refine .unbalanced (fun i u => ?_) (by rwa [depth_cons, ← Int.add_assoc]) (by simp [hv]) he
      cases i with
      | zero => exact hfirst u
      | succ i => exact fun hu => hplaced i u (misplaced_succ.mp hu)

theorem Completed.cons {fs fs' : List Frame} {done : List Tree} {v : Nat}
    (hstep : Step fs t fs' done) (h : Completed fs' ts v trees) :
    Completed fs (t :: ts) (v + 1) (done ++ trees) := by
  have hdepth (i : Nat) : (fs.length : Int) + depth ((t :: ts).take (i + 1)) =
      fs'.length + depth (ts.take i) := by
    rw [List.take_succ_cons, depth_cons, hstep.length, Int.add_assoc]
  cases h with
  | upTo j hj hzero hlast hreads =>
      refine .upTo (j + 1) (by omega) (by rwa [hdepth]) (fun i hi hiv => ?_) fun index => ?_
      · obtain ⟨i, rfl⟩ : ∃ k, i = k + 1 := ⟨i - 1, by omega⟩
        rw [hdepth]
        exact hlast i (by omega) (by omega)
      · rw [List.take_succ_cons, hstep.reads, hreads]
  | nowhere hnot =>
      have hopen : (fs.length : Int) + t.rise ≠ 0 := by
        rw [← hstep.length]
        simpa using hnot 0 (Nat.zero_le v)
      have hdone : done = [] := by
        rw [← List.length_eq_zero_iff, hstep.count, if_neg hopen]
      have hafter : ∀ i, 0 < i → i ≤ v + 1 →
          (fs.length : Int) + depth ((t :: ts).take i) ≠ 0 := by
        intro i hi hiv
        obtain ⟨i, rfl⟩ : ∃ k, i = k + 1 := ⟨i - 1, by omega⟩
        rw [hdepth]
        exact hnot i (by omega)
      subst hdone
      cases fs with
      | nil => exact .upTo 0 (Nat.zero_le _) rfl hafter fun _ => rfl
      | cons f fs =>
          refine .nowhere fun i hi => ?_
          cases i with
          | zero => simp; omega
          | succ i => exact hafter (i + 1) (by omega) hi

/-- A reading that fails gives the trees that are complete before the fault. -/
theorem Run.exists_fault (h : Run index fs ts trees failure) (hsome : failure = some e) :
    ∃ v ≤ ts.length, Fault fs.length index ts v e ∧ Completed fs ts v trees := by
  induction h with
  | finished => cases hsome
  | unfinished f fs =>
      obtain rfl := Option.some.inj hsome
      refine ⟨0, Nat.le_refl 0, .unbalanced (fun _ _ => not_misplaced_nil) ?_ rfl
        f.isUnbalanced_endError, .nowhere fun i _ => ?_⟩
      · simp; omega
      · simp; omega
  | @misplaced index t ts ht =>
      obtain rfl := Option.some.inj hsome
      exact ⟨0, Nat.zero_le _, .misplaced nofun (misplaced_zero.mpr ⟨rfl, ht, rfl⟩),
        .upTo 0 (Nat.le_refl 0) rfl (fun i hi hi' => absurd hi (by omega)) fun _ => rfl⟩
  | step hstep _ ih =>
      obtain ⟨v, hv, hfault, hcompleted⟩ := ih hsome
      rw [hstep.length] at hfault
      exact ⟨v + 1, Nat.succ_le_succ hv, hfault.cons hstep.placed, hcompleted.cons hstep⟩

theorem isWord_of_mem_words {cs : List Char} {w : String}
    (h : w ∈ Token.words (Token.scan cs)) : IsWord w := by
  obtain ⟨t, ht, htw⟩ := List.mem_filterMap.mp h
  cases t with
  | opening => cases htw
  | closing => cases htw
  | word u =>
      obtain rfl := Option.some.inj htw
      exact Token.isWord_of_mem_scan u ht

theorem nonEmpty_words_scan (cs : List Char) :
    nonEmpty (Token.words (Token.scan cs)) = Token.words (Token.scan cs) :=
  List.filter_eq_self.mpr fun _ hw => decide_eq_true (isWord_of_mem_words hw).1

/-- A text is read to its end if and only if its brackets are balanced and no word stands outside
them. Then each return to depth zero gives a tree, and the words are the labels that are not empty,
in their order. Otherwise the first fault is told, and the trees are those of the tokens up to the
last return to depth zero before it. -/
theorem readPrefix_outcome (text : String) :
    let ts := Token.scan text.toList
    ((readPrefix text).2 = none ↔ Balanced 0 ts) ∧
    match readPrefix text with
    | (trees, none) =>
      trees.length = returns 0 ts ∧ nonEmpty (labelsOf trees) = Token.words ts
    | (trees, some e) => ∃ v ≤ ts.length, Fault 0 0 ts v e ∧
      ∃ j ≤ v, depth (ts.take j) = 0 ∧ (∀ i, j < i → i ≤ v → depth (ts.take i) ≠ 0) ∧
        readFrom 0 [] (ts.take j) = (trees, none) := by
  intro ts
  have hrun : Run 0 [] ts (readPrefix text).1 (readPrefix text).2 := run_readFrom 0 [] ts
  refine ⟨hrun.failure_eq_none_iff, ?_⟩
  generalize readPrefix text = outcome at hrun
  obtain ⟨trees, failure⟩ := outcome
  cases failure with
  | none =>
      have hlabels := hrun.labels_trees rfl nofun
      exact ⟨hrun.length_trees rfl, hlabels.trans (nonEmpty_words_scan _)⟩
  | some e =>
      obtain ⟨v, hv, hfault, hcompleted⟩ := hrun.exists_fault rfl
      refine ⟨v, hv, hfault, ?_⟩
      cases hcompleted with
      | upTo j hj hzero hlast hreads =>
          simp only [List.length_nil, Int.natCast_zero, Int.zero_add] at hzero hlast
          exact ⟨j, hj, hzero, hlast, hreads 0⟩
      | nowhere hnot => exact absurd rfl (hnot 0 (Nat.zero_le v))

end Treebank.Tree
