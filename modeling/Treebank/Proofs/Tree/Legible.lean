import Treebank.Proofs.Site
import Treebank.Proofs.Tree.Bracketed

/-!
# Trees that can be read back

A written tree is read back as it was if its labels can stand as words, no leaf below another node has
an empty label, and every node without a label that has children begins with a child that has some.
Of every other tree the reader gets at one with other labels or fewer nodes.
-/

namespace Treebank.Tree

open Token (ofLabel Same)

/-! ## What is read of a written tree -/

/-- A node of which the label has been read. -/
def Frame.labelled (l : String) : Frame := ⟨if l = "" then none else some l, []⟩

mutual
/-- An open node after a written node below it has been read. A leaf becomes the label of a node that
has none yet, and one without a label leaves no trace. -/
def Frame.absorb (f : Frame) : Tree → Frame
  | node l [] =>
    if l = "" then f
    else
      match f.label with
      | none => ⟨some l, f.children⟩
      | some _ => f.push (leaf l)
  | node l (c :: cs) => f.push (Frame.absorbAll (.labelled l) (c :: cs)).close
/-- An open node after written nodes below it have been read. -/
def Frame.absorbAll (f : Frame) : List Tree → Frame
  | [] => f
  | c :: cs => Frame.absorbAll (Frame.absorb f c) cs
end

/-- The tree that is read of a written one. -/
def reread : Tree → Tree
  | node l cs => (Frame.absorbAll (.labelled l) cs).close

variable {index : Nat} {f : Frame} {fs : List Frame} {ts : List Token} {t : Tree} {cs : List Tree}

theorem readFrom_ofLabel (l : String) : readFrom index (.fresh :: fs) (ofLabel l ++ ts) =
    readFrom (index + (ofLabel l).length) (.labelled l :: fs) ts := by
  rw [ofLabel, Frame.labelled]
  split
  · rfl
  · rfl

theorem readFrom_leaf (l : String) : readFrom index (f :: fs) (ofLabel l ++ ts) =
    readFrom (index + (ofLabel l).length) (f.absorb (leaf l) :: fs) ts := by
  obtain ⟨label, children⟩ := f
  rw [ofLabel, leaf, Frame.absorb]
  split
  · rfl
  · cases label with
    | none => rfl
    | some m => rfl

mutual
theorem readFrom_tokensBelow (index : Nat) (f : Frame) (fs : List Frame) (ts : List Token) :
    (t : Tree) → readFrom index (f :: fs) (t.tokensBelow ++ ts) =
      readFrom (index + t.tokensBelow.length) (f.absorb t :: fs) ts
  | node l [] => readFrom_leaf l
  | node l (c :: cs) => by
      have hlength : index + (tokensBelow (node l (c :: cs))).length =
          index + 1 + (ofLabel l).length + (tokensBelowAll (c :: cs)).length + 1 := by
        simp [tokensBelow]
        omega
      rw [hlength, tokensBelow, List.append_assoc, List.append_assoc, List.cons_append]
      -- the opening bracket, the label, what is below it, and the closing bracket
      rw [readFrom, readFrom_ofLabel, readFrom_tokensBelowAll _ _ _ _ (c :: cs)]
      rfl
theorem readFrom_tokensBelowAll (index : Nat) (f : Frame) (fs : List Frame) (ts : List Token) :
    (cs : List Tree) → readFrom index (f :: fs) (tokensBelowAll cs ++ ts) =
      readFrom (index + (tokensBelowAll cs).length) (f.absorbAll cs :: fs) ts
  | [] => rfl
  | c :: cs => by
      rw [tokensBelowAll, List.append_assoc, readFrom_tokensBelow _ _ _ _ c,
        readFrom_tokensBelowAll _ _ _ _ cs, List.length_append, Nat.add_assoc, Frame.absorbAll]
end

theorem readFrom_tokens (index : Nat) (t : Tree) (ts : List Token) :
    readFrom index [] (t.tokens ++ ts) =
      (t.reread :: (readFrom (index + t.tokens.length) [] ts).1,
        (readFrom (index + t.tokens.length) [] ts).2) := by
  obtain ⟨l, cs⟩ := t
  have hlength : index + (tokens (node l cs)).length =
      index + 1 + (ofLabel l).length + (tokensBelowAll cs).length + 1 := by
    simp [tokens]
    omega
  rw [hlength, tokens, List.append_assoc, List.append_assoc, List.cons_append, readFrom,
    readFrom_ofLabel, readFrom_tokensBelowAll]
  rfl

/-- A tree in one of its written forms, and what stands before the next one. -/
structure Written where
  tree : Tree
  /-- The column of the indented form; without one the tree is on one line. -/
  column : Option Int
  gap : String

/-- The text of a written tree. -/
def Written.text (w : Written) : String :=
  (match w.column with
    | none => w.tree.bracketed
    | some column => w.tree.pretty column) ++ w.gap

theorem Written.scan_text (w : Written) (hplain : Plain w.tree.labels)
    (hgap : ∀ c ∈ w.gap.toList, Text.isBlank c = true) (rest : List Char) :
    Token.scanFrom [] (w.text.toList ++ rest) = w.tree.tokens ++ Token.scanFrom [] rest := by
  obtain ⟨t, column, gap⟩ := w
  have hform : Same (Written.text ⟨t, column, gap⟩).toList (t.spell ++ gap.toList) := by
    rw [Written.text, String.toList_append]
    refine Same.append ?_ (Same.refl _)
    have hline : t.bracketed.toList = t.spell := String.toList_ofList
    cases column with
    | none =>
        rw [← hline]
        exact Same.refl _
    | some column =>
        rw [← hline]
        exact same_pretty t column
  rw [hform, List.append_assoc, scan_spell hplain, Token.scanFrom_blanks hgap]

theorem readAll_written {ws : List Written} (hplain : ∀ w ∈ ws, Plain w.tree.labels)
    (hgap : ∀ w ∈ ws, ∀ c ∈ w.gap.toList, Text.isBlank c = true) :
    readAll (String.join (ws.map Written.text)) = .ok (ws.map (·.tree.reread)) := by
  have hscan : Token.scan (String.join (ws.map Written.text)).toList =
      ws.flatMap (·.tree.tokens) := by
    induction ws with
    | nil => rfl
    | cons w ws ih =>
        obtain ⟨hw, hws⟩ := List.forall_mem_cons.mp hplain
        obtain ⟨hgw, hgws⟩ := List.forall_mem_cons.mp hgap
        rw [List.map_cons, String.join_cons, String.toList_append, Token.scan,
          w.scan_text hw hgw, List.flatMap_cons, ← ih hws hgws, Token.scan]
  have hread (index : Nat) :
      readFrom index [] (ws.flatMap (·.tree.tokens)) = (ws.map (·.tree.reread), none) := by
    clear hplain hgap hscan
    induction ws generalizing index with
    | nil => rfl
    | cons w ws ih => rw [List.flatMap_cons, readFrom_tokens, ih, List.map_cons]
  rw [readAll, readPrefix, hscan, hread]

theorem readAll_bracketed (h : Plain t.labels) : readAll t.bracketed = .ok [t.reread] := by
  have hplain : ∀ w ∈ [Written.mk t none ""], Plain w.tree.labels := by simpa using h
  have hread := readAll_written hplain (by simp)
  simpa [Written.text] using hread

/-! ## What is lost -/

theorem sizes_append (xs ys : List Tree) : sizes (xs ++ ys) = sizes xs + sizes ys := by
  induction xs with
  | nil => simp [sizes]
  | cons x xs ih => simp [sizes, ih, Nat.add_assoc]

theorem sizes_reverse (xs : List Tree) : sizes xs.reverse = sizes xs := by
  induction xs with
  | nil => rfl
  | cons x xs ih => simp [sizes_append, sizes, ih, Nat.add_comm]

theorem size_close (f : Frame) : f.close.size = 1 + sizes f.children := by
  rw [Frame.close, size, sizes_reverse]

mutual
theorem sizes_absorb_le (f : Frame) : (t : Tree) →
    sizes (f.absorb t).children ≤ t.size + sizes f.children
  | node l [] => by
      rw [Frame.absorb]
      split
      · exact Nat.le_add_left ..
      · split
        · exact Nat.le_add_left ..
        · exact Nat.le_refl _
  | node l (c :: cs) => by
      have hbelow := sizes_absorbAll_le (.labelled l) (c :: cs)
      simp only [Frame.absorb, Frame.push, sizes, size, size_close, Frame.labelled] at hbelow ⊢
      omega
theorem sizes_absorbAll_le (f : Frame) : (cs : List Tree) →
    sizes (f.absorbAll cs).children ≤ sizes cs + sizes f.children
  | [] => Nat.le_add_left ..
  | c :: cs => by
      have hfirst := sizes_absorb_le f c
      have hrest := sizes_absorbAll_le (f.absorb c) cs
      rw [Frame.absorbAll, sizes]
      omega
end

/-- Nothing is added to a tree that is read back. -/
theorem size_reread_le (t : Tree) : t.reread.size ≤ t.size := by
  obtain ⟨l, cs⟩ := t
  have hbelow := sizes_absorbAll_le (.labelled l) cs
  rw [reread, size_close, size]
  exact Nat.add_le_add_left hbelow 1

/-- The node is read as a child of the open one. -/
def Frame.Keeps (f : Frame) (t : Tree) : Prop :=
  t.isLeaf = true → t.label ≠ "" ∧ f.label.isSome = true

/-- The nodes are all read as children of the open one; once there is a child, no leaf can become
the label. -/
def Frame.KeepsAll (f : Frame) (cs : List Tree) : Prop :=
  (∀ c ∈ cs, c.isLeaf = true → c.label ≠ "") ∧
    ∀ c, cs.head? = some c → c.isLeaf = true → f.label.isSome = true

theorem Frame.absorb_of_keeps (h : f.Keeps t) : f.absorb t = f.push t.reread := by
  obtain ⟨label, children⟩ := f
  obtain ⟨l, cs⟩ := t
  cases cs with
  | nil =>
      obtain ⟨hl, hlabel⟩ := h rfl
      obtain ⟨m, rfl⟩ := Option.isSome_iff_exists.mp hlabel
      have hlabelled : reread (node l []) = leaf l := by
        have hl : l ≠ "" := hl
        simp [reread, Frame.absorbAll, Frame.labelled, Frame.close, leaf, hl]
      have hl : l ≠ "" := hl
      rw [hlabelled, Frame.absorb, if_neg hl]
  | cons c cs => rfl

theorem Frame.sizes_absorb_of_not_keeps (h : ¬f.Keeps t) :
    sizes (f.absorb t).children < t.size + sizes f.children := by
  obtain ⟨label, children⟩ := f
  obtain ⟨l, cs⟩ := t
  cases cs with
  | nil =>
      have hsame : (Frame.absorb ⟨label, children⟩ (node l [])).children = children := by
        rw [Frame.absorb]
        split
        · rfl
        · rename_i hl
          cases label with
          | none => rfl
          | some m => exact absurd (fun _ => ⟨hl, rfl⟩) h
      rw [hsame, size, sizes]
      exact Nat.lt_add_of_pos_left Nat.one_pos
  | cons c cs => exact absurd nofun h

theorem Frame.keepsAll_cons {c : Tree} :
    f.KeepsAll (c :: cs) ↔ f.Keeps c ∧ (f.push c.reread).KeepsAll cs := by
  constructor
  · rintro ⟨hnamed, hfirst⟩
    exact ⟨fun hc => ⟨hnamed c (.head cs) hc, hfirst c rfl hc⟩,
      fun d hd => hnamed d (.tail c hd), fun _ _ _ => rfl⟩
  · rintro ⟨hc, hnamed, _⟩
    refine ⟨List.forall_mem_cons.mpr ⟨fun hleaf => (hc hleaf).1, hnamed⟩, fun d hd hleaf => ?_⟩
    obtain rfl := Option.some.inj hd
    exact (hc hleaf).2

theorem Frame.close_absorbAll_of_keepsAll (h : f.KeepsAll cs) :
    (f.absorbAll cs).close = node (f.label.getD "") (f.children.reverse ++ cs.map reread) := by
  induction cs generalizing f with
  | nil => simp [Frame.absorbAll, Frame.close]
  | cons c cs ih =>
      obtain ⟨hc, hcs⟩ := Frame.keepsAll_cons.mp h
      rw [Frame.absorbAll, Frame.absorb_of_keeps hc, ih hcs]
      simp [Frame.push]

theorem Frame.sizes_absorbAll_of_not_keepsAll (h : ¬f.KeepsAll cs) :
    sizes (f.absorbAll cs).children < sizes cs + sizes f.children := by
  induction cs generalizing f with
  | nil => exact absurd ⟨nofun, nofun⟩ h
  | cons c cs ih =>
      rw [Frame.absorbAll, sizes]
      by_cases hc : f.Keeps c
      · have hrest := ih fun hcs => h (Frame.keepsAll_cons.mpr ⟨hc, hcs⟩)
        have hfirst := size_reread_le c
        have hpush : sizes (f.push c.reread).children = c.reread.size + sizes f.children := rfl
        rw [Frame.absorb_of_keeps hc]
        omega
      · have hfirst := Frame.sizes_absorb_of_not_keeps hc
        have hrest := sizes_absorbAll_le (f.absorb c) cs
        omega

/-- A leaf below the node has a label, and if the node has none, its first child is no leaf. -/
def Legible (t : Tree) : Prop :=
  (∀ c ∈ t.children, c.isLeaf = true → c.label ≠ "") ∧
    (t.label = "" → ∀ c, t.children.head? = some c → c.isLeaf = false)

theorem keepsAll_labelled {l : String} :
    (Frame.labelled l).KeepsAll cs ↔ Legible (node l cs) := by
  rw [Frame.KeepsAll, Legible]
  refine and_congr_right fun _ => ?_
  by_cases hl : l = ""
  · simp [Frame.labelled, hl, label, children]
  · simp [Frame.labelled, hl, label]

/-- A node is read back as it was if and only if this holds of its children and nothing is lost
between it and them. -/
theorem reread_eq_iff : t.reread = t ↔ t.Legible ∧ ∀ c ∈ t.children, c.reread = c := by
  obtain ⟨l, cs⟩ := t
  by_cases hlegible : Legible (node l cs)
  · have hlabel : (Frame.labelled l).label.getD "" = l := by
      rw [Frame.labelled]
      split
      · rename_i hl
        exact hl.symm
      · rfl
    rw [reread, Frame.close_absorbAll_of_keepsAll (keepsAll_labelled.mpr hlegible), hlabel]
    have hmap : cs.map reread = cs ↔ cs.map reread = cs.map id := by rw [List.map_id]
    simp only [hlegible, true_and, children, Frame.labelled, List.reverse_nil, List.nil_append,
      node.injEq]
    exact hmap.trans List.map_inj_left
  · have hlost := Frame.sizes_absorbAll_of_not_keepsAll (mt keepsAll_labelled.mp hlegible)
    refine ⟨fun h => ?_, fun h => absurd h.1 hlegible⟩
    have hsize := congrArg size h
    rw [reread, size_close, size] at hsize
    simp only [Frame.labelled, sizes] at hlost hsize
    omega

/-! ## Readable trees -/

mutual
theorem map_label_preorderFrom (above : List (Nat × Tree)) :
    (t : Tree) → (Site.preorderFrom above t).map Site.label = t.labels
  | node l cs => congrArg (l :: ·) (map_label_preorderFromAll above (node l cs) 0 cs)
theorem map_label_preorderFromAll (above : List (Nat × Tree)) (parent : Tree) (i : Nat) :
    (cs : List Tree) → (Site.preorderFromAll above parent i cs).map Site.label = labelsOf cs
  | [] => rfl
  | c :: cs => by
      rw [Site.preorderFromAll, List.map_append, map_label_preorderFrom _ c,
        map_label_preorderFromAll above parent (i + 1) cs, labelsOf]
end

mutual
theorem reread_eq_iff_preorderFrom (above : List (Nat × Tree)) :
    (t : Tree) → t.reread = t ↔ ∀ s ∈ Site.preorderFrom above t, s.tree.Legible
  | node l cs => by
      rw [reread_eq_iff, Site.preorderFrom, List.forall_mem_cons]
      exact and_congr_right fun _ => map_reread_eq_iff_preorderFromAll above (node l cs) 0 cs
theorem map_reread_eq_iff_preorderFromAll (above : List (Nat × Tree)) (parent : Tree) (i : Nat) :
    (cs : List Tree) → (∀ c ∈ cs, c.reread = c) ↔
      ∀ s ∈ Site.preorderFromAll above parent i cs, s.tree.Legible
  | [] => ⟨nofun, nofun⟩
  | c :: cs => by
      rw [Site.preorderFromAll, List.forall_mem_cons, List.forall_mem_append,
        reread_eq_iff_preorderFrom _ c, map_reread_eq_iff_preorderFromAll above parent (i + 1) cs]
end

/-- No label has blanks or brackets, no node without a label is a leaf below another one, and none has
a leaf as its first child. -/
structure Readable (t : Tree) : Prop where
  plain : ∀ s, Site.In t s → s.label = "" ∨ ∀ c ∈ s.label.toList, isWordPart c = true
  named : ∀ s, Site.In t s → s.above ≠ [] → s.tree.isLeaf = true → s.label ≠ ""
  begun : ∀ s, Site.In t s → s.label = "" →
    ∀ c, s.tree.children.head? = some c → c.isLeaf = false

theorem plain_labels_iff : Plain t.labels ↔
    ∀ s, Site.In t s → s.label = "" ∨ ∀ c ∈ s.label.toList, isWordPart c = true := by
  rw [Plain, ← map_label_preorderFrom [] t, List.forall_mem_map]
  constructor
  · exact fun h s hs => Or.inr (h s (Site.mem_preorder_top.mpr hs))
  · intro h s hs c hc
    rcases h s (Site.mem_preorder_top.mp hs) with hnil | hpart
    · rw [hnil] at hc
      cases hc
    · exact hpart c hc

theorem readable_iff : t.Readable ↔ Plain t.labels ∧ t.reread = t := by
  have hlegible : t.reread = t ↔ ∀ s, Site.In t s → s.tree.Legible := by
    rw [reread_eq_iff_preorderFrom []]
    exact forall_congr' fun s => imp_congr_left Site.mem_preorder_top
  rw [plain_labels_iff, hlegible]
  constructor
  · intro h
    refine ⟨h.plain, fun s hs => ⟨fun c hc hleaf => ?_, h.begun s hs⟩⟩
    obtain ⟨i, hi⟩ := List.mem_iff_getElem?.mp hc
    exact h.named _ (.child hs hi) (List.cons_ne_nil _ _) hleaf
  · rintro ⟨hplain, hlegible⟩
    refine ⟨hplain, fun s hs habove hleaf => ?_, fun s hs => (hlegible s hs).2⟩
    cases hs with
    | top => exact absurd rfl habove
    | child hp hc => exact (hlegible _ hp).1 _ (List.mem_of_getElem? hc) hleaf

/-- A tree that is read from some text has labels without blanks and brackets. -/
theorem plain_of_readAll {text : String} {trees : List Tree} (h : readAll text = .ok trees) :
    Plain (labelsOf trees) := by
  have hrun : Run 0 [] (Token.scan text.toList) (readPrefix text).1 (readPrefix text).2 :=
    run_readFrom 0 [] _
  rw [readAll] at h
  split at h
  · rename_i trees' houtcome
    obtain rfl := Except.ok.inj h
    rw [houtcome] at hrun
    have hlabels := hrun.labels_trees rfl (List.forall_mem_nil _)
    have hwords : nonEmpty (labelsOf trees') = Token.words (Token.scan text.toList) :=
      hlabels.trans (nonEmpty_words_scan _)
    intro l hl c hc
    have hsome : l ≠ "" := by
      rintro rfl
      cases hc
    have hmem : l ∈ Token.words (Token.scan text.toList) :=
      hwords ▸ List.mem_filter.mpr ⟨hl, decide_eq_true hsome⟩
    exact (isWord_of_mem_words hmem).2 c hc
  · cases h

/-- A tree on one line is read back as it was if and only if it is readable. Readable trees, each on
one line or indented, with nothing but blanks between them, are read back in their order. -/
theorem reads_back_iff_readable :
    (∀ t : Tree, readAll t.bracketed = .ok [t] ↔ t.Readable) ∧
    ∀ ws : List Written, (∀ w ∈ ws, w.tree.Readable) →
      (∀ w ∈ ws, ∀ c ∈ w.gap.toList, Text.isBlank c = true) →
      readAll (String.join (ws.map Written.text)) = .ok (ws.map (·.tree)) := by
  refine ⟨fun t => ?_, fun ws hws hgap => ?_⟩
  · rw [readable_iff]
    constructor
    · intro h
      have hplain : Plain t.labels := by simpa [labelsOf] using plain_of_readAll h
      rw [readAll_bracketed hplain] at h
      exact ⟨hplain, by simpa using h⟩
    · rintro ⟨hplain, hsame⟩
      rw [readAll_bracketed hplain, hsame]
  · rw [readAll_written (fun w hw => (readable_iff.mp (hws w hw)).1) hgap]
    exact congrArg _ (List.map_congr_left fun w hw => (readable_iff.mp (hws w hw)).2)

/-- Two copies of a tree with a label for each node, one of them indented, are read back. -/
theorem reads_back_two_copies :
    let t := node "S" [node "NP" [leaf "it"], node "VP" [node "VB" [leaf "is"], node "NP" [leaf "so"]]]
    let ws : List Written := [⟨t, none, "\n"⟩, ⟨t, some 2, ""⟩]
    (∀ w ∈ ws, w.tree.Readable) ∧ (∀ w ∈ ws, ∀ c ∈ w.gap.toList, Text.isBlank c = true) ∧
      readAll (String.join (ws.map Written.text)) = .ok [t, t] := by
  intro t ws
  have hwords : (t.labels.all fun l => l.toList.all isWordPart) = true := by decide +kernel
  have hplain : Plain t.labels := fun l hl => List.all_eq_true.mp (List.all_eq_true.mp hwords l hl)
  have hreread : t.reread = t := by decide +kernel
  have ht : t.Readable := readable_iff.mpr ⟨hplain, hreread⟩
  have hws : ∀ w ∈ ws, w.tree.Readable := by simp [ws, ht]
  have hgap : ∀ w ∈ ws, ∀ c ∈ w.gap.toList, Text.isBlank c = true := by
    have hblank : Text.isBlank '\n' = true := by decide +kernel
    simp [ws, hblank]
  exact ⟨hws, hgap, reads_back_iff_readable.2 ws hws hgap⟩

end Treebank.Tree
