import Treebank.Tree.Reader

/-!
# Words of bracketed text

A word has characters, and none of them is a bracket or blank. A text can stand for another one if it
has the same tokens, whatever is before and after it.
-/

namespace Treebank.Tree

/-- The character can be part of a word. -/
def isWordPart (c : Char) : Bool := c != '(' && c != ')' && !Text.isBlank c

/-- A text that can stand as one word. -/
def IsWord (w : String) : Prop := w ≠ "" ∧ ∀ c ∈ w.toList, isWordPart c = true

namespace Token

variable {word cs : List Char} {tokens : List Token}

theorem isWord_of_mem_flush (hword : ∀ c ∈ word, isWordPart c = true)
    (htokens : ∀ w, .word w ∈ tokens → IsWord w) : ∀ w, .word w ∈ flush word tokens → IsWord w := by
  intro w h
  simp only [flush] at h
  split at h
  · exact htokens w h
  · rename_i hsome
    rcases List.mem_cons.mp h with h | h
    · injection h with h
      subst h
      refine ⟨fun hnil => hsome ?_, fun c hc => hword c ?_⟩
      · rw [← String.toList_inj, String.toList_ofList] at hnil
        simpa using hnil
      · simpa using hc
    · exact htokens w h

theorem isWord_of_mem_scanFrom (hword : ∀ c ∈ word, isWordPart c = true) :
    ∀ w, .word w ∈ scanFrom word cs → IsWord w := by
  induction cs generalizing word with
  | nil => exact isWord_of_mem_flush hword nofun
  | cons c cs ih =>
      have hrest : ∀ w, .word w ∈ scanFrom [] cs → IsWord w := ih nofun
      simp only [scanFrom]
      split
      · exact isWord_of_mem_flush hword (by simpa using hrest)
      · split
        · exact isWord_of_mem_flush hword (by simpa using hrest)
        · split
          · exact isWord_of_mem_flush hword hrest
          · refine ih (List.forall_mem_cons.mpr ⟨?_, hword⟩)
            simp_all [isWordPart]

/-- The words of a text can stand as words. -/
theorem isWord_of_mem_scan : ∀ w, .word w ∈ scan cs → IsWord w := isWord_of_mem_scanFrom nofun

/-! ## Words -/

/-- A word ends here, if one has begun. -/
def Delimited (rest : List Char) : Prop := ∀ c, rest.head? = some c → isWordPart c = false

theorem delimited_cons {c : Char} {cs : List Char} (h : isWordPart c = false) :
    Delimited (c :: cs) := by
  intro d hd
  obtain rfl := Option.some.inj hd
  exact h

theorem scanFrom_append (hcs : ∀ c ∈ cs, isWordPart c = true) (word rest : List Char) :
    scanFrom word (cs ++ rest) = scanFrom (cs.reverse ++ word) rest := by
  induction cs generalizing word with
  | nil => rfl
  | cons c cs ih =>
      obtain ⟨hc, hcs⟩ := List.forall_mem_cons.mp hcs
      have hpart : (c == '(') = false ∧ (c == ')') = false ∧ Text.isBlank c = false := by
        simpa [isWordPart, and_assoc] using hc
      rw [List.cons_append, scanFrom, hpart.1, hpart.2.1, hpart.2.2]
      simp only [Bool.false_eq_true, if_false]
      rw [ih hcs, List.reverse_cons, List.append_assoc, List.singleton_append]

theorem flush_nil (tokens : List Token) : flush [] tokens = tokens := rfl

theorem scanFrom_delimited {rest : List Char} (h : Delimited rest) (word : List Char) :
    scanFrom word rest = flush word (scanFrom [] rest) := by
  cases rest with
  | nil => rfl
  | cons c cs =>
      have hc := h c rfl
      simp only [scanFrom]
      split
      · rfl
      · split
        · rfl
        · split
          · rfl
          · simp_all [isWordPart]

/-- The label of a node as a token; an empty label gives none. -/
def ofLabel (l : String) : List Token := if l = "" then [] else [.word l]

theorem scanFrom_label {l : String} (hl : ∀ c ∈ l.toList, isWordPart c = true) {rest : List Char}
    (h : Delimited rest) : scanFrom [] (l.toList ++ rest) = ofLabel l ++ scanFrom [] rest := by
  rw [scanFrom_append hl, List.append_nil, scanFrom_delimited h, flush, ofLabel]
  simp only [List.isEmpty_reverse, List.reverse_reverse, String.ofList_toList]
  by_cases hnil : l = ""
  · simp [hnil]
  · have hsome : l.toList.isEmpty = false := by
      rw [List.isEmpty_eq_false_iff, ne_eq, String.toList_eq_nil_iff]
      exact hnil
    simp [hnil, hsome]

/-! ## Texts with the same tokens -/

/-- The texts have the same tokens, whatever is before and after them. -/
def Same (cs ds : List Char) : Prop :=
  ∀ word rest, scanFrom word (cs ++ rest) = scanFrom word (ds ++ rest)

theorem Same.refl (cs : List Char) : Same cs cs := fun _ _ => rfl

theorem Same.symm {cs ds : List Char} (h : Same cs ds) : Same ds cs := fun word rest =>
  (h word rest).symm

theorem Same.trans {cs ds es : List Char} (h : Same cs ds) (h' : Same ds es) : Same cs es :=
  fun word rest => (h word rest).trans (h' word rest)

theorem scanFrom_append_congr {cs ds : List Char} (h : ∀ word, scanFrom word cs = scanFrom word ds)
    (es : List Char) (word : List Char) : scanFrom word (es ++ cs) = scanFrom word (es ++ ds) := by
  induction es generalizing word with
  | nil => exact h word
  | cons e es ih => simp only [List.cons_append, scanFrom, ih]

theorem Same.append {cs cs' ds ds' : List Char} (h : Same cs ds) (h' : Same cs' ds') :
    Same (cs ++ cs') (ds ++ ds') := by
  intro word rest
  rw [List.append_assoc, List.append_assoc, h word]
  exact scanFrom_append_congr (fun word => h' word rest) ds word

theorem scanFrom_blank {c : Char} (hc : Text.isBlank c = true) (word cs : List Char) :
    scanFrom word (c :: cs) = flush word (scanFrom [] cs) := by
  have hopen : (c == '(') = false := by
    rw [beq_eq_false_iff_ne]
    rintro rfl
    cases hc
  have hclose : (c == ')') = false := by
    rw [beq_eq_false_iff_ne]
    rintro rfl
    cases hc
  simp only [scanFrom, hopen, hclose, hc, Bool.false_eq_true, if_false, if_true]

theorem scanFrom_blanks (hcs : ∀ c ∈ cs, Text.isBlank c = true) (rest : List Char) :
    scanFrom [] (cs ++ rest) = scanFrom [] rest := by
  induction cs with
  | nil => rfl
  | cons c cs ih =>
      obtain ⟨hc, hcs⟩ := List.forall_mem_cons.mp hcs
      rw [List.cons_append, scanFrom_blank hc, flush_nil]
      exact ih hcs

/-- Blanks are as good as one blank. -/
theorem same_blanks {c d : Char} (hc : Text.isBlank c = true) (hd : Text.isBlank d = true)
    (hcs : ∀ e ∈ cs, Text.isBlank e = true) : Same (c :: cs) [d] := by
  intro word rest
  rw [List.cons_append, scanFrom_blank hc, List.singleton_append, scanFrom_blank hd,
    scanFrom_blanks hcs]

/-- A blank before a closing bracket can be left out. -/
theorem same_closing : Same [' ', ')'] [')'] := by
  intro word rest
  rw [List.cons_append, scanFrom_blank rfl]
  rfl

end Token

end Treebank.Tree
