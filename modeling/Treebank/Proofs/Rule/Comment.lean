import Treebank.Proofs.Text.Blank
import Treebank.Rule.Reader

/-!
# Comments in the lines of a rule

A line that holds a text has a backslash before each percent sign of it; a comment may follow after a
blank. What remains of the line without the comment is the text, but for the blanks around it.
-/

namespace Treebank

namespace Rule

open Text

variable {c : Char} {cs blanks rest : List Char} {line : String}

/-! ## Comments -/

theorem cutLastComment_of_line (h : '\n' ∉ cs) : cutLastComment cs = cutComment false cs := by
  have hreverse : ∀ c ∈ cs.reverse, (c != '\n') = true := by
    intro c hc
    rw [bne_iff_ne]
    rintro rfl
    exact h (List.mem_reverse.mp hc)
  have hhead : (cs.reverse.head? == some '\n') = false := by
    rw [beq_eq_false_iff_ne]
    intro hhead
    exact h (List.mem_reverse.mp (List.mem_of_mem_head? hhead))
  rw [cutLastComment]
  simp only [hhead, Bool.false_eq_true, if_false]
  rw [List.takeWhile_eq_self_iff.mpr hreverse, List.dropWhile_eq_nil_iff.mpr hreverse,
    List.reverse_reverse]
  rfl

/-- The percent signs with a backslash before each of them. -/
def guard : List Char → List Char
  | [] => []
  | '%' :: cs => '\\' :: '%' :: guard cs
  | c :: cs => c :: guard cs

theorem guard_of_ne (hc : c ≠ '%') (cs : List Char) : guard (c :: cs) = c :: guard cs := by
  rw [guard]
  exact hc

theorem cutComment_of_ne (guarded : Bool) (hc : c ≠ '%') (cs : List Char) :
    cutComment guarded (c :: cs) = c :: cutComment (c == '\\') cs := by
  rw [cutComment]
  exact hc

/-- No comment begins in guarded text. -/
theorem cutComment_guard {kept : List Char} (hrest : ∀ g, cutComment g rest = kept)
    (guarded : Bool) (cs : List Char) :
    cutComment guarded (guard cs ++ rest) = guard cs ++ kept := by
  induction cs generalizing guarded with
  | nil => exact hrest guarded
  | cons c cs ih =>
      by_cases hc : c = '%'
      · rw [hc, guard, List.cons_append, List.cons_append, cutComment_of_ne _ (by decide)]
        show '\\' :: '%' :: cutComment false (guard cs ++ rest) = _
        rw [ih]
        rfl
      · rw [guard_of_ne hc, List.cons_append, cutComment_of_ne _ hc, ih]
        rfl

theorem unguard_of_ne (h : ∀ cs', c = '\\' → cs ≠ '%' :: cs') :
    unguard (c :: cs) = c :: unguard cs := by
  rw [unguard]
  exact h

theorem unguard_guard (hrest : rest.head? ≠ some '%') (cs : List Char) :
    unguard (guard cs ++ rest) = cs ++ unguard rest := by
  induction cs with
  | nil => rfl
  | cons c cs ih =>
      by_cases hc : c = '%'
      · rw [hc, guard, List.cons_append, List.cons_append, unguard, ih]
        rfl
      · rw [guard_of_ne hc, List.cons_append, unguard_of_ne, ih]
        · rfl
        · intro cs' _ hnext
          cases cs with
          | nil => exact hrest (congrArg List.head? hnext)
          | cons d cs =>
              by_cases hd : d = '%'
              · rw [hd, guard] at hnext
                simp at hnext
              · rw [guard_of_ne hd] at hnext
                simp [hd] at hnext

/-! ## Lines -/

/-- The line holds a text that is not blank, and perhaps a comment after it. -/
structure Holds (line content : String) : Prop where
  notBlank : ∃ c ∈ content.toList, isBlank c = false
  written : line.toList = guard content.toList ∨
    ∃ comment, line.toList = guard content.toList ++ ' ' :: '%' :: comment

/-- The line holds nothing but a comment. -/
def IsComment (line : String) : Prop :=
  ∃ blanks comment, line.toList = blanks ++ '%' :: comment ∧ ∀ c ∈ blanks, isBlank c = true

/-- The line holds nothing but blanks. -/
def IsBlank (line : String) : Prop := ∀ c ∈ line.toList, isBlank c = true

theorem isBlank_guard : isBlank '%' = false ∧ isBlank '\\' = false ∧ isBlank ' ' = true :=
  ⟨rfl, rfl, rfl⟩

theorem ne_of_isBlank (h : isBlank c = true) : c ≠ '%' ∧ c ≠ '\\' := by
  obtain ⟨hpercent, hbackslash, _⟩ := isBlank_guard
  constructor
  · rintro rfl
    rw [hpercent] at h
    cases h
  · rintro rfl
    rw [hbackslash] at h
    cases h

theorem cutComment_blanks (h : ∀ c ∈ blanks, isBlank c = true) (hrest : cutComment false rest = []) :
    cutComment false (blanks ++ rest) = blanks := by
  induction blanks with
  | nil => exact hrest
  | cons c blanks ih =>
      obtain ⟨hc, hblanks⟩ := List.forall_mem_cons.mp h
      obtain ⟨hpercent, hbackslash⟩ := ne_of_isBlank hc
      rw [List.cons_append, cutComment_of_ne _ hpercent, beq_eq_false_iff_ne.mpr hbackslash,
        ih hblanks]

theorem unguard_blanks (h : ∀ c ∈ blanks, isBlank c = true) : unguard blanks = blanks := by
  induction blanks with
  | nil => rfl
  | cons c blanks ih =>
      obtain ⟨hc, hblanks⟩ := List.forall_mem_cons.mp h
      rw [unguard_of_ne fun _ hbackslash => absurd hbackslash (ne_of_isBlank hc).2, ih hblanks]

variable {content : String}

theorem stripComment_of_holds (h : Holds line content) (hline : '\n' ∉ line.toList) :
    stripComment line = trim content := by
  have htext : trimChars (unguard (cutComment false line.toList)) = trimChars content.toList := by
    rcases h.written with hplain | ⟨comment, hcomment⟩
    · have hcut : cutComment false (guard content.toList ++ []) = guard content.toList ++ [] :=
        cutComment_guard (fun _ => rfl) false _
      have hbody : unguard (guard content.toList ++ []) = content.toList ++ [] :=
        unguard_guard (by simp) _
      rw [List.append_nil] at hcut hbody
      rw [hplain, hcut, hbody, List.append_nil]
    · have hcut : cutComment false (guard content.toList ++ ' ' :: '%' :: comment) =
          guard content.toList ++ [' '] := cutComment_guard (fun _ => rfl) false _
      have hbody : unguard (guard content.toList ++ [' ']) = content.toList ++ [' '] :=
        unguard_guard (by decide) _
      have hblank : ∀ c ∈ [' '], isBlank c = true := List.forall_mem_singleton.mpr isBlank_guard.2.2
      rw [hcomment, hcut, hbody, trimChars_append_blanks hblank]
  rw [stripComment, cutLastComment_of_line hline, htext]
  rfl

/-- A line without a text is empty without its comment. -/
theorem stripComment_of_blanks (hblanks : ∀ c ∈ blanks, isBlank c = true)
    (hcut : cutComment false line.toList = blanks) (hline : '\n' ∉ line.toList) :
    stripComment line = "" := by
  rw [stripComment, cutLastComment_of_line hline, hcut, unguard_blanks hblanks,
    trimChars_of_blank hblanks]

theorem stripComment_of_blank (h : IsBlank line) (hline : '\n' ∉ line.toList) :
    stripComment line = "" := by
  have hcut : cutComment false (line.toList ++ []) = line.toList := cutComment_blanks h rfl
  rw [List.append_nil] at hcut
  exact stripComment_of_blanks h hcut hline

theorem stripComment_of_comment (h : IsComment line) (hline : '\n' ∉ line.toList) :
    stripComment line = "" := by
  obtain ⟨blanks, comment, hwritten, hblanks⟩ := h
  have hcut : cutComment false (blanks ++ '%' :: comment) = blanks := cutComment_blanks hblanks rfl
  rw [← hwritten] at hcut
  exact stripComment_of_blanks hblanks hcut hline

end Rule

end Treebank
