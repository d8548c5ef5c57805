import Mathlib.Data.List.DropRight
import Mathlib.Data.List.TakeWhile
import Treebank.Text.Blank
import Treebank.Text.Lines

/-!
# Blanks and lines

Trimming takes away blanks and nothing else. The lines of a text hold no line ends.
-/

namespace Treebank.Text

variable {c : Char} {cs blanks : List Char} {line text : String}

/-! ## Blanks -/

theorem mem_dropWhile {test : Char → Bool} (hc : test c = false) (h : c ∈ cs) :
    c ∈ cs.dropWhile test := by
  rw [← List.takeWhile_append_dropWhile (p := test) (l := cs), List.mem_append] at h
  refine h.resolve_left fun hmem => ?_
  rw [List.all_eq_true.mp List.all_takeWhile c hmem] at hc
  cases hc

theorem mem_trimChars (hc : isBlank c = false) (h : c ∈ cs) : c ∈ trimChars cs := by
  rw [trimChars, List.mem_reverse]
  exact mem_dropWhile hc (List.mem_reverse.mpr (mem_dropWhile hc h))

theorem trimChars_of_blank (h : ∀ c ∈ cs, isBlank c = true) : trimChars cs = [] := by
  rw [trimChars, List.dropWhile_eq_nil_iff.mpr h]
  rfl

theorem trimChars_of_not_blank (h : ∀ c ∈ cs, isBlank c = false) : trimChars cs = cs := by
  have hstay {ds : List Char} (hds : ∀ c ∈ ds, isBlank c = false) : ds.dropWhile isBlank = ds := by
    cases ds with
    | nil => rfl
    | cons d ds =>
        rw [List.dropWhile_cons, hds d List.mem_cons_self]
        rfl
  rw [trimChars, hstay h, hstay fun c hc => h c (List.mem_reverse.mp hc), List.reverse_reverse]

theorem trimChars_append_blanks (h : ∀ c ∈ blanks, isBlank c = true) (cs : List Char) :
    trimChars (cs ++ blanks) = trimChars cs := by
  rw [trimChars, trimChars, List.dropWhile_append]
  split
  · rename_i hcs
    rw [List.isEmpty_iff.mp hcs, List.dropWhile_eq_nil_iff.mpr h]
  · rw [List.reverse_append,
      List.dropWhile_append_of_pos fun c hc => h c (List.mem_reverse.mp hc)]

/-- What has been trimmed has no blanks at its ends. -/
theorem trimChars_trimChars (cs : List Char) : trimChars (trimChars cs) = trimChars cs := by
  have htrim (ds : List Char) : trimChars ds = (ds.dropWhile isBlank).rdropWhile isBlank := rfl
  have hleft : ((cs.dropWhile isBlank).rdropWhile isBlank).dropWhile isBlank =
      (cs.dropWhile isBlank).rdropWhile isBlank := by
    rw [List.dropWhile_eq_self_iff]
    intro hlength
    have hhead := (List.rdropWhile_prefix isBlank (cs.dropWhile isBlank)).getElem hlength
    rw [hhead]
    exact List.dropWhile_get_zero_not isBlank cs _
  rw [htrim (trimChars cs), htrim cs, hleft, List.rdropWhile_idempotent]

theorem trim_trim (s : String) : trim (trim s) = trim s := by
  rw [trim, trim, String.toList_ofList, trimChars_trimChars]

theorem trimChars_ne_nil (hc : isBlank c = false) (h : c ∈ cs) : trimChars cs ≠ [] :=
  List.ne_nil_of_mem (mem_trimChars hc h)

/-! ## Lines -/

theorem all_not_isLineEnd {begun : List Char} (hbegun : ∀ c ∈ begun, isLineEnd c = false) :
    ∀ l ∈ linesFrom begun cs, ∀ c ∈ l, isLineEnd c = false := by
  have hreverse : ∀ c ∈ begun.reverse, isLineEnd c = false :=
    fun c hc => hbegun c (List.mem_reverse.mp hc)
  fun_induction linesFrom begun cs with
  | case1 line => exact List.forall_mem_nil _
  | case2 line => exact List.forall_mem_singleton.mpr hreverse
  | case3 line cs ih =>
      exact List.forall_mem_cons.mpr ⟨hreverse, ih (List.forall_mem_nil _) (List.forall_mem_nil _)⟩
  | case4 line c cs _ _ ih =>
      exact List.forall_mem_cons.mpr ⟨hreverse, ih (List.forall_mem_nil _) (List.forall_mem_nil _)⟩
  | case5 line c cs _ hc ih =>
      have hmore : ∀ d ∈ c :: line, isLineEnd d = false :=
        List.forall_mem_cons.mpr ⟨Bool.eq_false_iff.mpr hc, hbegun⟩
      exact ih hmore fun d hd => hmore d (List.mem_reverse.mp hd)

theorem not_isLineEnd_of_mem_lines (h : line ∈ lines text) :
    ∀ c ∈ line.toList, isLineEnd c = false := by
  obtain ⟨l, hl, rfl⟩ := List.mem_map.mp h
  rw [String.toList_ofList]
  exact all_not_isLineEnd (List.forall_mem_nil _) l hl

end Treebank.Text
