import Treebank.Proofs.Pattern.Delimited
import Treebank.Proofs.Statement.Words

/-!
# Quoted labels in statements

A quoted label is one word of a statement, and a new label written so is that label. Patterns and
statements read it in ways of their own, and come to the same.
-/

namespace Treebank.Statement

open Text
open Pattern (IsName protect inQuotes protect_mark protect_plain)

theorem markedLength_protect (label cs : List Char) :
    markedLength '"' 1 (protect label ++ '"' :: cs) = some ((protect label).length + 1) := by
  induction label with
  | nil => exact congrArg _ (markedLength.eq_1 ..)
  | cons c label ih =>
      by_cases hc : c = '\\' ∨ c = '"'
      · rw [protect_mark hc, List.cons_append, List.cons_append, markedLength_escape, ih]
        rfl
      · obtain ⟨hescape, hquote⟩ := not_or.mp hc
        rw [protect_plain hc, List.cons_append, markedLength_cons hescape,
          if_neg fun h => hquote (eq_of_beq h), ih]
        rfl

theorem unprotect_protect (label : List Char) : unprotect (protect label) = label := by
  induction label with
  | nil => rfl
  | cons c label ih =>
      by_cases hc : c = '\\' ∨ c = '"'
      · rw [protect_mark hc, unprotect, ih]
        rintro rfl
        simp at hc
      · obtain ⟨hescape, -⟩ := not_or.mp hc
        rw [protect_plain hc, unprotect, ih]
        · exact fun h => absurd h hescape
        · exact fun _ h => absurd h hescape
        · exact fun _ _ h => absurd h hescape

theorem unquote_inQuotes (label : List Char) : unquote (inQuotes label) = label := by
  rw [unquote, inQuotes, List.drop_one, List.tail_cons, List.dropLast_concat, unprotect_protect]

/-- A quoted label is one word, whatever comes after it. -/
theorem scan_inQuotes (label cs : List Char) :
    scan (inQuotes label ++ cs) = (inQuotes label :: ·) <$> scan cs := by
  have hlength : furtherLength '"' (protect label ++ ['"'] ++ cs) =
      .ok (protect label ++ ['"']).length := by
    rw [furtherLength_quote, List.append_assoc, List.singleton_append, markedLength_protect,
      List.length_append]
    rfl
  rw [inQuotes, List.cons_append, scan, if_neg (by decide), hlength]
  simp only [List.take_left, List.drop_left]

theorem isWord_inQuotes (label : List Char) : IsWord (inQuotes label) := by
  have hscan := scan_inQuotes label []
  rw [List.append_nil, scan] at hscan
  exact isWord_of_scan hscan _ List.mem_cons_self

theorem readRelabeling_inQuotes (statement label : String) :
    readRelabeling statement (String.ofList (inQuotes label.toList)) = .ok (.literal label) := by
  have hlabel : String.ofList (unquote (inQuotes label.toList)) = label := by
    rw [unquote_inQuotes, String.ofList_toList]
  rw [readRelabeling, String.toList_ofList]
  exact congrArg (fun l => Except.ok (Relabeling.literal l)) hlabel

theorem read_relabel_inQuotes (label : String) :
    read ("relabel n " ++ String.ofList (inQuotes label.toList)) =
      .ok (.relabel "n" (.literal label)) := by
  have hname : IsName "n" := ⟨by decide, isWordChar_of_all_ascii (by decide)⟩
  have hscan : scan (String.ofList (inQuotes label.toList)).toList =
      .ok [inQuotes label.toList] := by
    rw [String.toList_ofList]
    exact scan_of_isWord (isWord_inQuotes label.toList)
  have htext : "relabel n " = "relabel " ++ "n" ++ " " := by decide
  rw [htext, read_relabel hname hscan, readRelabeling_inQuotes]
  rfl

/-- Quoting is faithful in both languages. In a pattern and in a statement, the quoted label is that
label, whatever it is made of, and a token that begins where the quoted label does ends where it does,
whatever comes after it. -/
theorem quoted_label_reads_back (label : String) :
    Pattern.read (String.ofList (inQuotes label.toList)) =
      .ok (.node (some ⟨[.literal label], false⟩) none none) ∧
    read ("relabel n " ++ String.ofList (inQuotes label.toList)) =
      .ok (.relabel "n" (.literal label)) ∧
    (∀ offset spaced cs, Pattern.scanFrom offset spaced (inQuotes label.toList ++ cs) =
      (⟨.quoted, label, offset, spaced, false⟩ :: ·)
        <$> Pattern.scanFrom (offset + (inQuotes label.toList).length) false cs) ∧
    ∀ cs, scan (inQuotes label.toList ++ cs) = (inQuotes label.toList :: ·) <$> scan cs :=
  ⟨Pattern.read_inQuotes label, read_relabel_inQuotes label, Pattern.scanFrom_inQuotes label,
    scan_inQuotes label.toList⟩

end Treebank.Statement
