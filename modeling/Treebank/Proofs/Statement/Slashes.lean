import Treebank.Proofs.Statement.Replacement
import Treebank.Proofs.Statement.Words

/-!
# Substitutions between slashes

Between the slashes of a substitution every backslash protects the character after it. What has been
read between them keeps its backslashes but those before slashes, so a slash in it no longer is
protected: written again it is taken for the end of a part.
-/

namespace Treebank.Statement

open Text

variable {c : Char} {cs part source replacement current : List Char} {n : Nat}
  {r : Regex} {statement : String}

/-- Every backslash stands before a character that it protects, other than a slash. -/
inductive Paired : List Char → Prop where
  | nil : Paired []
  | plain {c : Char} {cs : List Char} (hc : c ≠ '\\') (h : Paired cs) : Paired (c :: cs)
  | escape {c : Char} {cs : List Char} (hc : c ≠ '/') (h : Paired cs) : Paired ('\\' :: c :: cs)

theorem Paired.append {ds : List Char} (h : Paired cs) (hds : Paired ds) : Paired (cs ++ ds) := by
  induction h with
  | nil => exact hds
  | plain hc _ ih => exact .plain hc ih
  | escape hc _ ih => exact .escape hc ih

/-! ## Splitting at slashes -/

theorem splitSlashes_escape (hc : c ≠ '/') (current cs : List Char) :
    splitSlashes current ('\\' :: c :: cs) = splitSlashes (c :: '\\' :: current) cs := by
  rw [splitSlashes]
  exact fun h => hc h

theorem splitSlashes_plain (hc : c ≠ '\\') (hslash : c ≠ '/') (current cs : List Char) :
    splitSlashes current (c :: cs) = splitSlashes (c :: current) cs := by
  rw [splitSlashes]
  · exact fun _ h => absurd h hc
  · exact fun _ _ h => absurd h hc
  · exact hslash

theorem splitSlashes_ne_nil (current cs : List Char) : splitSlashes current cs ≠ [] := by
  fun_induction splitSlashes current cs with
  | case1 | case4 => exact List.cons_ne_nil _ _
  | case2 _ _ ih | case3 _ _ _ _ ih | case5 _ _ _ _ _ _ ih => exact ih

/-- What is split off before a slash has all its backslashes paired. -/
theorem paired_of_mem_splitSlashes (current cs : List Char) (hcurrent : Paired current.reverse) :
    ∀ part ∈ (splitSlashes current cs).dropLast, Paired part := by
  have hpush {current more : List Char} (hcurrent : Paired current.reverse)
      (hmore : Paired more) : Paired (more.reverse ++ current).reverse := by
    rw [List.reverse_append, List.reverse_reverse]
    exact hcurrent.append hmore
  fun_induction splitSlashes current cs with
  | case1 current => exact List.forall_mem_nil _
  | case2 current cs ih => exact ih (hpush hcurrent (.plain (by decide) .nil))
  | case3 current c cs hc ih => exact ih (hpush hcurrent (.escape hc .nil))
  | case4 current cs ih =>
      rw [List.dropLast_cons_of_ne_nil (splitSlashes_ne_nil [] cs)]
      exact List.forall_mem_cons.mpr ⟨hcurrent, ih .nil⟩
  | case5 current c cs _ hescape _ ih =>
      by_cases hc : c = '\\'
      · -- a backslash without a character after it belongs to the last part
        cases cs with
        | nil => exact List.forall_mem_nil _
        | cons d cs => exact absurd rfl (hescape d cs hc)
      · exact ih (hpush hcurrent (.plain hc .nil))

/-- A part without slashes ends at the next one. -/
theorem splitSlashes_of_paired (h : Paired part) (hslash : '/' ∉ part) (current cs : List Char) :
    splitSlashes current (part ++ '/' :: cs) = (current.reverse ++ part) :: splitSlashes [] cs := by
  induction h generalizing current with
  | nil => rw [List.append_nil]; rfl
  | plain hc _ ih =>
      obtain ⟨hne, hslash⟩ := List.ne_and_not_mem_of_not_mem_cons hslash
      rw [List.cons_append, splitSlashes_plain hc (Ne.symm hne), ih hslash]
      simp
  | escape hc _ ih =>
      have hslash := (List.ne_and_not_mem_of_not_mem_cons hslash).2
      obtain ⟨hne, hslash⟩ := List.ne_and_not_mem_of_not_mem_cons hslash
      rw [List.cons_append, List.cons_append, splitSlashes_escape hc, ih hslash]
      simp

/-! ## Counting slashes -/

/-- Slashes in a part whose backslashes are paired all count. -/
theorem markedLength_of_paired (h : Paired part) (n : Nat) (cs : List Char) :
    markedLength '/' (part.count '/' + (n + 1)) (part ++ cs) =
      (markedLength '/' (n + 1) cs).map (· + part.length) := by
  induction h with
  | nil => simp
  | @plain c part hc _ ih =>
      rw [List.cons_append, List.count_cons]
      by_cases hslash : c = '/'
      · subst hslash
        rw [if_pos (beq_self_eq_true _), Nat.add_right_comm, markedLength_cons hc,
          if_pos (beq_self_eq_true _), ih, Option.map_map]
        rfl
      · have hbeq : ¬(c == '/') = true := fun h => hslash (eq_of_beq h)
        rw [if_neg hbeq, Nat.add_zero, ← Nat.add_assoc, markedLength_cons hc, if_neg hbeq,
          Nat.add_assoc, ih, Option.map_map]
        rfl
  | @escape c part hc _ ih =>
      rw [List.cons_append, List.cons_append, List.count_cons_of_ne (by decide),
        List.count_cons_of_ne hc, ← Nat.add_assoc, markedLength_escape, Nat.add_assoc, ih,
        Option.map_map]
      rfl

/-- If there are enough slashes in such a part, no more of the text is looked at. -/
theorem exists_markedLength_of_paired (h : Paired part) (hn : 0 < n) (hcount : n ≤ part.count '/')
    (cs : List Char) : ∃ m ≤ part.length, markedLength '/' n (part ++ cs) = some m := by
  obtain ⟨n, rfl⟩ := Nat.exists_eq_succ_of_ne_zero (Nat.pos_iff_ne_zero.mp hn)
  induction h generalizing n with
  | nil => cases hcount
  | @plain c part hc _ ih =>
      rw [List.count_cons] at hcount
      rw [List.cons_append, Nat.succ_eq_add_one, markedLength_cons hc]
      by_cases hslash : c = '/'
      · subst hslash
        rw [if_pos (beq_self_eq_true _)] at hcount ⊢
        cases n with
        | zero => exact ⟨1, Nat.succ_le_succ (Nat.zero_le _), by rw [markedLength]; rfl⟩
        | succ n =>
            obtain ⟨m, hm, hlength⟩ := ih n (Nat.succ_pos n) (Nat.le_of_succ_le_succ hcount)
            exact ⟨m + 1, Nat.succ_le_succ hm, by rw [hlength]; rfl⟩
      · have hbeq : ¬(c == '/') = true := fun h => hslash (eq_of_beq h)
        rw [if_neg hbeq] at hcount ⊢
        obtain ⟨m, hm, hlength⟩ := ih n hn hcount
        exact ⟨m + 1, Nat.succ_le_succ hm, by rw [hlength]; rfl⟩
  | @escape c part hc _ ih =>
      rw [List.count_cons_of_ne (by decide), List.count_cons_of_ne hc] at hcount
      obtain ⟨m, hm, hlength⟩ := ih n hn hcount
      rw [List.cons_append, List.cons_append, Nat.succ_eq_add_one, markedLength_escape, hlength]
      exact ⟨m + 2, Nat.add_le_add_right hm 2, rfl⟩

/-! ## Reading a substitution -/

/-- A substitution as statements write it. -/
def inSlashes (source replacement : List Char) : List Char :=
  '/' :: (source ++ '/' :: (replacement ++ ['/']))

/-- Whether an escape passes the check does not depend on the statement it is in. -/
theorem check_congr {e : Escape} (h : e.check statement r = .ok ()) (other : String) :
    e.check other r = .ok () := by
  cases e with
  | octal => rfl
  | named name =>
      simp only [Escape.check] at h ⊢
      split at h
      · rename_i hdigits
        obtain ⟨n, hn, h⟩ := exists_of_bind_eq_ok h
        rw [if_pos hdigits, hn, ok_bind]
        split at h
        · rename_i hle
          rw [if_pos hle]
          rfl
        · cases h
      · rename_i hdigits
        rw [if_neg hdigits]
        split at h
        · rename_i hgroup
          rw [if_pos hgroup]
        · cases h
  | numbered digits =>
      rw [Escape.check] at h ⊢
      split at h
      · rename_i hzero
        rw [if_pos hzero]
      · rename_i hzero
        obtain ⟨n, hn, h⟩ := exists_of_bind_eq_ok h
        rw [if_neg hzero, hn, ok_bind]
        split at h
        · rename_i hle
          rw [if_pos hle]
          rfl
        · cases h
  | other c =>
      rw [Escape.check] at h ⊢
      split at h
      · cases h
      · rename_i hletter
        rw [if_neg hletter]

/-- What has been read as a substitution: an expression and a replacement that fits it, in both of
which backslashes are paired. -/
structure IsSubstitution (change : Relabeling) (r : Regex) (replacement : String) : Prop where
  change_eq : change = .substitution r replacement
  parse : Regex.parse r.source = .ok r
  check : ∀ statement, checkReplacement statement r replacement.toList = .ok ()
  paired_source : Paired r.source.toList
  paired_replacement : Paired replacement.toList

theorem exists_isSubstitution {token : String} {change : Relabeling}
    (h : readSubstitution statement token = .ok change) :
    ∃ r replacement, IsSubstitution change r replacement := by
  rw [readSubstitution] at h
  split at h
  · rename_i source replacement hparts
    have hpaired := paired_of_mem_splitSlashes [] (token.toList.drop 1) .nil
    rw [hparts] at hpaired
    simp only at h
    split at h
    · cases h
    · cases h
    · rename_i r hparse
      obtain ⟨_, hcheck, h⟩ := exists_of_bind_eq_ok h
      cases h
      obtain ⟨halone, hpasses⟩ := checkReplacement_eq_ok_iff.mp hcheck
      have hsource : r.source = String.ofList source := Pattern.source_of_parse hparse
      refine ⟨r, String.ofList replacement, rfl, hsource ▸ hparse, fun other => ?_, ?_, ?_⟩
      · rw [String.toList_ofList]
        exact checkReplacement_eq_ok_iff.mpr
          ⟨halone, fun e he => check_congr (hpasses e he) other⟩
      · rw [hsource, String.toList_ofList]
        exact hpaired source (.head _)
      · rw [String.toList_ofList]
        exact hpaired replacement (.tail _ (.head _))
  · cases h

section
variable {change : Relabeling} {replacement : String} (h : IsSubstitution change r replacement)
include h

/-- Without slashes in its parts, what is written is one word. -/
theorem IsSubstitution.isWord (hsource : '/' ∉ r.source.toList)
    (hreplacement : '/' ∉ replacement.toList) :
    IsWord (inSlashes r.source.toList replacement.toList) := by
  refine ⟨'/', _, rfl, rfl, fun more _ => ?_⟩
  have hone := markedLength_of_paired h.paired_source 1
    ('/' :: (replacement.toList ++ '/' :: more))
  have htwo := markedLength_of_paired h.paired_replacement 0 ('/' :: more)
  rw [List.count_eq_zero_of_not_mem hsource, Nat.zero_add,
    markedLength_cons (by decide), if_pos (beq_self_eq_true _)] at hone
  rw [List.count_eq_zero_of_not_mem hreplacement, Nat.zero_add, markedLength_cons (by decide),
    if_pos (beq_self_eq_true _), markedLength] at htwo
  have hlist : r.source.toList ++ '/' :: (replacement.toList ++ ['/']) ++ more =
      r.source.toList ++ '/' :: (replacement.toList ++ '/' :: more) := by
    simp
  rw [furtherLength_slash, hlist, hone, htwo]
  simp only [Option.map_some, Option.elim_some, List.length_append, List.length_cons,
    List.length_nil, Except.ok.injEq]
  omega

/-- Without slashes in its parts, what is written is read as what it was. -/
theorem IsSubstitution.read (hsource : '/' ∉ r.source.toList)
    (hreplacement : '/' ∉ replacement.toList) (statement : String) :
    readSubstitution statement
      (String.ofList (inSlashes r.source.toList replacement.toList)) = .ok change := by
  have hparts : splitSlashes [] (r.source.toList ++ '/' :: (replacement.toList ++ ['/'])) =
      [r.source.toList, replacement.toList, []] := by
    rw [splitSlashes_of_paired h.paired_source hsource,
      splitSlashes_of_paired h.paired_replacement hreplacement]
    rfl
  have hdrop : (inSlashes r.source.toList replacement.toList).drop 1 =
      r.source.toList ++ '/' :: (replacement.toList ++ ['/']) := rfl
  rw [readSubstitution, String.toList_ofList, hdrop, hparts]
  simp only [String.ofList_toList, h.parse, h.check, h.change_eq, ok_bind]
  rfl

/-- If what is written is one word, there are no slashes in its parts: one in them would be counted
before the last. -/
theorem IsSubstitution.not_mem_of_scan {w : List Char}
    (hscan : scan (inSlashes r.source.toList replacement.toList) = .ok [w]) :
    '/' ∉ r.source.toList ∧ '/' ∉ replacement.toList := by
  have hpaired : Paired (r.source.toList ++ '/' :: replacement.toList) :=
    h.paired_source.append (.plain (by decide) h.paired_replacement)
  have hlist : inSlashes r.source.toList replacement.toList =
      '/' :: (r.source.toList ++ '/' :: replacement.toList ++ ['/']) := by
    simp [inSlashes]
  have hcount : (r.source.toList ++ '/' :: replacement.toList).count '/' < 2 := by
    by_contra hmany
    obtain ⟨m, hm, hlength⟩ :=
      exists_markedLength_of_paired hpaired (by decide) (Nat.le_of_not_lt hmany) ['/']
    have hfurther : furtherLength '/' (r.source.toList ++ '/' :: replacement.toList ++ ['/']) =
        .ok m := by
      rw [furtherLength_slash, hlength]
      rfl
    rw [hlist, scan, if_neg (by decide), hfurther] at hscan
    obtain ⟨ws, hws, heq⟩ := exists_of_map_eq_ok hscan
    obtain rfl : ws = [] := (List.cons.inj heq).2
    rw [List.drop_append_of_le_length hm] at hws
    have hblank := blank_of_scan hws '/' (List.mem_append_right _ (.head _))
    revert hblank
    decide
  rw [List.count_append, List.count_cons_self] at hcount
  exact ⟨List.count_eq_zero.mp (by omega), List.count_eq_zero.mp (by omega)⟩

end

end Treebank.Statement
