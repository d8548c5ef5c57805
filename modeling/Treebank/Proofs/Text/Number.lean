import Mathlib.Data.List.TakeWhile
import Mathlib.Data.Nat.Digits.Defs
import Treebank.Proofs.Text.Blank
import Treebank.Proofs.Text.CutSet
import Treebank.Text.Hex
import Treebank.Text.Number

/-!
# Digits and numbers

What is read as a number consists of decimal digits, and is below the power of ten with so many zeros.
Every number is read from the digits that write it.
-/

namespace Treebank.Text

variable {c : Char} {cs : List Char} {n : Nat}

theorem decimalValue?_lt (h : decimalValue? c = some n) : n < 10 := by
  obtain ⟨z, hz, rfl⟩ := Option.map_eq_some_iff.mp h
  have hrange := List.find?_some hz
  simp only [Bool.and_eq_true, decide_eq_true_eq] at hrange
  omega

theorem exists_foldlM_decimalValue? (hcs : cs.all isDecimal = true) (n : Nat) :
    ∃ m, cs.foldlM (fun n c => (decimalValue? c).map (10 * n + ·)) n = some m ∧
      m < (n + 1) * 10 ^ cs.length := by
  induction cs generalizing n with
  | nil => exact ⟨n, rfl, by simp⟩
  | cons c cs ih =>
      simp only [List.all_cons, Bool.and_eq_true] at hcs
      obtain ⟨hc, hcs⟩ := hcs
      obtain ⟨v, hv⟩ := Option.isSome_iff_exists.mp hc
      have hlt := decimalValue?_lt hv
      obtain ⟨m, hm, hbound⟩ := ih hcs (10 * n + v)
      refine ⟨m, ?_, ?_⟩
      · rw [List.foldlM_cons, hv]
        exact hm
      · refine Nat.lt_of_lt_of_le hbound ?_
        rw [List.length_cons, Nat.pow_succ, Nat.mul_comm (10 ^ cs.length), ← Nat.mul_assoc]
        exact Nat.mul_le_mul_right _ (by omega)

/-- Decimal digits up to the limit write a number. -/
theorem readNat_cases (text : List Char) (hcs : cs.all isDecimal = true) (hne : cs ≠ []) :
    digitLimit < cs.length ∧ readNat text cs = .error (.tooManyDigits cs.length) ∨
      ∃ n, readNat text cs = .ok n ∧ n < 10 ^ cs.length := by
  have hdigits : cs.takeWhile isDecimal = cs :=
    List.takeWhile_eq_self_iff.mpr fun c hc => List.all_eq_true.mp hcs c hc
  simp only [readNat, hdigits]
  split
  · rename_i hlong
    exact Or.inl ⟨hlong, rfl⟩
  · obtain ⟨n, hn, hlt⟩ := exists_foldlM_decimalValue? hcs 0
    rw [Nat.zero_add, Nat.one_mul] at hlt
    refine Or.inr ⟨n, ?_, hlt⟩
    rw [readNat?, if_neg (by simpa using hne), hn]

theorem readNat_eq_ok {text : List Char} (h : readNat text cs = .ok n) :
    (cs.takeWhile isDecimal).length ≤ digitLimit ∧ readNat? cs = some n := by
  simp only [readNat] at h
  split at h
  · cases h
  · rename_i hshort
    split at h
    · rename_i m hm
      cases h
      exact ⟨Nat.le_of_not_lt hshort, hm⟩
    · cases h

theorem writeNat_of_lt (h : n < 10 ^ digitLimit) : writeNat n = .ok (toString n) := by
  have hlength := Nat.repr_length n digitLimit (by decide) h
  exact if_neg (Nat.not_lt_of_le hlength)

/-! ## What can be read -/

theorem readNat?_eq_none (h : c ∈ cs) (hc : isDecimal c = false) : readNat? cs = none := by
  have hvalue : decimalValue? c = none := by simpa [isDecimal] using hc
  have hfold : ∀ n, cs.foldlM (fun n c => (decimalValue? c).map (10 * n + ·)) n = none := by
    induction cs with
    | nil => cases h
    | cons d cs ih =>
        intro n
        rw [List.foldlM_cons]
        rcases List.mem_cons.mp h with rfl | h
        · rw [hvalue]
          rfl
        · cases decimalValue? d with
          | none => rfl
          | some v => exact ih h _
  rw [readNat?, hfold]
  split <;> rfl

theorem all_isDecimal_of_readNat? (h : readNat? cs = some n) : cs.all isDecimal = true := by
  rw [List.all_eq_true]
  intro c hc
  by_contra hother
  rw [readNat?_eq_none hc (Bool.eq_false_iff.mpr hother)] at h
  cases h

theorem lt_of_readNat? (h : readNat? cs = some n) : n < 10 ^ cs.length := by
  obtain ⟨m, hm, hlt⟩ := exists_foldlM_decimalValue? (all_isDecimal_of_readNat? h) 0
  rw [readNat?, hm] at h
  split at h
  · cases h
  · cases h
    rwa [Nat.zero_add, Nat.one_mul] at hlt

/-- Digits that write a number write it with blanks and low lines allowed, too. -/
theorem readLooseInt?_of_readNat {text : List Char} (hdigits : cs.all isDigitChar = true)
    (h : readNat text cs = .ok n) : readLooseInt? cs = some (n : Int) := by
  rw [List.all_eq_true] at hdigits
  have hother {d : Char} (hd : isDigitChar d = false) : d ∉ cs := by
    intro hmem
    rw [hdigits d hmem] at hd
    cases hd
  have htrim := trimChars_of_not_blank fun d hd => isBlank_of_isDigitChar (hdigits d hd)
  obtain ⟨hshort, hn⟩ := readNat_eq_ok h
  have htake : cs.takeWhile isDecimal = cs :=
    List.takeWhile_eq_self_iff.mpr (List.all_eq_true.mp (all_isDecimal_of_readNat? hn))
  rw [htake] at hshort
  have hsplit : cs.splitOnP (· == '_') = [cs] := by
    refine List.splitOnP_eq_singleton fun d hd => ?_
    rw [beq_eq_false_iff_ne]
    rintro rfl
    exact hother (isDigitChar_of_ascii (by decide)) hd
  have hne : cs.isEmpty = false := by
    cases cs with
    | nil => cases hn
    | cons => rfl
  simp only [readLooseInt?, htrim]
  split
  · exact absurd List.mem_cons_self (hother (isDigitChar_of_ascii (by decide)))
  · exact absurd List.mem_cons_self (hother (isDigitChar_of_ascii (by decide)))
  · rw [hsplit, if_neg (by simp [hne, hshort])]
    simp [hn]

/-- Where all digits have a value, the others that count as zero make no difference. -/
theorem readDigits_of_readNat? (h : readNat? cs = some n) :
    readDigits 10 decimalValue? cs = n := by
  have hfold (m : Nat) (hm : cs.foldlM (fun n c => (decimalValue? c).map (10 * n + ·)) m = some n) :
      cs.foldl (fun n c => 10 * n + (decimalValue? c).getD 0) m = n := by
    clear h
    induction cs generalizing m with
    | nil => simpa using hm
    | cons c cs ih =>
        rw [List.foldlM_cons] at hm
        cases hc : decimalValue? c with
        | none =>
            rw [hc] at hm
            cases hm
        | some v =>
            rw [hc] at hm
            rw [List.foldl_cons, hc]
            exact ih _ hm
  rw [readNat?] at h
  split at h
  · cases h
  · exact hfold 0 h

/-- More digits write no smaller number. -/
theorem readDigits_le_append {base : Nat} (hbase : 0 < base) (value? : Char → Option Nat)
    (cs ds : List Char) : readDigits base value? cs ≤ readDigits base value? (cs ++ ds) := by
  rw [readDigits, readDigits, List.foldl_append]
  generalize cs.foldl (fun n c => base * n + (value? c).getD 0) 0 = n
  induction ds generalizing n with
  | nil => exact Nat.le_refl n
  | cons d ds ih =>
      rw [List.foldl_cons]
      refine Nat.le_trans ?_ (ih _)
      exact Nat.le_add_right_of_le (Nat.le_mul_of_pos_left n hbase)

/-! ## Digits that write a number -/

theorem range_of_isDigit (h : c.isDigit = true) : 48 ≤ c.toNat ∧ c.toNat < 58 := by
  simp only [Char.isDigit, Bool.and_eq_true, decide_eq_true_eq] at h
  exact ⟨h.1, Nat.lt_succ_of_le h.2⟩

theorem decimalValue?_of_isDigit (h : c.isDigit = true) :
    decimalValue? c = some (c.toNat - '0'.toNat) := by
  have hrange := range_of_isDigit h
  simp [decimalValue?, decimalZeros, hrange.1, hrange.2]

theorem isDecimal_of_isDigit (h : c.isDigit = true) : isDecimal c = true := by
  rw [isDecimal, decimalValue?_of_isDigit h]
  rfl

theorem range_of_isAlpha (h : c.isAlpha = true) : 65 ≤ c.toNat ∧ c.toNat < 123 := by
  have hcases : (c.isUpper || c.isLower) = true := h
  rw [Bool.or_eq_true] at hcases
  rcases hcases with hupper | hlower
  · obtain ⟨hle, hge⟩ : 'A'.val ≤ c.val ∧ c.val ≤ 'Z'.val := of_decide_eq_true hupper
    exact ⟨hle, Nat.lt_of_le_of_lt hge (by decide)⟩
  · have hrange : (decide ('a'.val ≤ c.val) && decide (c.val ≤ 'z'.val)) = true := hlower
    simp only [Bool.and_eq_true, decide_eq_true_eq] at hrange
    exact ⟨Nat.le_trans (by decide) hrange.1, Nat.lt_succ_of_le hrange.2⟩

theorem isDecimal_of_isAlpha (h : c.isAlpha = true) : isDecimal c = false := by
  have hcodes : ∀ k < 123, 65 ≤ k →
      (decimalZeros.find? fun z => z ≤ k && k < z + 10) = none := by decide +kernel
  obtain ⟨hle, hlt⟩ := range_of_isAlpha h
  rw [isDecimal, decimalValue?, hcodes _ hlt hle]
  rfl

theorem isDigitChar_of_isDigit (h : c.isDigit = true) : isDigitChar c = true := by
  obtain ⟨_, hlt⟩ := range_of_isDigit h
  exact (isDigitChar_of_ascii (Nat.lt_trans hlt (by decide))).trans h

theorem foldlM_decimalValue?_of_isDigit (h : ∀ c ∈ cs, c.isDigit = true) (n : Nat) :
    cs.foldlM (fun n c => (decimalValue? c).map (10 * n + ·)) n =
      some (Nat.ofDigitChars 10 cs n) := by
  induction cs generalizing n with
  | nil => simp
  | cons c cs ih =>
      obtain ⟨hc, hcs⟩ := List.forall_mem_cons.mp h
      rw [List.foldlM_cons, decimalValue?_of_isDigit hc, Nat.ofDigitChars_cons]
      exact ih hcs _

/-- A number is read from the digits that write it. -/
theorem readNat?_toDigits (n : Nat) : readNat? (Nat.toDigits 10 n) = some n := by
  have hdigits : ∀ c ∈ Nat.toDigits 10 n, c.isDigit = true := fun c hc =>
    Nat.isDigit_of_mem_toDigits (by decide) (by decide) hc
  rw [readNat?, if_neg (by simp),
    foldlM_decimalValue?_of_isDigit hdigits, Nat.ofDigitChars_ten_toDigits]

/-- A number that takes too many digits is not written. -/
theorem writeNat_of_le (h : 10 ^ digitLimit ≤ n) : writeNat n = .error .tooLarge := by
  have hlength : digitLimit < (toString n).length := by
    rw [Nat.toString_eq_repr, ← String.length_toList, Nat.toList_repr]
    by_contra hshort
    have hlt := lt_of_readNat? (readNat?_toDigits n)
    have hle := Nat.pow_le_pow_right (by decide : 0 < 10) (Nat.le_of_not_lt hshort)
    exact absurd h (Nat.not_le_of_lt (Nat.lt_of_lt_of_le hlt hle))
  exact if_pos hlength

end Treebank.Text
