import Treebank.Proofs.Text.Number
import Treebank.Surgery.Index

/-!
# Indices within the limit on digits

A number of so many digits is below that power of ten. So the next index after those of labels can be
found and written, unless some label has an index of as many digits as a number may have, or more. It is
above them all, and it is read from every label that it is written at the end of.
-/

namespace Treebank

namespace Surgery

open Text

/-- The label ends in an index of as many digits as a number may have, or more. -/
def LongIndex (label : String) : Prop :=
  ∃ digits, labelDigits label = some digits ∧ digitLimit ≤ digits.length

variable {label : String} {labels : List String} {digits : List Char} {k : Nat}

theorem labelDigits_decimal (h : labelDigits label = some digits) :
    digits.all isDecimal = true ∧ digits ≠ [] := by
  simp only [labelDigits, indexDigits] at h
  generalize (if label.toList.reverse.head? == some '\n' then label.toList.reverse.drop 1
    else label.toList.reverse) = rev at h
  split at h
  · rename_i hcond
    cases h
    simp only [Bool.and_eq_true, Bool.not_eq_true', List.isEmpty_eq_false_iff] at hcond
    refine ⟨?_, by simpa using hcond.1⟩
    rw [List.all_reverse]
    exact List.all_takeWhile
  · cases h

/-- The index of a label can be read and is below a power of ten, unless it is long. -/
theorem labelIndex_cases (label : String) : LongIndex label ∨
    ∃ index, labelIndex label = .ok index ∧ ∀ n, index = some n → n < 10 ^ (digitLimit - 1) := by
  cases hdigits : labelDigits label with
  | none => exact Or.inr ⟨none, by delta labelIndex; rw [hdigits], nofun⟩
  | some digits =>
      by_cases hlong : digitLimit ≤ digits.length
      · exact Or.inl ⟨digits, hdigits, hlong⟩
      · obtain ⟨hall, hne⟩ := labelDigits_decimal hdigits
        rcases readNat_cases digits hall hne with ⟨hover, _⟩ | ⟨n, hn, hlt⟩
        · exact absurd (Nat.le_of_lt hover) hlong
        · refine Or.inr ⟨some n, by delta labelIndex; rw [hdigits]; exact congrArg (some <$> ·) hn, ?_⟩
          rintro _ ⟨⟩
          exact Nat.lt_of_lt_of_le hlt (Nat.pow_le_pow_right (by decide) (by omega))

theorem foldl_max_lt_iff {ns : List Nat} {m b : Nat} :
    ns.foldl max m < b ↔ m < b ∧ ∀ n ∈ ns, n < b := by
  induction ns generalizing m with
  | nil => simp
  | cons n ns ih => simp [ih, and_assoc]

/-- If no index is long, the next index is found and can be written. -/
theorem freshIndex_cases (labels : List String) : (∃ l ∈ labels, LongIndex l) ∨
    ∃ k, freshIndex labels = .ok k ∧ writeNat k = .ok (toString k) := by
  have hindices : ∀ labels : List String, (∃ l ∈ labels, LongIndex l) ∨
      ∃ indices : List (Option Nat), labels.mapM labelIndex = .ok indices ∧
        ∀ n, some n ∈ indices → n < 10 ^ (digitLimit - 1) := by
    intro labels
    induction labels with
    | nil => exact Or.inr ⟨[], rfl, nofun⟩
    | cons l labels ih =>
        rcases labelIndex_cases l with hlong | ⟨index, hindex, hlt⟩
        · exact Or.inl ⟨l, List.mem_cons_self, hlong⟩
        · rcases ih with ⟨l', hl', hlong⟩ | ⟨indices, hall, hlts⟩
          · exact Or.inl ⟨l', List.mem_cons_of_mem l hl', hlong⟩
          · refine Or.inr ⟨index :: indices, ?_, ?_⟩
            · rw [List.mapM_cons, hindex, hall]
              rfl
            · intro n hn
              rcases List.mem_cons.mp hn with hn | hn
              · exact hlt n hn.symm
              · exact hlts n hn
  rcases hindices labels with hlong | ⟨indices, hall, hlt⟩
  · exact Or.inl hlong
  · have hlarge : (indices.filterMap id).foldl max 0 < 10 ^ (digitLimit - 1) := by
      refine foldl_max_lt_iff.mpr ⟨Nat.pow_pos (by decide), fun n hn => ?_⟩
      obtain ⟨o, ho, hn⟩ := List.mem_filterMap.mp hn
      exact hlt n (hn ▸ ho)
    refine Or.inr ⟨(indices.filterMap id).foldl max 0 + 1, ?_, writeNat_of_lt ?_⟩
    · rw [freshIndex, hall]
      rfl
    · exact Nat.lt_of_le_of_lt hlarge (Nat.pow_lt_pow_right (by decide) (by decide))

/-! ## Numbers at the end of labels -/

/-- The number that the index of a label writes, with however many digits. -/
def trailingNumber (label : String) : Option Nat := (labelDigits label).bind readNat?

/-- The label ends in an index of more digits than a number may have. -/
def OverlongIndex (label : String) : Prop :=
  ∃ digits, labelDigits label = some digits ∧ digitLimit < digits.length

/-- The number at the end of a label is found unless it has too many digits. -/
theorem labelIndex_eq_trailingNumber (label : String) :
    OverlongIndex label ∧ (∃ e, labelIndex label = .error e) ∨
      ¬OverlongIndex label ∧ labelIndex label = .ok (trailingNumber label) := by
  cases hdigits : labelDigits label with
  | none =>
      refine Or.inr ⟨?_, by delta labelIndex trailingNumber; rw [hdigits]; rfl⟩
      rintro ⟨digits, hsome, _⟩
      rw [hdigits] at hsome
      cases hsome
  | some digits =>
      obtain ⟨hall, hne⟩ := labelDigits_decimal hdigits
      have hindex : labelIndex label = some <$> readNat digits digits := by
        delta labelIndex
        rw [hdigits]
      rcases readNat_cases digits hall hne with ⟨hlong, herror⟩ | ⟨n, hn, _⟩
      · exact Or.inl ⟨⟨digits, hdigits, hlong⟩, _, by rw [hindex, herror]; rfl⟩
      · obtain ⟨hle, hread⟩ := readNat_eq_ok hn
        refine Or.inr ⟨?_, ?_⟩
        · rintro ⟨digits', hdigits', hlong⟩
          rw [hdigits, Option.some.injEq] at hdigits'
          subst hdigits'
          rw [List.takeWhile_eq_self_iff.mpr (List.all_eq_true.mp hall)] at hle
          exact absurd hlong (Nat.not_lt_of_le hle)
        · rw [hindex, hn, trailingNumber, hdigits, Option.bind_some, hread]
          rfl

theorem mapM_labelIndex (labels : List String) :
    (∃ l ∈ labels, OverlongIndex l) ∧ (∃ e, labels.mapM labelIndex = .error e) ∨
      (∀ l ∈ labels, ¬OverlongIndex l) ∧
        labels.mapM labelIndex = .ok (labels.map trailingNumber) := by
  induction labels with
  | nil => exact Or.inr ⟨nofun, rfl⟩
  | cons l labels ih =>
      rw [List.mapM_cons]
      rcases labelIndex_eq_trailingNumber l with ⟨hlong, e, he⟩ | ⟨hl, hindex⟩
      · exact Or.inl ⟨⟨l, List.mem_cons_self, hlong⟩, e, by rw [he]; rfl⟩
      · rcases ih with ⟨⟨l', hl', hlong⟩, e, he⟩ | ⟨hlabels, hindices⟩
        · exact Or.inl ⟨⟨l', List.mem_cons_of_mem l hl', hlong⟩, e, by rw [hindex, he]; rfl⟩
        · exact Or.inr ⟨List.forall_mem_cons.mpr ⟨hl, hlabels⟩, by rw [hindex, hindices]; rfl⟩

/-- The index of the label has too many digits, or no number above it can be written. -/
def ExhaustsIndices (label : String) : Prop :=
  OverlongIndex label ∨ ∃ n, trailingNumber label = some n ∧ 10 ^ digitLimit ≤ n + 1

/-- The next index is found and written, unless some label exhausts the indices; and then it is above all
numbers at the end of the labels. -/
theorem freshIndex_eq (labels : List String) :
    (∃ l ∈ labels, ExhaustsIndices l) ∧ (∃ e, (freshIndex labels >>= writeNat) = .error e) ∨
      (∀ l ∈ labels, ¬ExhaustsIndices l) ∧
        ∃ k, (freshIndex labels >>= writeNat) = .ok (toString k) ∧
          ∀ l ∈ labels, ∀ n, trailingNumber l = some n → n < k := by
  rcases mapM_labelIndex labels with ⟨⟨l, hl, hlong⟩, e, he⟩ | ⟨hshort, hindices⟩
  · exact Or.inl ⟨⟨l, hl, Or.inl hlong⟩, e, by rw [freshIndex, he]; rfl⟩
  · have hfresh : freshIndex labels = .ok ((labels.filterMap trailingNumber).foldl max 0 + 1) := by
      rw [freshIndex, hindices]
      show Except.ok _ = _
      rw [List.filterMap_map]
      rfl
    generalize hhighest : (labels.filterMap trailingNumber).foldl max 0 = highest at hfresh
    have hiff : ∀ b, highest < b ↔ 0 < b ∧ ∀ l ∈ labels, ∀ n, trailingNumber l = some n → n < b := by
      intro b
      rw [← hhighest, foldl_max_lt_iff]
      simp only [List.mem_filterMap]
      exact and_congr_right fun _ => ⟨fun h l hl n hn => h n ⟨l, hl, hn⟩,
        fun h n ⟨l, hl, hn⟩ => h l hl n hn⟩
    have habove := ((hiff (highest + 1)).mp (Nat.lt_succ_self highest)).2
    rw [hfresh]
    by_cases hroom : highest + 1 < 10 ^ digitLimit
    · refine Or.inr ⟨?_, highest + 1, writeNat_of_lt hroom, habove⟩
      rintro l hl (hlong | ⟨n, hn, hlarge⟩)
      · exact hshort l hl hlong
      · exact absurd (Nat.lt_of_le_of_lt (habove l hl n hn) hroom) (Nat.not_lt_of_le hlarge)
    · refine Or.inl ⟨?_, _, writeNat_of_le (Nat.le_of_not_lt hroom)⟩
      by_contra hnone
      have hone : 1 < 10 ^ digitLimit := Nat.one_lt_pow (by decide) (by decide)
      refine hroom (Nat.add_lt_of_lt_sub ((hiff _).mpr ⟨Nat.sub_pos_of_lt hone, fun l hl n hn => ?_⟩))
      refine Nat.lt_sub_of_add_lt (Nat.lt_of_not_le fun hlarge => hnone ?_)
      exact ⟨l, hl, Or.inr ⟨n, hn, hlarge⟩⟩

/-! ## Attached numbers -/

theorem indexDigits_append {rest : List Char} (hdigits : ∀ c ∈ digits, isDecimal c = true)
    (hne : digits ≠ []) : indexDigits (digits.reverse ++ '-' :: rest) = some digits := by
  have hhyphen : isDecimal '-' = false := by decide
  have htake : (digits.reverse ++ '-' :: rest).takeWhile isDecimal = digits.reverse := by
    rw [List.takeWhile_append_of_pos fun c hc => hdigits c (List.mem_reverse.mp hc),
      List.takeWhile_cons_of_neg (by simp [hhyphen]), List.append_nil]
  rw [indexDigits, htake, List.drop_left]
  simp [hne]

/-- A number attached to a label is the number at the end of it, whatever the label ended in. -/
theorem trailingNumber_attach (label : String) (k : Nat) :
    trailingNumber (label ++ "-" ++ toString k) = some k := by
  have hdigit : ∀ c ∈ Nat.toDigits 10 k, c.isDigit = true := fun c hc =>
    Nat.isDigit_of_mem_toDigits (by decide) (by decide) hc
  have hdecimal : ∀ c ∈ Nat.toDigits 10 k, isDecimal c = true := fun c hc => by
    rw [isDecimal, decimalValue?_of_isDigit (hdigit c hc)]
    rfl
  have hrev : (label ++ "-" ++ toString k).toList.reverse =
      (Nat.toDigits 10 k).reverse ++ '-' :: label.toList.reverse := by
    simp
  have hhead : ¬(((Nat.toDigits 10 k).reverse ++ '-' :: label.toList.reverse).head? == some '\n') =
      true := by
    obtain ⟨c, cs, hcs⟩ := List.exists_cons_of_ne_nil
      (List.reverse_ne_nil_iff.mpr (Nat.toDigits_ne_nil (b := 10) (n := k)))
    have hc := hdigit c (List.mem_reverse.mp (hcs ▸ List.mem_cons_self))
    rw [hcs, List.cons_append, List.head?_cons, beq_iff_eq, Option.some.injEq]
    rintro rfl
    cases hc
  have hdigits : labelDigits (label ++ "-" ++ toString k) = some (Nat.toDigits 10 k) := by
    rw [labelDigits, hrev]
    simp only [hhead]
    exact indexDigits_append hdecimal Nat.toDigits_ne_nil
  rw [trailingNumber, hdigits, Option.bind_some, readNat?_toDigits]

end Surgery

end Treebank
