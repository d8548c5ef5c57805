import Mathlib.Data.List.Chain
import Treebank.Text.Blank
import Treebank.Text.Digit
import Treebank.Text.Identifier
import Treebank.Text.Letter

/-!
# Sets of code points by their cuts

The search for the cuts at or below a code point finds the number of them, as the cuts are sorted. So
the set is made of the stretches between the cuts, taken two by two. No digit is the beginning of an
identifier or a blank, and no word character is a blank.
-/

namespace Treebank.Text.CutSet

variable {s u : CutSet} {cuts : Array Nat} {l r : List Nat} {n k : Nat}

/-- The cuts are in their order. -/
def Sorted (s : CutSet) : Prop := s.cuts.toList.Pairwise (· ≤ ·)

/-- So many cuts are at or below the code point, and no others. -/
structure Splits (cuts : Array Nat) (n k : Nat) : Prop where
  le_size : k ≤ cuts.size
  below : ∀ i < k, cuts.getD i 0 ≤ n
  above : ∀ i, k ≤ i → i < cuts.size → n < cuts.getD i 0

theorem getD_le_getD (h : cuts.toList.Pairwise (· ≤ ·)) {i j : Nat} (hij : i ≤ j)
    (hj : j < cuts.size) : cuts.getD i 0 ≤ cuts.getD j 0 := by
  rcases Nat.lt_or_eq_of_le hij with hlt | rfl
  · have hle := List.pairwise_iff_getElem.mp h i j (by simp; omega) (by simpa using hj) hlt
    simpa [Array.getD_eq_getD_getElem?, hj, Nat.lt_of_le_of_lt hij hj] using hle
  · exact Nat.le_refl _

theorem rankBetween_splits (hsorted : cuts.toList.Pairwise (· ≤ ·)) (n fuel lo hi : Nat)
    (hfuel : hi ≤ lo + fuel) (hle : lo ≤ hi) (hhi : hi ≤ cuts.size)
    (hbelow : ∀ i < lo, cuts.getD i 0 ≤ n)
    (habove : ∀ i, hi ≤ i → i < cuts.size → n < cuts.getD i 0) :
    Splits cuts n (rankBetween cuts n fuel lo hi) := by
  induction fuel generalizing lo hi with
  | zero =>
      obtain rfl : lo = hi := by omega
      exact ⟨hhi, hbelow, habove⟩
  | succ fuel ih =>
      simp only [rankBetween]
      split
      · split
        · rename_i hcut
          refine ih _ _ (by omega) (by omega) hhi (fun i hi' => ?_) habove
          exact Nat.le_trans (getD_le_getD hsorted (by omega) (by omega)) hcut
        · rename_i hcut
          refine ih _ _ (by omega) (by omega) (by omega) hbelow fun i hi' hsize => ?_
          exact Nat.lt_of_lt_of_le (Nat.lt_of_not_le hcut) (getD_le_getD hsorted hi' hsize)
      · obtain rfl : lo = hi := by omega
        exact ⟨hhi, hbelow, habove⟩

theorem rank_splits (h : s.Sorted) (n : Nat) : Splits s.cuts n (s.rank n) :=
  rankBetween_splits h n _ 0 _ (by omega) (Nat.zero_le _) (Nat.le_refl _) nofun
    fun _ hle hlt => absurd hlt (Nat.not_lt_of_le hle)

/-! ## Stretches -/

/-- The code point lies in a stretch that begins and ends with these cuts, taken two by two. -/
def Holds (n : Nat) : List Nat → Prop
  | a :: b :: l => a ≤ n ∧ n < b ∨ Holds n l
  | _ => False

theorem holds_of_getElem? {a b : Nat} : {l : List Nat} → {k : Nat} → k % 2 = 0 →
    l[k]? = some a → l[k + 1]? = some b → a ≤ n → n < b → Holds n l
  | [], _, _, ha, _, _, _ => by simp at ha
  | [_], 0, _, _, hb, _, _ => by simp at hb
  | [_], _ + 1, _, ha, _, _, _ => by simp at ha
  | _ :: _ :: _, 0, _, ha, hb, hle, hlt => by
      simp only [List.getElem?_cons_zero, List.getElem?_cons_succ, Option.some.injEq] at ha hb
      exact Or.inl ⟨ha ▸ hle, hb ▸ hlt⟩
  | _ :: _ :: _, 1, hk, _, _, _, _ => by omega
  | _ :: _ :: l, k + 2, hk, ha, hb, hle, hlt => by
      simp only [List.getElem?_cons_succ] at ha hb
      exact Or.inr (holds_of_getElem? (by omega) ha hb hle hlt)

/-- A code point of a set of closed stretches lies in one of them. -/
theorem holds_of_containsCode (hsorted : s.Sorted) (heven : s.cuts.size % 2 = 0)
    (h : s.containsCode n = true) : Holds n s.cuts.toList := by
  have hsplits := rank_splits hsorted n
  simp only [containsCode, beq_iff_eq] at h
  have hle := hsplits.le_size
  have hlt : s.rank n < s.cuts.size := by omega
  have hbelow := hsplits.below (s.rank n - 1) (by omega)
  have habove := hsplits.above _ (Nat.le_refl _) hlt
  simp only [Array.getD_eq_getD_getElem?] at hbelow habove
  rw [Array.getElem?_eq_getElem (by omega), Option.getD_some] at hbelow habove
  refine holds_of_getElem? (k := s.rank n - 1) (by omega) ?_ ?_ hbelow habove
  · rw [Array.getElem?_toList, Array.getElem?_eq_getElem]
  · rw [Array.getElem?_toList, Nat.sub_add_cancel (by omega), Array.getElem?_eq_getElem]

theorem Holds.le {a b : Nat} (h : Holds n (a :: b :: l))
    (hsorted : (a :: b :: l).Pairwise (· ≤ ·)) : a ≤ n := by
  have hmem : ∀ l : List Nat, Holds n l → ∃ c ∈ l, c ≤ n := by
    intro l hl
    induction l using Holds.induct with
    | case1 c d l ih =>
        rcases hl with ⟨hle, _⟩ | hl
        · exact ⟨c, List.mem_cons_self, hle⟩
        · obtain ⟨e, he, hle⟩ := ih hl
          exact ⟨e, by simp [he], hle⟩
    | case2 l hshort =>
        unfold Holds at hl
        split at hl
        · exact absurd rfl (hshort _ _ _)
        · exact hl.elim
  obtain ⟨c, hc, hle⟩ := hmem _ h
  rcases List.mem_cons.mp hc with rfl | hc
  · exact hle
  · exact Nat.le_trans ((List.pairwise_cons.mp hsorted).1 c hc) hle

/-- The stretches of the one list and those of the other lie apart; they are compared from the left
to the right. -/
def apart : (fuel : Nat) → List Nat → List Nat → Bool
  | 0, _, _ => false
  | fuel + 1, a :: b :: l, c :: d :: r =>
    if b ≤ c then apart fuel l (c :: d :: r) else d ≤ a && apart fuel (a :: b :: l) r
  | _ + 1, _, _ => true

theorem not_holds_of_apart {fuel : Nat} (h : apart fuel l r = true) (hl : l.Pairwise (· ≤ ·))
    (hr : r.Pairwise (· ≤ ·)) (hn : Holds n l) : ¬Holds n r := by
  induction fuel generalizing l r with
  | zero => simp [apart] at h
  | succ fuel ih =>
      match l, r with
      | [], _ | [_], _ => exact hn.elim
      | _ :: _ :: _, [] | _ :: _ :: _, [_] => exact id
      | a :: b :: l, c :: d :: r =>
          have hl' := (List.pairwise_cons.mp (List.pairwise_cons.mp hl).2).2
          have hr' := (List.pairwise_cons.mp (List.pairwise_cons.mp hr).2).2
          intro hn'
          simp only [apart] at h
          split at h
          · rename_i hbc
            rcases hn with ⟨_, hlt⟩ | hn
            · exact absurd (hn'.le hr) (by omega)
            · exact ih h hl' hr hn hn'
          · simp only [Bool.and_eq_true, decide_eq_true_eq] at h
            rcases hn' with ⟨_, hlt⟩ | hn'
            · exact absurd (hn.le hl) (by omega)
            · exact ih h.2 hl hr' hn hn'

/-- The cuts of the set are in their order, and every stretch has an end. -/
def isProper (s : CutSet) : Bool :=
  decide (s.cuts.toList.IsChain (· ≤ ·)) && s.cuts.size % 2 == 0

theorem isProper_iff : s.isProper = true ↔ s.Sorted ∧ s.cuts.size % 2 = 0 := by
  rw [isProper, Bool.and_eq_true, decide_eq_true_iff, beq_iff_eq, List.isChain_iff_pairwise, Sorted]

/-- No code point is in both sets, as far as so many stretches tell. -/
def isApart (fuel : Nat) (s u : CutSet) : Bool :=
  s.isProper && u.isProper && apart fuel s.cuts.toList u.cuts.toList

theorem not_containsCode_of_isApart {fuel : Nat} (h : s.isApart fuel u = true)
    (hn : s.containsCode n = true) : u.containsCode n = false := by
  simp only [isApart, Bool.and_eq_true, isProper_iff] at h
  obtain ⟨⟨⟨hs, hseven⟩, hu, hueven⟩, hapart⟩ := h
  rw [Bool.eq_false_iff]
  intro hn'
  exact not_holds_of_apart hapart hs hu (holds_of_containsCode hs hseven hn)
    (holds_of_containsCode hu hueven hn')

end Treebank.Text.CutSet

namespace Treebank.Text

/-- Sets of which the first and the second have no character in common. -/
def apartTables : List (CutSet × CutSet) :=
  [(digits, identifierStarts), (digits, blanks), (letters, blanks), (numerals, blanks)]

theorem isApart_of_mem {s u : CutSet} (h : (s, u) ∈ apartTables) : s.isApart 2000 u = true := by
  have hall : (apartTables.all fun e => e.1.isApart 2000 e.2) = true := by decide +kernel
  exact List.all_eq_true.mp hall _ h

theorem not_contains_of_mem {s u : CutSet} {c : Char} (h : (s, u) ∈ apartTables)
    (hc : s.contains c = true) : u.contains c = false :=
  CutSet.not_containsCode_of_isApart (isApart_of_mem h) hc

/-- No identifier begins with a digit. -/
theorem identifierStarts_of_isDigitChar {c : Char} (h : isDigitChar c = true) :
    identifierStarts.contains c = false :=
  not_contains_of_mem (by simp [apartTables]) h

theorem isBlank_of_isDigitChar {c : Char} (h : isDigitChar c = true) : isBlank c = false :=
  not_contains_of_mem (by simp [apartTables]) h

theorem isBlank_of_isWordChar {c : Char} (h : isWordChar c = true) : isBlank c = false := by
  simp only [isWordChar, Bool.or_eq_true, beq_iff_eq] at h
  rcases h with (hletter | hnumeral) | rfl
  · exact not_contains_of_mem (by simp [apartTables]) hletter
  · exact not_contains_of_mem (by simp [apartTables]) hnumeral
  · rfl

/-- Of the first 128 code points the letters, the digits and the underscore are word characters, and the
ten digits have a digit value. -/
theorem classes_of_ascii {c : Char} (h : c.toNat < 128) :
    isWordChar c = isAsciiWordChar c ∧ isDigitChar c = c.isDigit := by
  have hall : ((List.range 128).all fun n =>
      isWordChar (Char.ofNat n) == isAsciiWordChar (Char.ofNat n) &&
        isDigitChar (Char.ofNat n) == (Char.ofNat n).isDigit) = true := by
    decide +kernel
  have hc := List.all_eq_true.mp hall c.toNat (List.mem_range.mpr h)
  rwa [Bool.and_eq_true, beq_iff_eq, beq_iff_eq, Char.ofNat_toNat] at hc

theorem isWordChar_of_ascii {c : Char} (h : c.toNat < 128) : isWordChar c = isAsciiWordChar c :=
  (classes_of_ascii h).1

theorem isDigitChar_of_ascii {c : Char} (h : c.toNat < 128) : isDigitChar c = c.isDigit :=
  (classes_of_ascii h).2

/-- Any other character of these is none in a text of word characters. -/
theorem ne_of_isWordChar {c d : Char} (h : isWordChar c = true) (hd : d.toNat < 128)
    (hnot : isAsciiWordChar d = false) : c ≠ d := by
  rintro rfl
  rw [isWordChar_of_ascii hd, hnot] at h
  cases h

theorem isWordChar_of_all_ascii {cs : List Char}
    (h : (cs.all fun c => decide (c.toNat < 128) && isAsciiWordChar c) = true) :
    ∀ c ∈ cs, isWordChar c = true := by
  intro c hc
  have hc := List.all_eq_true.mp h c hc
  rw [Bool.and_eq_true, decide_eq_true_iff] at hc
  exact (isWordChar_of_ascii hc.1).trans hc.2

end Treebank.Text
