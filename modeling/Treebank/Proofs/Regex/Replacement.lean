import Treebank.Proofs.Basic
import Treebank.Proofs.Text.Number
import Treebank.Regex.Replacement
import Treebank.Statement.Replacement

/-!
# Reading replacement texts

The scanner comes to the end of a text without a lone backslash. What is taken on the way is known from
the characters that follow, and a number there may be an octal escape for too large a code: this is
the one fault that a look at the groups cannot rule out.
-/

namespace Treebank.Regex

variable {α β : Type} {c : Char} {cs : List Char}

/-! ## Texts without a lone backslash -/

/-- No backslash at the end of the text is without a partner. -/
def whole : List Char → Bool
  | [] => true
  | ['\\'] => false
  | '\\' :: _ :: cs => whole cs
  | _ :: cs => whole cs

theorem whole_cons (hc : c ≠ '\\') (cs : List Char) : whole (c :: cs) = whole cs := by
  rw [whole]
  · rintro rfl _
    exact absurd rfl hc
  · rintro d ds rfl
    exact absurd rfl hc

/-- An even number of backslashes at the end leaves none alone. -/
theorem whole_of_even (h : (cs.reverse.takeWhile (· == '\\')).length % 2 = 0) :
    whole cs = true := by
  fun_induction whole cs with
  | case1 => rfl
  | case2 => simp at h
  | case3 c cs ih =>
      refine ih ?_
      rw [List.reverse_cons, List.reverse_cons, List.append_assoc, List.takeWhile_append] at h
      split at h
      · rename_i hall
        have heven : (([c] ++ ['\\']).takeWhile (· == '\\')).length % 2 = 0 := by
          by_cases hc : c = '\\'
          · rw [hc]
            rfl
          · simp [hc]
        rw [List.length_append] at h
        omega
      · exact h
  | case4 c cs hlone hpair ih =>
      refine ih ?_
      have hc : (c == '\\') = false := by
        rw [beq_eq_false_iff_ne]
        rintro rfl
        cases cs with
        | nil => exact hlone rfl rfl
        | cons d ds => exact hpair d ds rfl rfl
      rw [List.reverse_cons, List.takeWhile_append] at h
      split at h
      · rename_i hall
        rw [hall]
        simpa [hc] using h
      · exact h

theorem not_mem_backslash_of_all {test : Char → Bool} (h : cs.all test = true)
    (htest : test '\\' = false) : '\\' ∉ cs := by
  intro hmem
  rw [List.all_eq_true.mp h _ hmem] at htest
  cases htest

namespace Scanner

variable {s : Scanner} {name rest : List Char} {d : Char}

/-- The scanner stands at the beginning of a text that it can come to the end of. -/
inductive At (s : Scanner) : List Char → Prop where
  | stop : s.next = none → At s []
  | escape {c : Char} : s.next = some (.escape c) → whole s.rest = true → At s ('\\' :: c :: s.rest)
  | plain {c : Char} : c ≠ '\\' → s.next = some (.plain c) → whole s.rest = true →
      At s (c :: s.rest)

theorem exists_advance (s : Scanner) (h : whole s.rest = true) :
    ∃ s', s.advance = .ok s' ∧ s'.At s.rest := by
  obtain ⟨next, rest, index⟩ := s
  unfold advance
  split
  · rename_i hrest
    cases hrest
    exact ⟨_, rfl, .stop rfl⟩
  · rename_i hrest
    cases hrest
    cases h
  · rename_i hrest
    cases hrest
    exact ⟨_, rfl, .escape rfl h⟩
  · rename_i c cs hlone hpair hrest
    cases hrest
    have hc : c ≠ '\\' := by
      rintro rfl
      cases cs with
      | nil => exact hlone rfl rfl
      | cons d ds => exact hpair d ds rfl rfl
    exact ⟨_, rfl, .plain hc rfl ((whole_cons hc cs).symm.trans h)⟩

theorem At.length_le (hs : s.At cs) : cs.length ≤ s.rest.length + 2 := by
  cases hs with
  | stop => exact Nat.zero_le _
  | escape => exact Nat.le_refl _
  | plain => exact Nat.le_succ _

/-- As many of the first characters are taken as pass the test. -/
theorem At.exists_takeUpTo (hs : s.At cs) (test : Char → Bool) (htest : test '\\' = false) (n : Nat) :
    ∃ rest s', takeUpTo test n s = .ok ((cs.take n).takeWhile test, s') ∧
      cs = (cs.take n).takeWhile test ++ rest ∧ s'.At rest := by
  induction n generalizing s cs with
  | zero => exact ⟨cs, s, rfl, rfl, hs⟩
  | succ n ih =>
      rw [takeUpTo]
      cases hs with
      | stop hnext =>
          rw [hnext]
          exact ⟨[], s, rfl, rfl, .stop hnext⟩
      | escape hnext hrest =>
          rw [hnext, List.take_succ_cons, List.takeWhile_cons, htest]
          exact ⟨_, s, rfl, rfl, .escape hnext hrest⟩
      | @plain c hc hnext hrest =>
          rw [hnext, List.take_succ_cons, List.takeWhile_cons]
          cases hpass : test c with
          | false =>
              simp only [hpass, Bool.false_eq_true, if_false]
              exact ⟨_, s, rfl, rfl, .plain hc hnext hrest⟩
          | true =>
              obtain ⟨s₁, hadvance, hs₁⟩ := s.exists_advance hrest
              obtain ⟨rest, s₂, htake, heq, hs₂⟩ := ih hs₁
              refine ⟨rest, s₂, ?_, congrArg (c :: ·) heq, hs₂⟩
              simp only [hpass, if_true, hadvance, ok_bind, htake]
              rfl

theorem At.exists_takeOne (hs : s.At (d :: cs)) (test : Char → Bool) (htest : test '\\' = false)
    (hd : test d = true) : ∃ s', takeUpTo test 1 s = .ok ([d], s') ∧ s'.At cs := by
  obtain ⟨rest, s', htake, heq, hs'⟩ := hs.exists_takeUpTo test htest 1
  simp only [List.take_succ_cons, List.take_zero, List.takeWhile_cons, hd, if_true,
    List.takeWhile_nil] at htake heq
  cases heq
  exact ⟨s', htake, hs'⟩

theorem At.takeOne_of_head {test : Char → Bool} (hs : s.At cs)
    (hcs : ∀ d ∈ cs.head?, test d = false) : takeUpTo test 1 s = .ok ([], s) := by
  cases hs with
  | stop hnext => rw [takeUpTo, hnext]
  | escape hnext => rw [takeUpTo, hnext]
  | plain _ hnext =>
      rw [takeUpTo, hnext]
      exact if_neg (by simp [hcs _ rfl])

theorem At.exists_accept (hs : s.At ('<' :: cs)) :
    ∃ s', s.accept? '<' = .ok (some s') ∧ s'.At cs := by
  cases hs with
  | plain _ hnext hrest =>
      obtain ⟨s', hadvance, hs'⟩ := s.exists_advance hrest
      refine ⟨s', ?_, hs'⟩
      rw [accept?, hnext, if_pos (beq_self_eq_true _), hadvance]
      rfl

open Statement (angleName) in
/-- The name up to the closing bracket is the one that is checked, as no backslash is in it. -/
theorem At.exists_takeUntil (hs : s.At cs) (hname : angleName cs = some (name, rest))
    (hmem : '\\' ∉ name) (taken : List Char) (hne : taken ++ name ≠ []) (what : String) {fuel : Nat}
    (hfuel : name.length < fuel) :
    ∃ s', takeUntil '>' what taken fuel s = .ok (taken ++ name, s') ∧ s'.At rest := by
  induction fuel generalizing s cs taken name with
  | zero => cases hfuel
  | succ fuel ih =>
      rw [takeUntil]
      cases hs with
      | stop hnext => cases hname
      | @escape c hnext hrest =>
          exfalso
          rw [angleName] at hname
          · obtain ⟨⟨name', rest'⟩, _, heq⟩ := Option.map_eq_some_iff.mp hname
            cases heq
            exact hmem List.mem_cons_self
          · decide
      | @plain c hc hnext hrest =>
          obtain ⟨s', hadvance, hs'⟩ := s.exists_advance hrest
          simp only [hnext, hadvance, ok_bind]
          by_cases hclose : c = '>'
          · subst hclose
            rw [angleName, Option.some.injEq, Prod.mk.injEq] at hname
            obtain ⟨rfl, rfl⟩ := hname
            rw [List.append_nil] at hne ⊢
            rw [if_pos (by simp), if_neg (by simpa using hne)]
            exact ⟨s', rfl, hs'⟩
          · rw [if_neg (by simpa using hclose)]
            rw [angleName] at hname
            · obtain ⟨⟨name', rest'⟩, hname', heq⟩ := Option.map_eq_some_iff.mp hname
              cases heq
              rw [List.mem_cons, not_or] at hmem
              obtain ⟨s'', htake, hs''⟩ := ih hs' hname' hmem.2 (taken ++ [c]) (by simp)
                (Nat.lt_of_succ_lt_succ hfuel)
              exact ⟨s'', by simpa [Element.chars] using htake, hs''⟩
            · exact hclose

/-- The scanner has come past some of the first characters of the text, and no backslash is among
them. -/
def Past (s : Scanner) (cs : List Char) : Prop :=
  ∃ taken rest, cs = taken ++ rest ∧ '\\' ∉ taken ∧ s.At rest

theorem At.past (hs : s.At cs) : s.Past cs := ⟨[], cs, rfl, List.not_mem_nil, hs⟩

end Scanner

/-! ## Octal escapes -/

/-- Three octal digits for a code above 255. -/
def isLargeOctal (digits : List Char) : Bool :=
  digits.length == 3 && digits.all isOctal &&
    decide (0o377 < Text.readDigits 8 Text.octalValue? digits)

/-- The text has an escape of three octal digits for a code above 255. Backslashes are taken with the
characters after them, from left to right. -/
def hasLargeOctal : List Char → Bool
  | '\\' :: c :: cs => isLargeOctal (c :: cs.take 2) || hasLargeOctal cs
  | _ :: cs => hasLargeOctal cs
  | [] => false

theorem hasLargeOctal_cons (hc : c ≠ '\\') (cs : List Char) :
    hasLargeOctal (c :: cs) = hasLargeOctal cs := by
  rw [hasLargeOctal]
  rintro d ds rfl
  exact absurd rfl hc

theorem hasLargeOctal_append {taken : List Char} (h : '\\' ∉ taken) (cs : List Char) :
    hasLargeOctal (taken ++ cs) = hasLargeOctal cs := by
  induction taken with
  | nil => rfl
  | cons c taken ih =>
      rw [List.mem_cons, not_or] at h
      rw [List.cons_append, hasLargeOctal_cons (Ne.symm h.1), ih h.2]

theorem hasLargeOctal_eq_false (h : '\\' ∉ cs) : hasLargeOctal cs = false := by
  rw [← List.append_nil cs, hasLargeOctal_append h]
  rfl

/-- Two octal digits follow. -/
def octalNext (cs : List Char) : Bool := (cs.take 2).length == 2 && (cs.take 2).all isOctal

theorem isLargeOctal_of_not (hoctal : (isOctal c && octalNext cs) = false) :
    isLargeOctal (c :: cs.take 2) = false := by
  rw [isLargeOctal, Bool.and_eq_false_iff]
  refine Or.inl ?_
  have hlength : ((cs.take 2).length + 1 == 3) = ((cs.take 2).length == 2) := by
    rw [Bool.eq_iff_iff, beq_iff_eq, beq_iff_eq]
    omega
  rw [List.length_cons, List.all_cons, Bool.and_left_comm, hlength]
  exact hoctal

theorem isDigit_of_isOctal (h : isOctal c = true) : c.isDigit = true := by
  simp only [isOctal, Text.octalValue?] at h
  split at h
  · rename_i hrange
    simp only [Bool.and_eq_true, decide_eq_true_eq] at hrange
    simp only [Char.isDigit, Bool.and_eq_true, decide_eq_true_eq]
    exact ⟨hrange.1, Nat.le_trans hrange.2 (by decide)⟩
  · cases h

theorem octalValue?_getD_le (c : Char) : (Text.octalValue? c).getD 0 ≤ 7 := by
  simp only [Text.octalValue?]
  split
  · rename_i hrange
    simp only [Bool.and_eq_true, decide_eq_true_eq] at hrange
    rw [Option.getD_some]
    omega
  · exact Nat.zero_le _

/-- A zero before two digits makes no code above 255. -/
theorem isLargeOctal_zero (cs : List Char) : isLargeOctal ('0' :: cs.take 2) = false := by
  have hzero : Text.octalValue? '0' = some 0 := by decide
  match cs with
  | [] => rfl
  | [_] => simp [isLargeOctal]
  | d :: e :: _ =>
      have hd := octalValue?_getD_le d
      have he := octalValue?_getD_le e
      rw [isLargeOctal, Bool.and_eq_false_iff]
      refine Or.inr (decide_eq_false ?_)
      simp only [List.take_succ_cons, List.take_zero, Text.readDigits, List.foldl_cons, List.foldl_nil,
        hzero, Option.getD_some]
      omega

/-! ## Outcomes -/

/-- The reading comes to its end as told, unless there is an octal escape for too large a code: then it
fails for such a one. -/
def Settles (large : Bool) (x : Except Error α) (Q : α → Prop) : Prop :=
  match x with
  | .ok a => large = false ∧ Q a
  | .error e => large = true ∧ ∃ text place, e = .malformed (.octalTooLarge text) place

theorem Settles.bind {large more : Bool} {x : Except Error α} {f : α → Except Error β}
    {P : α → Prop} {Q : β → Prop} (hx : Settles large x P) (hf : ∀ a, P a → Settles more (f a) Q) :
    Settles (large || more) (x >>= f) Q := by
  cases x with
  | error e => exact ⟨by simp [hx.1], hx.2⟩
  | ok a =>
      rw [hx.1, Bool.false_or]
      exact hf a hx.2

theorem Settles.bind_pure {large : Bool} {x : Except Error α} {P : α → Prop}
    (hx : Settles large x P) (g : α → β) :
    Settles large (x >>= fun a => pure (g a)) fun _ => True := by
  rw [← Bool.or_false large]
  exact hx.bind fun _ _ => ⟨rfl, trivial⟩

/-! ## References to groups -/

variable {r : Regex} {s : Scanner} {rest : List Char}

theorem pieceOfGroup_of_le {n : Nat} (h : n ≤ r.groupCount) (s : Scanner) (back : Nat) :
    pieceOfGroup r s n back = .ok (.group n) := if_neg (Nat.not_lt_of_le h)

theorem settles_readNumberPiece_octal {d e : Char} (hs : s.At (d :: e :: rest))
    (hc : isOctal c = true) (hd : isOctal d = true) (he : isOctal e = true) :
    Settles (isLargeOctal [c, d, e]) (readNumberPiece r c s)
      fun (_, s') => s'.Past (d :: e :: rest) := by
  obtain ⟨s₁, hsecond, hs₁⟩ := hs.exists_takeOne Char.isDigit (by decide)
    (isDigit_of_isOctal hd)
  obtain ⟨s₂, hthird, hs₂⟩ := hs₁.exists_takeOne isOctal (by decide) he
  have hpair : (isOctal c && [d].length == 1 && [d].all isOctal) = true := by simp [hc, hd]
  have hlarge : isLargeOctal [c, d, e] =
      decide (0o377 < Text.readDigits 8 Text.octalValue? [c, d, e]) := by
    simp [isLargeOctal, hc, hd, he]
  have hall : [d, e].all isOctal = true := by simp [hd, he]
  have hmem : '\\' ∉ [d, e] := not_mem_backslash_of_all hall (by decide)
  rw [readNumberPiece, hsecond, ok_bind]
  simp only [hpair, if_true, hthird, ok_bind, List.isEmpty_cons, Bool.false_eq_true, if_false]
  rw [hlarge]
  split
  · rename_i h
    exact ⟨decide_eq_true h, _, _, rfl⟩
  · rename_i h
    exact ⟨decide_eq_false h, [d, e], rest, rfl, hmem, hs₂⟩

/-- One or two digits that are no beginning of an octal escape refer to a group. -/
theorem exists_readNumberPiece (hs : s.At cs)
    (hle : Text.readDigits 10 Text.decimalValue? (c :: (cs.take 1).takeWhile Char.isDigit) ≤
      r.groupCount) (hoctal : (isOctal c && octalNext cs) = false) :
    ∃ piece s', readNumberPiece r c s = .ok (piece, s') ∧ s'.Past cs := by
  obtain ⟨rest, s₁, hsecond, heq, hs₁⟩ := hs.exists_takeUpTo Char.isDigit (by decide) 1
  have hpast : s₁.Past cs :=
    ⟨_, rest, heq, not_mem_backslash_of_all List.all_takeWhile (by decide), hs₁⟩
  generalize (cs.take 1).takeWhile Char.isDigit = second at *
  have hthird (hpair : (isOctal c && second.length == 1 && second.all isOctal) = true) :
      s₁.takeUpTo isOctal 1 = .ok ([], s₁) := by
    refine hs₁.takeOne_of_head fun e he => ?_
    simp only [Bool.and_eq_true, beq_iff_eq] at hpair
    obtain ⟨⟨hc, hlength⟩, hsecond⟩ := hpair
    obtain ⟨d, rfl⟩ := List.length_eq_one_iff.mp hlength
    cases rest with
    | nil => cases he
    | cons _ more =>
        cases he
        subst heq
        simp only [List.all_cons, List.all_nil, Bool.and_true] at hsecond
        simpa [octalNext, hc, hsecond] using hoctal
  have hgroup := pieceOfGroup_of_le hle s₁ (c :: second).length
  refine ⟨.group (Text.readDigits 10 Text.decimalValue? (c :: second)), s₁, ?_, hpast⟩
  rw [readNumberPiece, hsecond, ok_bind]
  dsimp only
  split
  · rename_i hpair
    rw [hthird hpair, ok_bind]
    simp only [List.append_nil, List.isEmpty_nil, if_true, hgroup]
    rfl
  · simp only [List.append_nil, List.isEmpty_nil, if_true, ok_bind, hgroup]
    rfl

end Treebank.Regex
