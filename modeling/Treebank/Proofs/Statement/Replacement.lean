import Treebank.Proofs.Regex.Groups
import Treebank.Proofs.Regex.Replacement

/-!
# Checked replacement texts

The check of a replacement text and its application read the text in different ways: the one looks for
escapes and takes their characters together, the other goes from element to element. They come to the
same backslashes, since no escape that passes the check takes one beyond its own. So what has been
checked can be applied, but for octal escapes, whose size the check does not look at.
-/

namespace Treebank.Text

variable {cs : List Char}

theorem isIdentifier_of_mem_backslash (h : '\\' ∈ cs) : isIdentifier cs = false := by
  cases cs with
  | nil => cases h
  | cons c cs =>
      rw [isIdentifier, Bool.and_eq_false_iff]
      rcases List.mem_cons.mp h with rfl | h
      · exact Or.inl (by decide +kernel)
      · refine Or.inr (List.all_eq_false.mpr ⟨_, h, ?_⟩)
        decide +kernel

theorem isIdentifier_of_digits (hne : cs ≠ []) (h : cs.all isDigitChar = true) :
    isIdentifier cs = false := by
  cases cs with
  | nil => exact absurd rfl hne
  | cons c cs =>
      rw [List.all_cons, Bool.and_eq_true] at h
      rw [isIdentifier, identifierStarts_of_isDigitChar h.1, Bool.false_and]

end Treebank.Text

namespace Treebank.Statement

open Regex

variable {r : Regex} {s : Scanner} {cs rest name digits : List Char} {statement : String} {c : Char}

/-! ## Escapes -/

theorem escapes_cons (hc : c ≠ '\\') (cs : List Char) : escapes (c :: cs) = escapes cs := by
  rw [escapes]
  rintro d ds rfl
  exact absurd rfl hc

/-- Characters other than backslashes make no difference. -/
theorem escapes_append {taken : List Char} (h : '\\' ∉ taken) (cs : List Char) :
    escapes (taken ++ cs) = escapes cs := by
  induction taken with
  | nil => rfl
  | cons c taken ih =>
      rw [List.mem_cons, not_or] at h
      rw [List.cons_append, escapes_cons (Ne.symm h.1), ih h.2]

theorem escapes_escape (c : Char) (cs : List Char) : escapes ('\\' :: c :: cs) =
    (escapeAfter c cs).1 :: escapes (cs.drop (escapeAfter c cs).2) := by
  rw [escapes]

theorem angleName_eq {more : List Char} (h : angleName more = some (name, rest)) :
    more = name ++ '>' :: rest := by
  induction more generalizing name with
  | nil => cases h
  | cons c more ih =>
      by_cases hc : c = '>'
      · subst hc
        cases h
        rfl
      · rw [angleName] at h
        · obtain ⟨⟨name', rest'⟩, h', heq⟩ := Option.map_eq_some_iff.mp h
          cases heq
          exact congrArg (c :: ·) (ih h')
        · exact hc

theorem escapeAfter_of_octal (hoctal : (isOctal c && octalNext cs) = true) :
    escapeAfter c cs = (.octal, 2) := by
  rw [octalNext] at hoctal
  simp only [escapeAfter, hoctal, if_true]

theorem escapeAfter_of_isDecimal (hc : Text.isDecimal c = true)
    (hoctal : (isOctal c && octalNext cs) = false) :
    escapeAfter c cs = (.numbered (c :: (cs.take 1).takeWhile Text.isDecimal),
      ((cs.take 1).takeWhile Text.isDecimal).length) := by
  have hg : c ≠ 'g' := by
    rintro rfl
    exact absurd hc (by decide)
  rw [octalNext] at hoctal
  simp only [escapeAfter, hoctal, Bool.false_eq_true, if_false]
  split
  · exact absurd rfl hg
  · rw [if_pos hc]
    cases cs with
    | nil => rfl
    | cons d ds => cases hd : Text.isDecimal d <;> simp [hd]

theorem escapeAfter_of_not (hc : Text.isDecimal c = false) (hg : c ≠ 'g') (cs : List Char) :
    escapeAfter c cs = (.other c, 0) := by
  have hoctal : isOctal c = false := by
    rw [Bool.eq_false_iff]
    intro hoctal
    rw [Text.isDecimal_of_isDigit (isDigit_of_isOctal hoctal)] at hc
    cases hc
  simp only [escapeAfter, hoctal, hc, Bool.false_and, Bool.false_eq_true, if_false]
  split
  · exact absurd rfl hg
  · rfl

/-! ## What has passed the check -/

theorem groupNumber_eq_ok {n : Nat} (h : groupNumber digits = .ok n) :
    Text.readNat digits digits = .ok n := eq_ok_of_mapError h

/-- A name that passes the check is made of digits that write the number of a group, or is the name of
one. -/
theorem named_of_check (h : (Escape.named name).check statement r = .ok ()) :
    (name ≠ [] ∧ name.all Text.isDigitChar = true ∧
      ∃ n ≤ r.groupCount, Text.readNat name name = .ok n) ∨
      ∃ n, r.groupNames.lookup (String.ofList name) = some n := by
  simp only [Escape.check] at h
  split at h
  · rename_i hdigits
    simp only [Bool.and_eq_true, Bool.not_eq_true', List.isEmpty_eq_false_iff] at hdigits
    obtain ⟨n, hn, h⟩ := exists_of_bind_eq_ok h
    split at h
    · rename_i hle
      exact Or.inl ⟨hdigits.1, hdigits.2, n, hle, groupNumber_eq_ok hn⟩
    · cases h
  · split at h
    · rename_i hgroup
      exact Or.inr (Option.isSome_iff_exists.mp hgroup)
    · cases h

theorem numbered_of_check (h : (Escape.numbered digits).check statement r = .ok ())
    (hzero : digits.head? ≠ some '0') :
    Text.readDigits 10 Text.decimalValue? digits ≤ r.groupCount := by
  rw [Escape.check, if_neg (by simpa using hzero)] at h
  obtain ⟨n, hn, h⟩ := exists_of_bind_eq_ok h
  split at h
  · rename_i hle
    rw [Text.readDigits_of_readNat? (Text.readNat_eq_ok (groupNumber_eq_ok hn)).2]
    exact hle
  · cases h

/-- A letter passes the check only if it stands for a character. -/
theorem letter_of_check (h : (Escape.other c).check statement r = .ok ()) (hc : c.isAlpha = true) :
    (letterEscape? c).isSome = true := by
  have hletters : ['a', 'b', 'f', 'n', 'r', 't', 'v'].all (fun d => (letterEscape? d).isSome) = true := by
    decide
  rw [Escape.check, hc, Bool.true_and] at h
  split at h
  · cases h
  · rename_i hmem
    rw [Bool.not_eq_true', Bool.not_eq_false, List.contains_iff_mem] at hmem
    exact List.all_eq_true.mp hletters c hmem

/-- The letter of a group reference passes the check only before a name in angle brackets. -/
theorem exists_name_of_check (h : ((escapeAfter 'g' cs).1).check statement r = .ok ()) :
    ∃ more name rest, cs = '<' :: more ∧ angleName more = some (name, rest) ∧
      (escapeAfter 'g' cs).2 = name.length + 2 ∧ (Escape.named name).check statement r = .ok () := by
  have hother : ((Escape.other 'g').check statement r) ≠ .ok () := nofun
  have hoctal : isOctal 'g' = false := by decide
  simp only [escapeAfter, hoctal, Bool.false_and, Bool.false_eq_true, if_false] at h ⊢
  split at h
  · rename_i more _
    split at h
    · rename_i name rest hname
      exact ⟨more, name, rest, rfl, hname, rfl, h⟩
    · exact absurd h hother
  · have hdecimal : Text.isDecimal 'g' = false := by decide
    rw [hdecimal] at h
    exact absurd h hother

/-- A name that passes the check is not empty, and no backslash is in it. -/
theorem plain_of_check (hr : r.Numbered) (h : (Escape.named name).check statement r = .ok ()) :
    name ≠ [] ∧ '\\' ∉ name := by
  rcases named_of_check h with ⟨hne, hdigits, _⟩ | ⟨n, hn⟩
  · exact ⟨hne, not_mem_backslash_of_all hdigits (Text.isDigitChar_of_ascii (by decide))⟩
  · obtain ⟨hidentifier, _⟩ := hr.named _ n hn
    rw [String.toList_ofList] at hidentifier
    refine ⟨?_, fun hmem => ?_⟩
    · rintro rfl
      cases hidentifier
    · rw [Text.isIdentifier_of_mem_backslash hmem] at hidentifier
      cases hidentifier

/-- No backslash is among the characters that an escape takes. -/
theorem not_mem_take_of_check (hr : r.Numbered)
    (hcheck : ((escapeAfter c cs).1).check statement r = .ok ()) :
    '\\' ∉ cs.take (escapeAfter c cs).2 := by
  by_cases hg : c = 'g'
  · subst hg
    obtain ⟨more, name, rest, rfl, hname, htake, hcheck⟩ := exists_name_of_check hcheck
    have htaken : ('<' :: (name ++ '>' :: rest)).take (name.length + 2) = '<' :: name ++ ['>'] := by
      simp [List.take_append, List.take_of_length_le]
    rw [htake, angleName_eq hname, htaken]
    simpa using (plain_of_check hr hcheck).2
  · cases hc : Text.isDecimal c with
    | false =>
        rw [escapeAfter_of_not hc hg]
        exact List.not_mem_nil
    | true =>
        cases hoctal : isOctal c && octalNext cs with
        | true =>
            rw [escapeAfter_of_octal hoctal]
            rw [octalNext, Bool.and_eq_true, Bool.and_eq_true] at hoctal
            exact not_mem_backslash_of_all hoctal.2.2 (by decide)
        | false =>
            rw [escapeAfter_of_isDecimal hc hoctal]
            cases cs with
            | nil => exact List.not_mem_nil
            | cons d cs =>
                cases hd : Text.isDecimal d with
                | true =>
                    have hne : '\\' ≠ d := by
                      rintro rfl
                      exact absurd hd (by decide)
                    simpa [hd] using hne
                | false => simp [hd]

theorem escapes_tail_of_check (hr : r.Numbered)
    (hcheck : ((escapeAfter c cs).1).check statement r = .ok ()) :
    escapes (cs.drop (escapeAfter c cs).2) = escapes cs := by
  conv => rhs; rw [← List.take_append_drop (escapeAfter c cs).2 cs]
  rw [escapes_append (not_mem_take_of_check hr hcheck)]

/-! ## Parts -/

theorem exists_readNamedPiece {more : List Char} (hr : r.Numbered) (hs : s.At ('<' :: more))
    (hname : angleName more = some (name, rest))
    (hcheck : (Escape.named name).check statement r = .ok ()) :
    ∃ piece s', readNamedPiece r s = .ok (piece, s') ∧ s'.At rest := by
  obtain ⟨hne, hmem⟩ := plain_of_check hr hcheck
  obtain ⟨s₁, haccept, hs₁⟩ := hs.exists_accept
  have hfuel : name.length < s₁.rest.length + 2 := by
    have hle := hs₁.length_le
    rw [angleName_eq hname, List.length_append, List.length_cons] at hle
    omega
  obtain ⟨s₂, htake, hs₂⟩ := hs₁.exists_takeUntil hname hmem [] hne "group name" hfuel
  rw [List.nil_append] at htake
  rw [readNamedPiece, haccept, ok_bind]
  simp only [Scanner.takeName, htake, ok_bind]
  rcases named_of_check hcheck with ⟨_, hdigits, n, hle, hn⟩ | ⟨n, hn⟩
  · have hlimit := Nat.not_le_of_lt (Nat.lt_of_le_of_lt hle hr.few)
    rw [Text.isIdentifier_of_digits hne hdigits, Text.readLooseInt?_of_readNat hdigits hn]
    simp only [Bool.false_eq_true, if_false, hlimit, pieceOfGroup_of_le hle, ok_bind]
    exact ⟨_, s₂, rfl, hs₂⟩
  · obtain ⟨hidentifier, hle⟩ := hr.named _ n hn
    rw [String.toList_ofList] at hidentifier
    simp only [hidentifier, if_true, hn, pieceOfGroup_of_le hle, ok_bind]
    exact ⟨_, s₂, rfl, hs₂⟩

/-- The application takes a digit of another script for text where the check counts it. -/
theorem readDigits_ascii_le (c : Char) (cs : List Char) :
    Text.readDigits 10 Text.decimalValue? (c :: (cs.take 1).takeWhile Char.isDigit) ≤
      Text.readDigits 10 Text.decimalValue? (c :: (cs.take 1).takeWhile Text.isDecimal) := by
  cases cs with
  | nil => exact Nat.le_refl _
  | cons d cs =>
      cases hd : d.isDigit with
      | true => simp [hd, Text.isDecimal_of_isDigit hd]
      | false =>
          simp only [List.take_succ_cons, List.take_zero, List.takeWhile_cons, hd]
          exact Text.readDigits_le_append (by decide) _ [c] _

theorem settles_readNumberPiece (hs : s.At cs) (hc : c.isDigit = true) (hzero : c ≠ '0')
    (hcheck : ((escapeAfter c cs).1).check statement r = .ok ()) :
    Settles (isLargeOctal (c :: cs.take 2)) (readNumberPiece r c s) fun (_, s') => s'.Past cs := by
  cases hoctal : isOctal c && octalNext cs with
  | true =>
      simp only [Bool.and_eq_true, octalNext, beq_iff_eq] at hoctal
      obtain ⟨hc8, hlength, hdigits⟩ := hoctal
      rcases cs with _ | ⟨d, _ | ⟨e, rest⟩⟩
      · cases hlength
      · cases hlength
      · simp only [List.take_succ_cons, List.take_zero, List.all_cons, List.all_nil, Bool.and_true,
          Bool.and_eq_true] at hdigits
        exact settles_readNumberPiece_octal hs hc8 hdigits.1 hdigits.2
  | false =>
      rw [escapeAfter_of_isDecimal (Text.isDecimal_of_isDigit hc) hoctal] at hcheck
      have hle := numbered_of_check hcheck (by simpa using hzero)
      obtain ⟨piece, s', hpiece, hs'⟩ :=
        exists_readNumberPiece hs (Nat.le_trans (readDigits_ascii_le c cs) hle) hoctal
      rw [hpiece]
      exact ⟨isLargeOctal_of_not hoctal, hs'⟩

theorem settles_readEscapedPiece (hr : r.Numbered) (hs : s.At cs)
    (hcheck : ((escapeAfter c cs).1).check statement r = .ok ()) :
    Settles (isLargeOctal (c :: cs.take 2)) (readEscapedPiece r c s) fun (_, s') => s'.Past cs := by
  rw [readEscapedPiece]
  by_cases hg : c = 'g'
  · subst hg
    obtain ⟨more, name, rest, rfl, hname, _, hcheck⟩ := exists_name_of_check hcheck
    obtain ⟨piece, s', hpiece, hs'⟩ := exists_readNamedPiece hr hs hname hcheck
    rw [if_pos (beq_self_eq_true _), hpiece]
    refine ⟨isLargeOctal_of_not rfl, '<' :: name ++ ['>'], rest, ?_, ?_, hs'⟩
    · rw [angleName_eq hname]
      simp
    · simpa using (plain_of_check hr hcheck).2
  · rw [if_neg (by simpa using hg)]
    by_cases hzero : c = '0'
    · subst hzero
      obtain ⟨rest, s', htake, heq, hs'⟩ := hs.exists_takeUpTo isOctal (by decide) 2
      rw [if_pos (beq_self_eq_true _), htake]
      exact ⟨isLargeOctal_zero cs, _, rest, heq,
        not_mem_backslash_of_all List.all_takeWhile (by decide), hs'⟩
    · rw [if_neg (by simpa using hzero)]
      split
      · rename_i hc
        exact settles_readNumberPiece hs hc hzero hcheck
      · rename_i hc
        have hlarge : isLargeOctal (c :: cs.take 2) = false := by
          cases hoctal : isOctal c with
          | false => exact isLargeOctal_of_not (by rw [hoctal, Bool.false_and])
          | true => exact absurd (isDigit_of_isOctal hoctal) hc
        split
        · exact ⟨hlarge, hs.past⟩
        · rename_i hletter
          split
          · rename_i halpha
            rw [escapeAfter_of_not (Text.isDecimal_of_isAlpha halpha) hg] at hcheck
            have hsome := letter_of_check hcheck halpha
            rw [hletter] at hsome
            cases hsome
          · exact ⟨hlarge, hs.past⟩

/-! ## Whole texts -/

/-- All escapes of the text pass the check. -/
def Passes (statement : String) (r : Regex) (cs : List Char) : Prop :=
  ∀ e ∈ escapes cs, e.check statement r = .ok ()

theorem settles_readPieces (hr : r.Numbered) (fuel : Nat) (hs : s.At cs)
    (hcs : Passes statement r cs) (hfuel : cs.length < fuel) :
    Settles (hasLargeOctal cs) (readPieces r fuel s) fun _ => True := by
  induction fuel generalizing s cs with
  | zero => cases hfuel
  | succ fuel ih =>
      rw [readPieces]
      cases hs with
      | stop hnext =>
          rw [hnext]
          exact ⟨rfl, trivial⟩
      | @escape c hnext hrest =>
          obtain ⟨s₁, hadvance, hs₁⟩ := s.exists_advance hrest
          rw [Passes, escapes_escape, List.forall_mem_cons] at hcs
          obtain ⟨hfirst, hothers⟩ := hcs
          simp only [hnext, hadvance, ok_bind, hasLargeOctal]
          refine (settles_readEscapedPiece hr hs₁ hfirst).bind ?_
          -- the rest of the check and that of the application differ by characters without backslashes
          rintro ⟨piece, s₂⟩ ⟨taken, rest, heq, htaken, hs₂⟩
          rw [escapes_tail_of_check hr hfirst, heq, escapes_append htaken] at hothers
          rw [heq, hasLargeOctal_append htaken]
          have hlength := congrArg List.length heq
          rw [List.length_append] at hlength
          rw [List.length_cons, List.length_cons] at hfuel
          exact (ih hs₂ hothers (by omega)).bind_pure _
      | @plain c hc hnext hrest =>
          obtain ⟨s₁, hadvance, hs₁⟩ := s.exists_advance hrest
          rw [Passes, escapes_cons hc] at hcs
          rw [hasLargeOctal_cons hc]
          simp only [hnext, hadvance, ok_bind]
          exact (ih hs₁ hcs (Nat.lt_of_succ_lt_succ hfuel)).bind_pure _

theorem whole_of_endsAlone (h : endsAlone cs = false) : whole cs = true := by
  refine whole_of_even ?_
  simp only [endsAlone] at h
  split at h
  · rename_i hcs
    rw [hcs]
    rfl
  · simpa using h

theorem checkReplacement_eq_ok_iff :
    checkReplacement statement r cs = .ok () ↔ endsAlone cs = false ∧ Passes statement r cs := by
  have hloop (es : List Escape) :
      (show Except Error Unit from do for e in es do e.check statement r) = .ok () ↔
        ∀ e ∈ es, e.check statement r = .ok () := by
    induction es with
    | nil => exact ⟨fun _ => List.forall_mem_nil _, fun _ => rfl⟩
    | cons e es ih =>
        rw [List.forIn_cons, List.forall_mem_cons, ← ih]
        cases e.check statement r with
        | error _ => exact ⟨nofun, fun h => nomatch h.1⟩
        | ok _ => exact ⟨fun h => ⟨rfl, h⟩, fun h => h.2⟩
  simp only [checkReplacement]
  split
  · rename_i halone
    rw [halone]
    exact ⟨nofun, fun h => nomatch h.1⟩
  · rename_i halone
    exact (hloop _).trans ⟨fun h => ⟨Bool.eq_false_iff.mpr halone, h⟩, fun h => h.2⟩

theorem passes_of_check (h : checkReplacement statement r cs = .ok ()) :
    whole cs = true ∧ Passes statement r cs := by
  obtain ⟨halone, hpasses⟩ := checkReplacement_eq_ok_iff.mp h
  exact ⟨whole_of_endsAlone halone, hpasses⟩

/-- A replacement text that has passed the check can be applied, unless there is an octal escape in it
for too large a code. -/
theorem settles_pieces (hr : r.Numbered) (h : checkReplacement statement r cs = .ok ()) :
    Settles (hasLargeOctal cs) (r.pieces (String.ofList cs)) fun _ => True := by
  obtain ⟨hwhole, hpasses⟩ := passes_of_check h
  simp only [Regex.pieces, String.toList_ofList]
  split
  · obtain ⟨s, hstart, hs⟩ := Scanner.exists_advance ⟨none, cs, 0⟩ hwhole
    rw [Scanner.start, hstart, ok_bind]
    exact settles_readPieces hr _ hs hpasses (Nat.lt_succ_self _)
  · rename_i hnone
    exact ⟨hasLargeOctal_eq_false (by simpa using hnone), trivial⟩

end Treebank.Statement
