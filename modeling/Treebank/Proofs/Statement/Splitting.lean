import Treebank.Proofs.Statement.Words

/-!
# How a statement is split

The words of a statement lie in it one after the other, and there is nothing but blanks between them and
around them. A word that begins with a bracket is the shortest piece in which the brackets balance, one
that begins with a quote or a slash goes on to the mark that completes it, and any other goes on to the
next blank. A statement is refused just when some word of it is not completed.
-/

namespace Treebank.Statement

open Text

variable {c mark : Char} {cs more front text v w : List Char} {ws : List (List Char)}
  {n depth marks : Nat} {length : Option Nat} {p : Problem} {P Q : List Char → Prop}

/-! ## The shortest piece -/

/-- The shortest of the pieces with a property that a text begins with. -/
structure Shortest (P : List Char → Prop) (w text : List Char) : Prop where
  isPrefix : w <+: text
  holds : P w
  length_le : ∀ v, v <+: text → P v → w.length ≤ v.length

/-- The length is that of the shortest piece with the property; without one no piece has it. -/
def Measures (length : Option Nat) (P : List Char → Prop) (text : List Char) : Prop :=
  match length with
  | some n => n ≤ text.length ∧ Shortest P (text.take n) text
  | none => ∀ v, v <+: text → ¬P v

theorem shortest_nil (h : P []) (text : List Char) : Shortest P [] text :=
  ⟨List.nil_prefix, h, fun v _ _ => Nat.zero_le v.length⟩

theorem shortest_cons (hnil : ¬P []) :
    Shortest P (c :: w) (c :: text) ↔ Shortest (fun v => P (c :: v)) w text := by
  constructor
  · rintro ⟨hbegins, hholds, hle⟩
    refine ⟨(List.prefix_cons_inj c).mp hbegins, hholds, fun v hv hP => ?_⟩
    exact Nat.le_of_succ_le_succ (hle (c :: v) ((List.prefix_cons_inj c).mpr hv) hP)
  · rintro ⟨hbegins, hholds, hle⟩
    refine ⟨(List.prefix_cons_inj c).mpr hbegins, hholds, fun v hv hP => ?_⟩
    rcases List.prefix_cons_iff.mp hv with rfl | ⟨v, rfl, hrest⟩
    · exact absurd hP hnil
    · exact Nat.succ_le_succ (hle v hrest hP)

theorem Shortest.congr (h : Shortest P w text) (hPQ : ∀ v, P v ↔ Q v) : Shortest Q w text :=
  ⟨h.isPrefix, (hPQ w).mp h.holds, fun v hv hQ => h.length_le v hv ((hPQ v).mpr hQ)⟩

theorem Measures.congr (h : Measures length P text) (hPQ : ∀ v, P v ↔ Q v) :
    Measures length Q text := by
  cases length with
  | none => exact fun v hv hQ => h v hv ((hPQ v).mpr hQ)
  | some n => exact ⟨h.1, h.2.congr hPQ⟩

theorem measures_zero (h : P []) (text : List Char) : Measures (some 0) P text :=
  ⟨Nat.zero_le _, by rw [List.take_zero]; exact shortest_nil h text⟩

theorem measures_nil (h : ¬P []) : Measures none P [] := fun v hv => by
  rw [List.prefix_nil.mp hv]
  exact h

theorem Measures.cons (h : Measures length (fun v => P (c :: v)) text) (hnil : ¬P []) :
    Measures (length.map (· + 1)) P (c :: text) := by
  cases length with
  | none =>
      intro v hv
      rcases List.prefix_cons_iff.mp hv with rfl | ⟨v, rfl, hrest⟩
      · exact hnil
      · exact h v hrest
  | some n => exact ⟨Nat.succ_le_succ h.1, (shortest_cons hnil).mpr h.2⟩

/-- Two characters at once, where the property does not hold after the first of them. -/
theorem Measures.cons_cons {d : Char} (h : Measures length (fun v => P (c :: d :: v)) text)
    (hnil : ¬P []) (hone : ¬P [c]) : Measures (length.map (· + 2)) P (c :: d :: text) := by
  have htwice := Measures.cons (P := P) (Measures.cons (P := fun v => P (c :: v)) h hone) hnil
  rwa [Option.map_map] at htwice

/-! ## Brackets that balance -/

/-- The text closes so many open brackets, and all that it opens. -/
def Closes (depth : Nat) (v : List Char) : Prop := v.count '(' + depth = v.count ')'

theorem not_closes_nil (h : 0 < depth) : ¬Closes depth [] := by
  simp only [Closes, List.count_nil]
  omega

theorem closes_open : Closes depth ('(' :: v) ↔ Closes (depth + 1) v := by
  simp only [Closes, List.count_cons_self, List.count_cons_of_ne (by decide : '(' ≠ ')')]
  omega

theorem closes_close (h : 0 < depth) : Closes depth (')' :: v) ↔ Closes (depth - 1) v := by
  simp only [Closes, List.count_cons_self, List.count_cons_of_ne (by decide : ')' ≠ '(')]
  omega

theorem closes_cons (hopen : c ≠ '(') (hclose : c ≠ ')') : Closes depth (c :: v) ↔ Closes depth v := by
  rw [Closes, Closes, List.count_cons_of_ne hopen, List.count_cons_of_ne hclose]

theorem measures_bracketLength (hdepth : 0 < depth) (cs : List Char) :
    Measures (bracketLength depth cs) (Closes depth) cs := by
  induction depth, cs using bracketLength.induct with
  | case1 depth => exact measures_nil (not_closes_nil hdepth)
  | case2 depth cs ih =>
      exact ((ih (Nat.succ_pos depth)).congr fun _ => closes_open.symm).cons (not_closes_nil hdepth)
  | case3 depth cs hone =>
      obtain rfl : depth = 1 := Nat.le_antisymm hone hdepth
      have hhere : Measures (some 0) (fun v => Closes 1 (')' :: v)) cs :=
        measures_zero (P := fun v => Closes 1 (')' :: v)) rfl cs
      exact hhere.cons (not_closes_nil hdepth)
  | case4 depth cs hmore ih =>
      rw [bracketLength, if_neg hmore]
      exact ((ih (by omega)).congr fun _ => (closes_close hdepth).symm).cons (not_closes_nil hdepth)
  | case5 depth c cs hopen hclose ih =>
      rw [bracketLength_cons hopen hclose]
      exact ((ih hdepth).congr fun _ => (closes_cons hopen hclose).symm).cons (not_closes_nil hdepth)

/-! ## Marks that count -/

/-- The text takes the meaning from a character after it: the run of backslashes that it ends with is
of odd length. -/
def endsEscaping (front : List Char) : Bool := (front.rtakeWhile (· == '\\')).length % 2 == 1

/-- The number of the marks in a text that no backslash takes the meaning from. -/
def unescaped (mark : Char) (w : List Char) : Nat :=
  (List.range w.length).countP fun i => w[i]? == some mark && !endsEscaping (w.take i)

theorem endsEscaping_concat (front : List Char) (c : Char) :
    endsEscaping (front ++ [c]) = (c == '\\' && !endsEscaping front) := by
  rw [endsEscaping, endsEscaping, List.rtakeWhile_concat]
  by_cases hc : c = '\\'
  · rw [if_pos (by simpa using hc), List.length_append, List.length_singleton, hc]
    rcases Nat.mod_two_eq_zero_or_one (front.rtakeWhile (· == '\\')).length with heven | hodd
    · rw [Nat.add_mod, heven]
      rfl
    · rw [Nat.add_mod, hodd]
      rfl
  · rw [if_neg (by simpa using hc), beq_eq_false_iff_ne.mpr hc]
    rfl

/-- What comes before a text bears on it only by the meaning that it takes away. -/
theorem endsEscaping_append {front' : List Char} (h : endsEscaping front = endsEscaping front')
    (w : List Char) : endsEscaping (front ++ w) = endsEscaping (front' ++ w) := by
  induction w using List.reverseRecOn with
  | nil => rwa [List.append_nil, List.append_nil]
  | append_singleton w d ih =>
      rw [← List.append_assoc, ← List.append_assoc, endsEscaping_concat, endsEscaping_concat, ih]

theorem endsEscaping_singleton (hc : c ≠ '\\') : endsEscaping [c] = false := by
  have hone := endsEscaping_concat [] c
  rwa [beq_eq_false_iff_ne.mpr hc] at hone

theorem endsEscaping_pair (c : Char) : endsEscaping ['\\', c] = false :=
  (endsEscaping_concat ['\\'] c).trans (Bool.and_eq_false_imp.mpr fun _ => rfl)

/-- A text that takes no meaning away can be left out, but for the marks in it. -/
theorem unescaped_append (h : endsEscaping front = false) (w : List Char) :
    unescaped mark (front ++ w) = unescaped mark front + unescaped mark w := by
  have hfront : ∀ i ∈ List.range front.length,
      ((front ++ w)[i]? == some mark && !endsEscaping ((front ++ w).take i)) =
        (front[i]? == some mark && !endsEscaping (front.take i)) := by
    intro i hi
    have hlt := List.mem_range.mp hi
    rw [List.getElem?_append_left hlt, List.take_append_of_le_length (Nat.le_of_lt hlt)]
  have hnil : endsEscaping front = endsEscaping [] := h
  have hrest : ∀ i, ((front ++ w)[front.length + i]? == some mark &&
      !endsEscaping ((front ++ w).take (front.length + i))) =
        (w[i]? == some mark && !endsEscaping (w.take i)) := by
    intro i
    rw [List.getElem?_append_right (Nat.le_add_right _ _), Nat.add_sub_cancel_left,
      List.take_length_add_append, endsEscaping_append hnil, List.nil_append]
  rw [unescaped, List.length_append, List.range_add, List.countP_append, List.countP_map]
  congr 1
  · exact List.countP_congr fun i hi => by rw [hfront i hi]
  · exact List.countP_congr fun i _ => by rw [Function.comp, hrest i]

theorem unescaped_singleton (mark c : Char) :
    unescaped mark [c] = if c = mark then 1 else 0 := by
  by_cases h : c = mark <;> simp [unescaped, endsEscaping, h]

theorem unescaped_cons (hc : c ≠ '\\') (w : List Char) :
    unescaped mark (c :: w) = (if c = mark then 1 else 0) + unescaped mark w := by
  rw [← List.singleton_append, unescaped_append (endsEscaping_singleton hc), unescaped_singleton]

/-- No mark counts in a backslash and the character after it. -/
theorem unescaped_pair (hmark : mark ≠ '\\') (c : Char) (w : List Char) :
    unescaped mark ('\\' :: c :: w) = unescaped mark w := by
  have htwo : unescaped mark ['\\', c] = 0 := by
    have hescape : endsEscaping ['\\'] = true := rfl
    simp [unescaped, List.range_succ, hescape, hmark.symm]
  calc unescaped mark (['\\', c] ++ w)
    _ = unescaped mark ['\\', c] + unescaped mark w := unescaped_append (endsEscaping_pair c) w
    _ = unescaped mark w := by rw [htwo, Nat.zero_add]

theorem measures_markedLength (hmark : mark ≠ '\\') (marks : Nat) (cs : List Char) :
    Measures (markedLength mark marks cs) (fun v => unescaped mark v = marks) cs := by
  have hnil : ∀ n, ¬unescaped mark [] = n + 1 := fun n => (Nat.succ_ne_zero n).symm
  have hone : ∀ n, ¬unescaped mark ['\\'] = n + 1 := by
    intro n
    rw [unescaped_singleton, if_neg hmark.symm]
    exact (Nat.succ_ne_zero n).symm
  induction marks, cs using markedLength.induct mark with
  | case1 cs =>
      rw [markedLength]
      exact measures_zero (P := fun v => unescaped mark v = 0) rfl cs
  | case2 n => exact measures_nil (hnil n)
  | case3 n => exact (measures_nil (hone n)).cons (hnil n)
  | case4 n c cs ih =>
      rw [Nat.succ_eq_add_one, markedLength_escape]
      refine Measures.cons_cons (ih.congr fun v => ?_) (hnil n) (hone n)
      rw [unescaped_pair hmark]
  | case5 n c cs hend hescape ih =>
      have hc := ne_backslash hend hescape
      rw [Nat.succ_eq_add_one, markedLength_cons hc]
      refine Measures.cons (ih.congr fun v => ?_) (hnil n)
      rw [unescaped_cons hc]
      by_cases hcm : c = mark
      · rw [if_pos (beq_iff_eq.mpr hcm), if_pos hcm]
        omega
      · rw [if_neg (fun h => hcm (beq_iff_eq.mp h)), if_neg hcm]
        omega

/-! ## Words in a text -/

/-- The signs that a word goes beyond blanks with, and the problem of a word that they do not end. -/
def delimiters : List (Char × Problem) :=
  [('(', .unbalancedTree), ('"', .unterminatedLabel), ('/', .notThreeSlashes)]

/-- The word is complete by itself: its brackets balance, or its last mark has been reached. -/
def Complete (w : List Char) : Prop :=
  match w.head? with
  | some '(' => w.count '(' = w.count ')'
  | some '"' => unescaped '"' w = 2
  | some '/' => unescaped '/' w = 3
  | _ => False

theorem not_complete_nil : ¬Complete [] := id

theorem complete_bracket : Complete ('(' :: v) ↔ Closes 1 v := by
  rw [Complete, Closes, List.count_cons_self, List.count_cons_of_ne (by decide)]
  rfl

theorem complete_quote : Complete ('"' :: v) ↔ unescaped '"' v = 1 := by
  show unescaped '"' ('"' :: v) = 2 ↔ _
  rw [unescaped_cons (by decide : '"' ≠ '\\') v, if_pos rfl]
  omega

theorem complete_slash : Complete ('/' :: v) ↔ unescaped '/' v = 2 := by
  show unescaped '/' ('/' :: v) = 3 ↔ _
  rw [unescaped_cons (by decide : '/' ≠ '\\') v, if_pos rfl]
  omega

/-- A word that can be complete by itself begins with a delimiter. -/
theorem exists_delimiter (h : Complete (c :: v)) : ∃ p, (c, p) ∈ delimiters := by
  simp only [Complete, List.head?_cons] at h
  split at h
  · rename_i heq
    exact ⟨.unbalancedTree, by simp [delimiters, Option.some.inj heq]⟩
  · rename_i heq
    exact ⟨.unterminatedLabel, by simp [delimiters, Option.some.inj heq]⟩
  · rename_i heq
    exact ⟨.notThreeSlashes, by simp [delimiters, Option.some.inj heq]⟩
  · exact h.elim

/-- What is counted after a delimiter is the shortest complete word. -/
theorem exists_measures (hc : (c, p) ∈ delimiters) (cs : List Char) :
    ∃ length, furtherLength c cs = length.elim (.error p) .ok ∧
      Measures length (fun v => Complete (c :: v)) cs := by
  simp only [delimiters, List.mem_cons, List.not_mem_nil, or_false, Prod.mk.injEq] at hc
  rcases hc with ⟨rfl, rfl⟩ | ⟨rfl, rfl⟩ | ⟨rfl, rfl⟩
  · exact ⟨_, furtherLength_bracket cs,
      (measures_bracketLength Nat.one_pos cs).congr fun _ => complete_bracket.symm⟩
  · exact ⟨_, furtherLength_quote cs,
      (measures_markedLength (by decide) 1 cs).congr fun _ => complete_quote.symm⟩
  · exact ⟨_, furtherLength_slash cs,
      (measures_markedLength (by decide) 2 cs).congr fun _ => complete_slash.symm⟩

theorem mem_marks_iff : c ∈ ['(', '"', '/'] ↔ ∃ p, (c, p) ∈ delimiters := by
  show c ∈ delimiters.map Prod.fst ↔ _
  rw [List.mem_map]
  constructor
  · rintro ⟨⟨_, p⟩, hp, rfl⟩
    exact ⟨p, hp⟩
  · rintro ⟨p, hp⟩
    exact ⟨(c, p), hp, rfl⟩

/-- The text begins with this word, and with the others after it comes the rest. -/
inductive FirstWord : List Char → List Char → Prop where
  | complete {w more : List Char} : Shortest Complete w (w ++ more) → FirstWord w more
  | bare {c : Char} {cs more : List Char} : c ∉ ['(', '"', '/'] →
      (∀ d ∈ c :: cs, isBlank d = false) → Parts more → FirstWord (c :: cs) more

/-- The words are the first ones of the text; with the blanks between them they make up what comes
before the rest. -/
inductive Yields : List Char → List (List Char) → List Char → Prop where
  | nothing {text : List Char} : Yields text [] text
  | blank {c : Char} {text rest : List Char} {ws : List (List Char)} :
      isBlank c = true → Yields text ws rest → Yields (c :: text) ws rest
  | word {w more rest : List Char} {ws : List (List Char)} :
      FirstWord w more → Yields more ws rest → Yields (w ++ more) (w :: ws) rest

theorem FirstWord.exists_cons (h : FirstWord w more) : ∃ c cs, w = c :: cs := by
  cases h with
  | complete h =>
      cases w with
      | nil => exact absurd h.holds not_complete_nil
      | cons c cs => exact ⟨c, cs, rfl⟩
  | @bare c cs => exact ⟨c, cs, rfl⟩

theorem not_isBlank_of_delimiter (hc : (c, p) ∈ delimiters) : isBlank c = false := by
  have hmarks := mem_marks_iff.mpr ⟨p, hc⟩
  simp only [List.mem_cons, List.not_mem_nil, or_false] at hmarks
  rcases hmarks with rfl | rfl | rfl <;> rfl

theorem parts_drop_takeWhile (cs : List Char) :
    Parts (cs.drop (cs.takeWhile fun d => !isBlank d).length) := by
  induction cs with
  | nil => exact parts_nil
  | cons d cs ih =>
      by_cases hd : isBlank d = true
      · rw [List.takeWhile_cons_of_neg (by simp [hd])]
        exact parts_cons hd cs
      · rw [List.takeWhile_cons_of_pos (by simp [hd])]
        exact ih

/-- The word that is taken off the text is the first word of it. -/
theorem firstWord_of_furtherLength (hc : isBlank c = false) (h : furtherLength c cs = .ok n) :
    n ≤ cs.length ∧ FirstWord (c :: cs.take n) (cs.drop n) := by
  by_cases hmarks : c ∈ ['(', '"', '/']
  · obtain ⟨p, hp⟩ := mem_marks_iff.mp hmarks
    obtain ⟨length, hlength, hmeasures⟩ := exists_measures hp cs
    rw [hlength] at h
    cases length with
    | none => cases h
    | some m =>
        cases h
        refine ⟨hmeasures.1, .complete ?_⟩
        rw [List.cons_append, List.take_append_drop]
        exact (shortest_cons not_complete_nil).mpr hmeasures.2
  · rw [furtherLength_of_bare hmarks] at h
    cases h
    have htakes := List.takeWhile_prefix (l := cs) fun d => !isBlank d
    refine ⟨htakes.length_le, ?_⟩
    rw [← List.prefix_iff_eq_take.mp htakes]
    refine .bare hmarks (List.forall_mem_cons.mpr ⟨hc, fun d hd => ?_⟩) (parts_drop_takeWhile cs)
    simpa using List.mem_takeWhile_imp hd

/-- The first word of a text is the one that is taken off it. -/
theorem FirstWord.furtherLength_eq (h : FirstWord (c :: cs) more) :
    isBlank c = false ∧ furtherLength c (cs ++ more) = .ok cs.length := by
  cases h with
  | complete h =>
      obtain ⟨p, hp⟩ := exists_delimiter h.holds
      obtain ⟨length, hlength, hmeasures⟩ := exists_measures hp (cs ++ more)
      rw [List.cons_append] at h
      have hshort := (shortest_cons not_complete_nil).mp h
      refine ⟨not_isBlank_of_delimiter hp, ?_⟩
      rw [hlength]
      cases length with
      | none => exact absurd hshort.holds (hmeasures cs hshort.isPrefix)
      | some n =>
          obtain ⟨hle, hfound⟩ := hmeasures
          have hleft := hfound.length_le cs hshort.isPrefix hshort.holds
          have hright := hshort.length_le _ hfound.isPrefix hfound.holds
          rw [List.length_take, Nat.min_eq_left hle] at hleft hright
          rw [Nat.le_antisymm hright hleft]
          rfl
  | bare hmarks hblank hmore =>
      obtain ⟨hc, hcs⟩ := List.forall_mem_cons.mp hblank
      exact ⟨hc, by rw [furtherLength_of_bare hmarks, takeWhile_of_parts hcs hmore]⟩

/-- A word is refused when it begins with a delimiter and is complete nowhere. -/
theorem furtherLength_eq_error_iff : furtherLength c cs = .error p ↔
    (c, p) ∈ delimiters ∧ ∀ v, v <+: c :: cs → ¬Complete v := by
  constructor
  · intro h
    by_cases hmarks : c ∈ ['(', '"', '/']
    · obtain ⟨q, hq⟩ := mem_marks_iff.mp hmarks
      obtain ⟨length, hlength, hmeasures⟩ := exists_measures hq cs
      rw [hlength] at h
      cases length with
      | none =>
          cases h
          refine ⟨hq, fun v hv => ?_⟩
          rcases List.prefix_cons_iff.mp hv with rfl | ⟨v, rfl, hrest⟩
          · exact not_complete_nil
          · exact hmeasures v hrest
      | some n => cases h
    · rw [furtherLength_of_bare hmarks] at h
      cases h
  · rintro ⟨hp, hnone⟩
    obtain ⟨length, hlength, hmeasures⟩ := exists_measures hp cs
    rw [hlength]
    cases length with
    | none => rfl
    | some n =>
        have hfound := hmeasures.2
        exact absurd hfound.holds (hnone _ ((List.prefix_cons_inj c).mpr hfound.isPrefix))

/-! ## Splitting -/

theorem scan_firstWord (h : FirstWord w more) : scan (w ++ more) = (w :: ·) <$> scan more := by
  obtain ⟨c, cs, rfl⟩ := h.exists_cons
  obtain ⟨hc, hlength⟩ := h.furtherLength_eq
  rw [List.cons_append, scan, if_neg (ne_true_of_eq_false hc), hlength]
  simp only [List.take_left, List.drop_left]

theorem Yields.scan_eq {rest : List Char} (h : Yields text ws rest) :
    scan text = (ws ++ ·) <$> scan rest := by
  induction h with
  | nothing => simp
  | blank hc _ ih => rw [scan_of_blank hc, ih]
  | word hword _ ih =>
      rw [scan_firstWord hword, ih]
      cases scan _ <;> rfl

theorem scan_eq_ok_iff : scan text = .ok ws ↔ Yields text ws [] := by
  constructor
  · intro h
    induction text using scan.induct generalizing ws with
    | case1 =>
        rw [scan] at h
        cases h
        exact .nothing
    | case2 c cs hc ih =>
        rw [scan_of_blank hc] at h
        exact .blank hc (ih h)
    | case3 c cs hc p hlength =>
        rw [scan, if_neg hc, hlength] at h
        cases h
    | case4 c cs hc n hlength ih =>
        rw [scan, if_neg hc, hlength] at h
        obtain ⟨vs, hvs, rfl⟩ := exists_of_map_eq_ok h
        have hword := (firstWord_of_furtherLength (Bool.eq_false_iff.mpr hc) hlength).2
        have hyields := Yields.word hword (ih hvs)
        rwa [List.cons_append, List.take_append_drop] at hyields
  · intro h
    rw [h.scan_eq, scan]
    simp

theorem tokens_eq_ok_iff {statement : String} {ts : List String} :
    tokens statement = .ok ts ↔ scan statement.toList = .ok (ts.map String.toList) := by
  rw [tokens]
  cases scan statement.toList with
  | ok ws =>
      simp only [Except.ok.injEq]
      constructor
      · rintro rfl
        simp
      · rintro rfl
        simp
  | error p => simp

/-- Some word of the text is not completed. -/
def Breaks (text : List Char) (p : Problem) : Prop :=
  ∃ ws c rest, Yields text ws (c :: rest) ∧ (c, p) ∈ delimiters ∧
    ∀ v, v <+: c :: rest → ¬Complete v

theorem scan_eq_error_iff : scan text = .error p ↔ Breaks text p := by
  constructor
  · intro h
    induction text using scan.induct with
    | case1 =>
        rw [scan] at h
        cases h
    | case2 c cs hc ih =>
        rw [scan_of_blank hc] at h
        obtain ⟨ws, d, rest, hyields, hbreaks⟩ := ih h
        exact ⟨ws, d, rest, .blank hc hyields, hbreaks⟩
    | case3 c cs hc q hlength =>
        rw [scan, if_neg hc, hlength] at h
        cases h
        exact ⟨[], c, cs, .nothing, furtherLength_eq_error_iff.mp hlength⟩
    | case4 c cs hc n hlength ih =>
        rw [scan, if_neg hc, hlength] at h
        obtain ⟨ws, d, rest, hyields, hbreaks⟩ := ih (eq_error_of_map_eq_error h)
        have hword := (firstWord_of_furtherLength (Bool.eq_false_iff.mpr hc) hlength).2
        have hmore := Yields.word hword hyields
        rw [List.cons_append, List.take_append_drop] at hmore
        exact ⟨_, d, rest, hmore, hbreaks⟩
  · rintro ⟨ws, c, rest, hyields, hp, hnone⟩
    have hblank := not_isBlank_of_delimiter hp
    rw [hyields.scan_eq, scan, if_neg (ne_true_of_eq_false hblank),
      furtherLength_eq_error_iff.mpr ⟨hp, hnone⟩]
    rfl

/-- Splitting a statement loses nothing and is stable. A statement is split into some words just if they
lie in it one after the other with nothing but blanks between and around them, where each ends as its
first character tells. The words with a space between each two are split into the same words. A
statement is refused just if some word of it is not completed, with the problem of that word. -/
theorem tokens_lossless_and_stable (statement : String) :
    (∀ ts, tokens statement = .ok ts ↔ Yields statement.toList (ts.map String.toList) []) ∧
    (∀ ts, tokens statement = .ok ts → tokens (" ".intercalate ts) = .ok ts) ∧
    ∀ e, tokens statement = .error e ↔
      ∃ p, Breaks statement.toList p ∧ e = .malformed p statement := by
  refine ⟨fun ts => ?_, fun ts h => ?_, fun e => ?_⟩
  · rw [tokens_eq_ok_iff, scan_eq_ok_iff]
  · have hscan := tokens_eq_ok_iff.mp h
    rw [tokens_eq_ok_iff, String.toList_intercalate]
    exact scan_intercalate (isWord_of_scan hscan)
  · simp only [← scan_eq_error_iff]
    rw [tokens]
    cases scan statement.toList with
    | ok ws => simp
    | error p => simp [eq_comm]

/-- A quoted label with an escaped quote, a substitution with an escaped slash and a literal tree stand
beside one another; the tree alone is not completed where its last bracket is missing. -/
theorem tokens_of_adjacent_words :
    let text := "z \"x\\\" y\"/a\\/b/c d/v(A\t(B (C)))w "
    let words := ["z", "\"x\\\" y\"", "/a\\/b/c d/", "v(A", "(B (C))", ")w"]
    tokens text = .ok words ∧ Yields text.toList (words.map String.toList) [] ∧
      tokens (" ".intercalate words) = .ok words ∧
      tokens "z (A (B)" = .error (.malformed .unbalancedTree "z (A (B)") ∧
      ∃ p, Breaks "z (A (B)".toList p := by
  intro text words
  have hwords : tokens text = .ok words := by decide +kernel
  have hopen : tokens "z (A (B)" = .error (.malformed .unbalancedTree "z (A (B)") := by
    decide +kernel
  obtain ⟨hyields, hagain, -⟩ := tokens_lossless_and_stable text
  obtain ⟨p, hbreaks, -⟩ := ((tokens_lossless_and_stable "z (A (B)").2.2 _).mp hopen
  exact ⟨hwords, (hyields words).mp hwords, hagain words hwords, hopen, p, hbreaks⟩

end Treebank.Statement
