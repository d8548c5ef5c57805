import Treebank.Proofs.Pattern.Proper
import Treebank.Proofs.Text.Blank
import Treebank.Proofs.Text.CutSet
import Treebank.Statement.Reader

/-!
# Words of a statement

Where a word ends shows in the word itself, or for a bare one in the blank after it. So a word that has
been found in one text is found again in every text in which it begins and a blank comes after it.
-/

namespace Treebank.Statement

open Text
open Pattern (IsName)

variable {c mark : Char} {cs more blanks w : List Char} {ws : List (List Char)}
  {n depth marks : Nat}

/-! ## Lengths -/

theorem markedLength_escape (c : Char) (cs : List Char) :
    markedLength mark (n + 1) ('\\' :: c :: cs) = (markedLength mark (n + 1) cs).map (· + 2) := rfl

theorem markedLength_cons (hc : c ≠ '\\') (cs : List Char) :
    markedLength mark (n + 1) (c :: cs) =
      (markedLength mark (if c == mark then n else n + 1) cs).map (· + 1) := by
  rw [markedLength]
  · rintro rfl
    exact absurd rfl hc
  · rintro _ _ rfl
    exact absurd rfl hc

/-- The last case of the count: what is no backslash at the end and none before a character is none. -/
theorem ne_backslash (hend : c = '\\' → cs = [] → False)
    (hescape : ∀ d ds, c = '\\' → cs = d :: ds → False) : c ≠ '\\' := by
  rintro rfl
  cases cs with
  | nil => exact hend rfl rfl
  | cons d ds => exact hescape d ds rfl rfl

theorem bracketLength_cons (hopen : c ≠ '(') (hclose : c ≠ ')') (cs : List Char) :
    bracketLength depth (c :: cs) = (bracketLength depth cs).map (· + 1) := by
  rw [bracketLength]
  · exact hopen
  · exact hclose

/-- The bracket that closes the open ones is in the text, and no further text is looked at. -/
theorem bracketLength_take (h : bracketLength depth cs = some n) (more : List Char) :
    n ≤ cs.length ∧ bracketLength depth (cs.take n ++ more) = some n := by
  induction depth, cs using bracketLength.induct generalizing n with
  | case1 depth => cases h
  | case2 depth cs ih =>
      obtain ⟨n, hn, rfl⟩ := Option.map_eq_some_iff.mp h
      obtain ⟨hle, hagain⟩ := ih hn
      refine ⟨Nat.succ_le_succ hle, ?_⟩
      rw [List.take_succ_cons, List.cons_append, bracketLength, hagain]
      rfl
  | case3 depth cs hdepth =>
      rw [bracketLength, if_pos hdepth] at h
      cases h
      refine ⟨Nat.succ_le_succ (Nat.zero_le _), ?_⟩
      rw [List.take_succ_cons, List.cons_append, bracketLength, if_pos hdepth]
  | case4 depth cs hdepth ih =>
      rw [bracketLength, if_neg hdepth] at h
      obtain ⟨n, hn, rfl⟩ := Option.map_eq_some_iff.mp h
      obtain ⟨hle, hagain⟩ := ih hn
      refine ⟨Nat.succ_le_succ hle, ?_⟩
      rw [List.take_succ_cons, List.cons_append, bracketLength, if_neg hdepth, hagain]
      rfl
  | case5 depth c cs hopen hclose ih =>
      rw [bracketLength_cons hopen hclose] at h
      obtain ⟨n, hn, rfl⟩ := Option.map_eq_some_iff.mp h
      obtain ⟨hle, hagain⟩ := ih hn
      refine ⟨Nat.succ_le_succ hle, ?_⟩
      rw [List.take_succ_cons, List.cons_append, bracketLength_cons hopen hclose, hagain]
      rfl

/-- The last of the marks is in the text, and no further text is looked at. -/
theorem markedLength_take (h : markedLength mark marks cs = some n) (more : List Char) :
    n ≤ cs.length ∧ markedLength mark marks (cs.take n ++ more) = some n := by
  induction marks, cs using markedLength.induct mark generalizing n with
  | case1 cs =>
      rw [markedLength] at h
      cases h
      exact ⟨Nat.zero_le _, markedLength.eq_1 ..⟩
  | case2 marks => cases h
  | case3 marks => cases h
  | case4 marks c cs ih =>
      rw [Nat.succ_eq_add_one, markedLength_escape] at h
      obtain ⟨n, hn, rfl⟩ := Option.map_eq_some_iff.mp h
      obtain ⟨hle, hagain⟩ := ih hn
      refine ⟨Nat.add_le_add_right hle 2, ?_⟩
      rw [List.take_succ_cons, List.take_succ_cons, List.cons_append, List.cons_append,
        Nat.succ_eq_add_one, markedLength_escape, hagain]
      rfl
  | case5 marks c cs hend hescape ih =>
      have hc := ne_backslash hend hescape
      rw [Nat.succ_eq_add_one, markedLength_cons hc] at h
      obtain ⟨n, hn, rfl⟩ := Option.map_eq_some_iff.mp h
      obtain ⟨hle, hagain⟩ := ih hn
      refine ⟨Nat.succ_le_succ hle, ?_⟩
      rw [List.take_succ_cons, List.cons_append, Nat.succ_eq_add_one, markedLength_cons hc, hagain]
      rfl

/-! ## Words -/

/-- The text is at its end or goes on with a blank. -/
def Parts (cs : List Char) : Prop := ∀ c, cs.head? = some c → isBlank c = true

theorem isBlank_space : isBlank ' ' = true := rfl

theorem parts_nil : Parts [] := nofun

theorem parts_cons (hc : isBlank c = true) (cs : List Char) : Parts (c :: cs) := by
  rintro _ ⟨⟩
  exact hc

/-- These characters are one word, wherever a blank or the end of the text comes after them. -/
def IsWord (w : List Char) : Prop :=
  ∃ c cs, w = c :: cs ∧ isBlank c = false ∧
    ∀ more, Parts more → furtherLength c (cs ++ more) = .ok cs.length

theorem takeWhile_of_parts (hcs : ∀ c ∈ cs, isBlank c = false) (hmore : Parts more) :
    (cs ++ more).takeWhile (fun c => !isBlank c) = cs := by
  rw [List.takeWhile_append_of_pos fun c hc => by rw [hcs c hc]; rfl]
  cases more with
  | nil => exact List.append_nil _
  | cons d more =>
      rw [List.takeWhile_cons_of_neg (by simp [hmore d rfl]), List.append_nil]

/-- A word that does not begin with a mark goes on to the next blank. -/
theorem furtherLength_of_bare (hc : c ∉ ['(', '"', '/']) (cs : List Char) :
    furtherLength c cs = .ok (cs.takeWhile fun d => !isBlank d).length := by
  simp only [List.mem_cons, List.not_mem_nil, or_false, not_or] at hc
  simp [furtherLength, hc]

theorem isWord_of_bare (hc : c ∉ ['(', '"', '/']) (hblank : ∀ d ∈ c :: cs, isBlank d = false) :
    IsWord (c :: cs) := by
  obtain ⟨hfirst, hmore⟩ := List.forall_mem_cons.mp hblank
  refine ⟨c, cs, rfl, hfirst, fun more hparts => ?_⟩
  rw [furtherLength_of_bare hc, takeWhile_of_parts hmore hparts]

/-- A word that does not begin with a mark has no blanks in it. -/
theorem IsWord.not_blank (h : IsWord (c :: cs)) (hc : c ∉ ['(', '"', '/']) :
    ∀ d ∈ c :: cs, isBlank d = false := by
  obtain ⟨_, _, heq, hfirst, hlength⟩ := h
  obtain ⟨rfl, rfl⟩ := List.cons.inj heq
  have hall := hlength [] parts_nil
  rw [List.append_nil, furtherLength_of_bare hc] at hall
  have htake := (List.takeWhile_prefix _).eq_of_length (Except.ok.inj hall)
  refine List.forall_mem_cons.mpr ⟨hfirst, fun d hd => ?_⟩
  rw [← htake] at hd
  simpa using List.mem_takeWhile_imp hd

theorem furtherLength_bracket (cs : List Char) :
    furtherLength '(' cs = (bracketLength 1 cs).elim (.error .unbalancedTree) .ok := rfl

theorem furtherLength_quote (cs : List Char) :
    furtherLength '"' cs = (markedLength '"' 1 cs).elim (.error .unterminatedLabel) .ok := rfl

theorem furtherLength_slash (cs : List Char) :
    furtherLength '/' cs = (markedLength '/' 2 cs).elim (.error .notThreeSlashes) .ok := rfl

/-- What is counted without a look at further text is a word. -/
theorem isWord_of_length {length : List Char → Option Nat} {p : Problem}
    (hlength : ∀ cs, furtherLength c cs = (length cs).elim (.error p) .ok)
    (htake : ∀ more, length cs = some n → n ≤ cs.length ∧ length (cs.take n ++ more) = some n)
    (hc : isBlank c = false) (h : furtherLength c cs = .ok n) :
    n ≤ cs.length ∧ IsWord (c :: cs.take n) := by
  have hsome : length cs = some n := by
    rw [hlength] at h
    cases hcs : length cs with
    | none =>
        rw [hcs] at h
        cases h
    | some m =>
        rw [hcs] at h
        exact congrArg some (Except.ok.inj h)
  have hle := (htake [] hsome).1
  refine ⟨hle, c, cs.take n, rfl, hc, fun more _ => ?_⟩
  rw [hlength, (htake more hsome).2, List.length_take, Nat.min_eq_left hle]
  rfl

/-- What has been taken for a word is one, and lies within the text. -/
theorem isWord_of_furtherLength (hc : isBlank c = false) (h : furtherLength c cs = .ok n) :
    n ≤ cs.length ∧ IsWord (c :: cs.take n) := by
  by_cases hbare : c ∈ ['(', '"', '/']
  · simp only [List.mem_cons, List.not_mem_nil, or_false] at hbare
    rcases hbare with rfl | rfl | rfl
    · exact isWord_of_length furtherLength_bracket (fun more h => bracketLength_take h more) hc h
    · exact isWord_of_length furtherLength_quote (fun more h => markedLength_take h more) hc h
    · exact isWord_of_length furtherLength_slash (fun more h => markedLength_take h more) hc h
  · rw [furtherLength_of_bare hbare] at h
    cases h
    have htakes := List.takeWhile_prefix (l := cs) fun d => !isBlank d
    refine ⟨htakes.length_le, ?_⟩
    rw [← List.prefix_iff_eq_take.mp htakes]
    refine isWord_of_bare hbare (List.forall_mem_cons.mpr ⟨hc, fun d hd => ?_⟩)
    simpa using List.mem_takeWhile_imp hd

/-! ## Splitting a text -/

theorem scan_of_blank (hc : isBlank c = true) (cs : List Char) : scan (c :: cs) = scan cs := by
  rw [scan, if_pos hc]

theorem scan_blanks_append (h : ∀ c ∈ blanks, isBlank c = true) (cs : List Char) :
    scan (blanks ++ cs) = scan cs := by
  induction blanks with
  | nil => rfl
  | cons c blanks ih =>
      obtain ⟨hc, hmore⟩ := List.forall_mem_cons.mp h
      rw [List.cons_append, scan_of_blank hc, ih hmore]

/-- A word is taken off the text, and the words after it are those of the rest. -/
theorem scan_word (hw : IsWord w) (hmore : Parts more) :
    scan (w ++ more) = (w :: ·) <$> scan more := by
  obtain ⟨c, cs, rfl, hc, hlength⟩ := hw
  rw [List.cons_append, scan, if_neg (ne_true_of_eq_false hc), hlength more hmore]
  simp only [List.take_left, List.drop_left]

theorem scan_of_isWord (hw : IsWord w) : scan w = .ok [w] := by
  have hscan := scan_word hw parts_nil
  rwa [List.append_nil, scan] at hscan

/-- Words with a blank after each but the last are split into these words. -/
theorem scan_intercalate (h : ∀ w ∈ ws, IsWord w) : scan (List.intercalate [' '] ws) = .ok ws := by
  induction ws with
  | nil => exact scan.eq_1
  | cons w ws ih =>
      obtain ⟨hw, hws⟩ := List.forall_mem_cons.mp h
      cases ws with
      | nil =>
          rw [List.intercalate_singleton]
          exact scan_of_isWord hw
      | cons v ws =>
          rw [List.intercalate_cons_cons, List.append_assoc, List.singleton_append,
            scan_word hw (parts_cons isBlank_space _), scan_of_blank isBlank_space, ih hws]
          rfl

theorem isWord_of_scan (h : scan cs = .ok ws) : ∀ w ∈ ws, IsWord w := by
  induction cs using scan.induct generalizing ws with
  | case1 =>
      rw [scan] at h
      cases h
      exact List.forall_mem_nil _
  | case2 c cs hc ih =>
      rw [scan_of_blank hc] at h
      exact ih h
  | case3 c cs hc p hlength =>
      rw [scan, if_neg hc, hlength] at h
      cases h
  | case4 c cs hc n hlength ih =>
      rw [scan, if_neg hc, hlength] at h
      obtain ⟨vs, hvs, rfl⟩ := exists_of_map_eq_ok h
      have hword := (isWord_of_furtherLength (Bool.eq_false_iff.mpr hc) hlength).2
      exact List.forall_mem_cons.mpr ⟨hword, ih hvs⟩

/-- The only word of a text is a piece of it. -/
theorem exists_of_scan_singleton (h : scan cs = .ok [w]) : ∃ front back, cs = front ++ w ++ back := by
  induction cs using scan.induct with
  | case1 =>
      rw [scan] at h
      cases h
  | case2 c cs hc ih =>
      rw [scan_of_blank hc] at h
      obtain ⟨front, back, rfl⟩ := ih h
      exact ⟨c :: front, back, rfl⟩
  | case3 c cs hc p hlength =>
      rw [scan, if_neg hc, hlength] at h
      cases h
  | case4 c cs hc n hlength ih =>
      rw [scan, if_neg hc, hlength] at h
      obtain ⟨vs, _, heq⟩ := exists_of_map_eq_ok h
      obtain ⟨rfl, _⟩ := List.cons.inj heq
      exact ⟨[], cs.drop n, by simp⟩

/-- A text without words is blank. -/
theorem blank_of_scan (h : scan cs = .ok []) : ∀ c ∈ cs, isBlank c = true := by
  induction cs using scan.induct with
  | case1 => exact List.forall_mem_nil _
  | case2 c cs hc ih =>
      rw [scan_of_blank hc] at h
      exact List.forall_mem_cons.mpr ⟨hc, ih h⟩
  | case3 c cs hc p hlength =>
      rw [scan, if_neg hc, hlength] at h
      cases h
  | case4 c cs hc n hlength ih =>
      rw [scan, if_neg hc, hlength] at h
      obtain ⟨vs, _, hnil⟩ := exists_of_map_eq_ok h
      cases hnil

/-! ## Blanks at the ends -/

theorem ne_of_isBlank (hc : isBlank c = true) {d : Char} (hd : isBlank d = false) : c ≠ d := by
  rintro rfl
  rw [hc] at hd
  cases hd

theorem bracketLength_blanks (h : ∀ c ∈ blanks, isBlank c = true) (depth : Nat) :
    bracketLength depth blanks = none := by
  induction blanks with
  | nil => rfl
  | cons c blanks ih =>
      obtain ⟨hc, hmore⟩ := List.forall_mem_cons.mp h
      rw [bracketLength_cons (ne_of_isBlank hc rfl) (ne_of_isBlank hc rfl), ih hmore]
      rfl

theorem markedLength_blanks (hmark : isBlank mark = false) (h : ∀ c ∈ blanks, isBlank c = true) :
    markedLength mark (marks + 1) blanks = none := by
  induction blanks with
  | nil => rfl
  | cons c blanks ih =>
      obtain ⟨hc, hmore⟩ := List.forall_mem_cons.mp h
      rw [markedLength_cons (ne_of_isBlank hc rfl),
        if_neg fun hbeq => ne_of_isBlank hc hmark (eq_of_beq hbeq), ih hmore]
      rfl

theorem bracketLength_append_blanks (h : ∀ c ∈ blanks, isBlank c = true) (depth : Nat)
    (cs : List Char) : bracketLength depth (cs ++ blanks) = bracketLength depth cs := by
  induction depth, cs using bracketLength.induct with
  | case1 depth => exact bracketLength_blanks h depth
  | case2 depth cs ih => rw [List.cons_append, bracketLength, bracketLength, ih]
  | case3 depth cs hdepth =>
      rw [List.cons_append, bracketLength, bracketLength, if_pos hdepth, if_pos hdepth]
  | case4 depth cs hdepth ih =>
      rw [List.cons_append, bracketLength, bracketLength, if_neg hdepth, if_neg hdepth, ih]
  | case5 depth c cs hopen hclose ih =>
      rw [List.cons_append, bracketLength_cons hopen hclose, bracketLength_cons hopen hclose, ih]

theorem markedLength_append_blanks (hmark : isBlank mark = false)
    (h : ∀ c ∈ blanks, isBlank c = true) (marks : Nat) (cs : List Char) :
    markedLength mark marks (cs ++ blanks) = markedLength mark marks cs := by
  induction marks, cs using markedLength.induct mark with
  | case1 cs => rw [markedLength, markedLength]
  | case2 marks => exact markedLength_blanks hmark h
  | case3 marks =>
      -- the backslash at the end takes one of the blanks, if there is one
      cases blanks with
      | nil => rfl
      | cons c blanks =>
          rw [List.singleton_append, Nat.succ_eq_add_one, markedLength_escape,
            markedLength_blanks hmark fun d hd => h d (List.mem_cons_of_mem _ hd)]
          rfl
  | case4 marks c cs ih =>
      rw [List.cons_append, List.cons_append, Nat.succ_eq_add_one, markedLength_escape,
        markedLength_escape, ih]
  | case5 marks c cs hend hescape ih =>
      have hc := ne_backslash hend hescape
      rw [List.cons_append, Nat.succ_eq_add_one, markedLength_cons hc, markedLength_cons hc, ih]

theorem takeWhile_append_blanks (h : ∀ c ∈ blanks, isBlank c = true) (cs : List Char) :
    (cs ++ blanks).takeWhile (fun c => !isBlank c) = cs.takeWhile fun c => !isBlank c := by
  rw [List.takeWhile_append]
  split
  · rename_i hall
    have hnil : blanks.takeWhile (fun c => !isBlank c) = [] := by
      cases blanks with
      | nil => rfl
      | cons c blanks => exact List.takeWhile_cons_of_neg (by simp [h c List.mem_cons_self])
    rw [hnil, List.append_nil, (List.takeWhile_prefix _).eq_of_length hall]
  · rfl

theorem furtherLength_append_blanks (h : ∀ c ∈ blanks, isBlank c = true) (c : Char)
    (cs : List Char) : furtherLength c (cs ++ blanks) = furtherLength c cs := by
  by_cases hbare : c ∈ ['(', '"', '/']
  · simp only [List.mem_cons, List.not_mem_nil, or_false] at hbare
    rcases hbare with rfl | rfl | rfl
    · rw [furtherLength_bracket, furtherLength_bracket, bracketLength_append_blanks h]
    · rw [furtherLength_quote, furtherLength_quote, markedLength_append_blanks rfl h]
    · rw [furtherLength_slash, furtherLength_slash, markedLength_append_blanks rfl h]
  · rw [furtherLength_of_bare hbare, furtherLength_of_bare hbare, takeWhile_append_blanks h]

theorem scan_append_blanks (h : ∀ c ∈ blanks, isBlank c = true) (cs : List Char) :
    scan (cs ++ blanks) = scan cs := by
  induction cs using scan.induct with
  | case1 =>
      have hscan := scan_blanks_append h []
      rwa [List.append_nil] at hscan
  | case2 c cs hc ih => rw [List.cons_append, scan_of_blank hc, scan_of_blank hc, ih]
  | case3 c cs hc p hlength =>
      have hagain := (furtherLength_append_blanks h c cs).trans hlength
      rw [List.cons_append, scan, scan, if_neg hc, if_neg hc, hlength, hagain]
  | case4 c cs hc n hlength ih =>
      have hagain := (furtherLength_append_blanks h c cs).trans hlength
      have hle := (isWord_of_furtherLength (Bool.eq_false_iff.mpr hc) hlength).1
      rw [List.cons_append, scan, scan, if_neg hc, if_neg hc, hlength, hagain]
      simp only [List.take_append_of_le_length hle, List.drop_append_of_le_length hle, ih]

/-- Blanks at the ends of a text make no difference to its words. -/
theorem scan_trimChars (cs : List Char) : scan (trimChars cs) = scan cs := by
  have hleft := List.takeWhile_append_dropWhile (p := isBlank) (l := cs)
  have hright := List.rdropWhile_append_rtakeWhile (p := isBlank) (l := cs.dropWhile isBlank)
  have htrim : trimChars cs = (cs.dropWhile isBlank).rdropWhile isBlank := rfl
  have hblank {ds : List Char} : ∀ c ∈ ds.takeWhile isBlank, isBlank c = true := fun c hc =>
    List.mem_takeWhile_imp hc
  calc scan (trimChars cs)
    _ = scan (trimChars cs ++ (cs.dropWhile isBlank).rtakeWhile isBlank) := by
        refine (scan_append_blanks (fun c hc => ?_) _).symm
        exact hblank c (List.mem_reverse.mp hc)
    _ = scan (cs.dropWhile isBlank) := by rw [htrim, hright]
    _ = scan (cs.takeWhile isBlank ++ cs.dropWhile isBlank) := (scan_blanks_append hblank _).symm
    _ = scan cs := by rw [hleft]

/-! ## Names, and the words of a statement -/

theorem isWord_of_isName {name : String} (h : IsName name) : IsWord name.toList := by
  obtain ⟨hne, hword⟩ := h
  cases hlist : name.toList with
  | nil => exact absurd (String.toList_eq_nil_iff.mp hlist) hne
  | cons c cs =>
      rw [hlist] at hword
      refine isWord_of_bare (fun hc => ?_) fun d hd => isBlank_of_isWordChar (hword d hd)
      have hc' := hword c List.mem_cons_self
      simp only [List.mem_cons, List.not_mem_nil, or_false] at hc
      rcases hc with hc | hc | hc
      · exact ne_of_isWordChar hc' (by decide) (by decide) hc
      · exact ne_of_isWordChar hc' (by decide) (by decide) hc
      · exact ne_of_isWordChar hc' (by decide) (by decide) hc

theorem isName_iff {name : String} :
    (!name.toList.isEmpty && name.toList.all isWordChar) = true ↔ IsName name := by
  simp [Pattern.IsName]

theorem readName_of_isName {name : String} (h : IsName name) (statement : String) :
    readName statement name = .ok name := by
  rw [readName, if_pos (isName_iff.mpr h)]

theorem eq_of_readName {statement token name : String} (h : readName statement token = .ok name) :
    token = name ∧ IsName name := by
  rw [readName] at h
  split at h
  · rename_i htest
    cases h
    exact ⟨rfl, isName_iff.mp htest⟩
  · cases h

theorem tokens_trim (text : String) :
    tokens (trim text) =
      match scan text.toList with
      | .ok ws => .ok (ws.map String.ofList)
      | .error p => .error (.malformed p (trim text)) := by
  have hscan : scan (trim text).toList = scan text.toList := by
    rw [trim, String.toList_ofList, scan_trimChars]
  cases h : scan text.toList with
  | ok ws => simp only [tokens, hscan, h]
  | error p => simp only [tokens, hscan, h]

/-- The keyword and the further words of a text make its statement. -/
theorem read_of_scan {text : String} {keyword : List Char} {args : List (List Char)}
    (h : scan text.toList = .ok (keyword :: args)) :
    read text =
      readWords (trim text) (String.ofList (lower keyword)) (args.map String.ofList) := by
  have htokens := tokens_trim text
  rw [h] at htokens
  simp only [read, htokens, ok_bind, List.map_cons, String.toList_ofList]

theorem exists_of_read_eq_ok {text : String} {st : Statement} (h : read text = .ok st) :
    ∃ keyword args, scan text.toList = .ok (keyword :: args) ∧
      readWords (trim text) (String.ofList (lower keyword)) (args.map String.ofList) = .ok st := by
  have htokens := tokens_trim text
  cases hscan : scan text.toList with
  | error p =>
      rw [hscan] at htokens
      rw [read, htokens] at h
      cases h
  | ok ws =>
      cases ws with
      | nil =>
          rw [hscan] at htokens
          rw [read, htokens] at h
          cases h
      | cons keyword args => exact ⟨keyword, args, rfl, read_of_scan hscan ▸ h⟩

theorem lower_relabel : String.ofList (lower "relabel".toList) = "relabel" := rfl

theorem isName_relabel : IsName "relabel" := ⟨by decide, isWordChar_of_all_ascii (by decide)⟩

/-- What comes after the name in a statement that changes a label is split as it is alone. -/
theorem scan_relabel {name : String} (hname : IsName name) (label : String) :
    scan ("relabel " ++ name ++ " " ++ label).toList =
      ("relabel".toList :: name.toList :: ·) <$> scan label.toList := by
  have hlist : ("relabel " ++ name ++ " " ++ label).toList =
      "relabel".toList ++ ' ' :: (name.toList ++ ' ' :: label.toList) := by
    simp
  rw [hlist, scan_word (isWord_of_isName isName_relabel) (parts_cons isBlank_space _),
    scan_of_blank isBlank_space, scan_word (isWord_of_isName hname) (parts_cons isBlank_space _),
    scan_of_blank isBlank_space]
  cases scan label.toList <;> rfl

theorem read_relabel {name label : String} {w : List Char} (hname : IsName name)
    (h : scan label.toList = .ok [w]) :
    read ("relabel " ++ name ++ " " ++ label) =
      relabel name <$>
        readRelabeling (trim ("relabel " ++ name ++ " " ++ label)) (String.ofList w) := by
  have hscan := scan_relabel hname label
  rw [h] at hscan
  rw [read_of_scan hscan, lower_relabel, List.map_cons, String.ofList_toList, List.map_singleton,
    readWords, readName_of_isName hname, ok_bind]
  rfl

end Treebank.Statement
