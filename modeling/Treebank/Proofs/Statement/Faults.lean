import Treebank.Proofs.Pattern.Faults
import Treebank.Proofs.Pattern.Reading
import Treebank.Proofs.Text.Number
import Treebank.Statement.Reader

/-!
# What can be wrong with a statement

A text that is no statement has a fault that is told with the statement. Apart from this, the number
of a child place or of a group in a replacement text may be one that cannot be read, and a regular
expression one that is refused without a place in it.
-/

namespace Treebank

namespace Statement

/-! ## Blame -/

/-- The word changes labels by this expression and this replacement text. -/
def Substitutes (word : String) (pattern replacement : List Char) : Prop :=
  ∃ cs, word.toList = '/' :: cs ∧ splitSlashes [] cs = [pattern, replacement, []]

/-- One of the words holds a number with this fault: that of a child place, or that of a group. -/
inductive WordFails (words : List String) (f : Text.NumberFault) : Prop where
  | place {word : String} {digits : List Char} : word ∈ words → word.toList = '>' :: digits →
      Text.readInt digits = .error f → WordFails words f
  | group {word : String} {pattern replacement name : List Char} : word ∈ words →
      Substitutes word pattern replacement → .named name ∈ escapes replacement →
      name.all Text.isDigitChar = true → Text.readNat name name = .error f → WordFails words f

/-- A fault of the words: it is told with the statement, or one of them holds what cannot be read. -/
inductive Blame (statement : String) (words : List String) : Error → Prop where
  | problem (p : Problem) : Blame statement words (.malformed p statement)
  | number {f : Text.NumberFault} : WordFails words f → Blame statement words (.badNumber f)
  | regex {word : String} {pattern replacement : List Char} {f : Regex.Error} : word ∈ words →
      Substitutes word pattern replacement → Regex.parse (String.ofList pattern) = .error f →
      (∀ problem position, f ≠ .malformed problem position) →
      Blame statement words (.refusedRegex f)

/-- The outcome is a result or a fault of the words. -/
def Blames {α : Type} (statement : String) (words : List String) (x : Except Error α) : Prop :=
  ∀ e, x = .error e → Blame statement words e

variable {α β : Type} {statement word : String} {words : List String}

theorem blames_ok (a : α) : Blames statement words (.ok a) := nofun

theorem blames_fault (p : Problem) : Blames statement words (.error (.malformed p statement) :
    Except Error α) := by
  rintro _ ⟨⟩
  exact .problem p

theorem Blames.bind {x : Except Error α} {k : α → Except Error β} (hx : Blames statement words x)
    (hk : ∀ a, Blames statement words (k a)) : Blames statement words (x >>= k) := by
  cases x with
  | ok a => exact hk a
  | error e =>
      rintro _ ⟨⟩
      exact hx e rfl

theorem Blames.map {x : Except Error α} (hx : Blames statement words x) (g : α → β) :
    Blames statement words (g <$> x) := by
  cases x with
  | ok a => exact nofun
  | error e =>
      rintro _ ⟨⟩
      exact hx e rfl

/-! ## Names and literal trees -/

theorem readName_blames (token : String) : Blames statement words (readName statement token) := by
  rw [readName]
  split
  · exact blames_ok token
  · exact blames_fault _

theorem mapM_readName_blames (tokens : List String) :
    Blames statement words (tokens.mapM (readName statement)) := by
  induction tokens with
  | nil => exact blames_ok []
  | cons token tokens ih =>
      rw [List.mapM_cons]
      exact (readName_blames token).bind fun _ => ih.bind fun _ => blames_ok _

theorem readNames_blames (keyword : String) (args : List String) :
    Blames statement words (readNames statement keyword args) := by
  rw [readNames]
  split
  · exact blames_fault _
  · exact mapM_readName_blames args

end Statement

namespace Template

open Statement (Blames Error blames_ok blames_fault)

variable {statement : String} {words : List String} {allowFoot : Bool}

theorem readLabel_blames (path : List Nat) (isLeaf : Bool) (label : String) :
    Blames statement words (readLabel statement allowFoot path isLeaf label) := by
  simp only [readLabel]
  split
  · exact blames_fault _
  · split
    · exact blames_fault _
    · exact blames_ok _

mutual
theorem readMarks_blames : (path : List Nat) → (t : Tree) →
    Blames statement words (readMarks statement allowFoot path t)
  | path, .node l cs => by
      rw [readMarks]
      refine (readLabel_blames path _ l).bind fun _ => ?_
      exact (readAllMarks_blames path 0 cs).bind fun _ => blames_ok _
theorem readAllMarks_blames : (path : List Nat) → (i : Nat) → (ts : List Tree) →
    Blames statement words (readAllMarks statement allowFoot path i ts)
  | _, _, [] => blames_ok _
  | path, i, t :: ts => by
      rw [readAllMarks]
      refine (readMarks_blames (i :: path) t).bind fun _ => ?_
      exact (readAllMarks_blames path (i + 1) ts).bind fun _ => blames_ok _
end

theorem read_blames (text : String) : Blames statement words (read text statement allowFoot) := by
  rw [read]
  split
  · exact blames_fault _
  · refine (readMarks_blames [] _).bind fun marks => ?_
    split
    · exact blames_fault _
    · exact blames_ok _
  · exact blames_fault _

end Template

namespace Statement

variable {statement word : String} {words : List String}

theorem readSource_blames (token : String) :
    Blames statement words (readSource statement token) := by
  rw [readSource]
  split
  · exact (Template.read_blames token).map _
  · exact (readName_blames token).map _

/-! ## Places -/

theorem readPlace_blames (hword : word ∈ words) (target : String) :
    Blames statement words (readPlace statement word target) := by
  rw [readPlace]
  split
  · exact (readName_blames target).map _
  · exact (readName_blames target).map _
  · rename_i digits hdigits
    split
    · exact blames_fault _
    · refine Blames.bind ?_ fun i => ?_
      · cases hread : Text.readInt digits with
        | ok i => exact blames_ok i
        | error f =>
            rintro _ ⟨⟩
            exact .number (.place hword hdigits hread)
      · split
        · exact blames_fault _
        · exact (readName_blames target).bind fun _ => blames_ok _
  · exact blames_fault _

/-! ## Replacement texts -/

theorem decimals_of_escapeAfter {c : Char} {cs digits : List Char}
    (h : (escapeAfter c cs).1 = .numbered digits) :
    digits.all Text.isDecimal = true ∧ digits ≠ [] ∧ digits.length ≤ 2 := by
  simp only [escapeAfter] at h
  split at h
  · cases h
  · split at h
    · split at h
      · cases h
      · cases h
    · split at h
      · rename_i hc
        split at h
        · split at h
          · rename_i hd
            cases h
            exact ⟨by simp [hc, hd], by simp, Nat.le_refl 2⟩
          · cases h
            exact ⟨by simp [hc], by simp, Nat.le_succ 1⟩
        · cases h
          exact ⟨by simp [hc], by simp, Nat.le_succ 1⟩
      · cases h

/-- The numbers of groups by one or two digits can be read. -/
theorem readNat_of_numbered {cs digits : List Char} (h : .numbered digits ∈ escapes cs) :
    ∃ n, Text.readNat digits digits = .ok n := by
  fun_induction escapes cs with
  | case1 => cases h
  | case2 c cs e n hafter ih =>
      rcases List.mem_cons.mp h with rfl | h
      · have hnumbered : (escapeAfter c cs).1 = .numbered digits := by rw [hafter]
        obtain ⟨hdecimal, hne, hlength⟩ := decimals_of_escapeAfter hnumbered
        rcases Text.readNat_cases digits hdecimal hne with ⟨hlong, _⟩ | ⟨m, hm, _⟩
        · exact absurd (Nat.lt_of_lt_of_le hlong hlength) (by decide)
        · exact ⟨m, hm⟩
      · exact ih h
  | case3 _ cs _ ih => exact ih h

theorem check_blames {pattern replacement : List Char} {r : Regex} {e : Escape} (hword : word ∈ words)
    (hsub : Substitutes word pattern replacement) (he : e ∈ escapes replacement) :
    Blames statement words (e.check statement r) := by
  cases e with
  | octal => exact blames_ok _
  | named name =>
      simp only [Escape.check]
      split
      · rename_i hname
        rw [Bool.and_eq_true] at hname
        refine Blames.bind ?_ fun n => ?_
        · rw [groupNumber]
          cases hread : Text.readNat name name with
          | ok n => exact blames_ok n
          | error f =>
              rintro _ ⟨⟩
              exact .number (.group hword hsub he hname.2 hread)
        · split
          · exact blames_ok _
          · exact blames_fault _
      · split
        · exact blames_ok _
        · exact blames_fault _
  | numbered digits =>
      obtain ⟨n, hn⟩ := readNat_of_numbered he
      simp only [Escape.check, groupNumber, hn]
      split
      · exact blames_ok _
      · refine (blames_ok n).bind fun _ => ?_
        split
        · exact blames_ok _
        · exact blames_fault _
  | other c =>
      rw [Escape.check]
      split
      · exact blames_fault _
      · exact blames_ok _

theorem checkReplacement_blames {pattern replacement : List Char} (r : Regex) (hword : word ∈ words)
    (hsub : Substitutes word pattern replacement) :
    Blames statement words (checkReplacement statement r replacement) := by
  simp only [checkReplacement]
  split
  · exact blames_fault _
  · have hall : ∀ e ∈ escapes replacement, Blames statement words (e.check statement r) :=
      fun e he => check_blames hword hsub he
    generalize escapes replacement = es at hall
    induction es with
    | nil => exact blames_ok _
    | cons e es ih =>
        obtain ⟨he, hes⟩ := List.forall_mem_cons.mp hall
        rw [List.forIn_cons]
        cases hcheck : e.check statement r with
        | error _ =>
            rintro _ ⟨⟩
            exact he _ hcheck
        | ok _ => exact ih hes

theorem readSubstitution_blames (hword : word ∈ words) (hslash : ∃ cs, word.toList = '/' :: cs) :
    Blames statement words (readSubstitution statement word) := by
  obtain ⟨cs, hcs⟩ := hslash
  rw [readSubstitution, hcs, List.drop_one, List.tail_cons]
  split
  · rename_i pattern replacement hparts
    have hsub : Substitutes word pattern replacement := ⟨cs, hcs, hparts⟩
    simp only
    split
    · exact blames_fault _
    · rename_i f hne hf
      rintro _ ⟨⟩
      exact .regex hword hsub hf hne
    · exact (checkReplacement_blames _ hword hsub).bind fun _ => blames_ok _
  · exact blames_fault _

theorem readRelabeling_blames (hword : word ∈ words) :
    Blames statement words (readRelabeling statement word) := by
  rw [readRelabeling]
  split
  · rename_i cs hcs
    exact readSubstitution_blames hword ⟨cs, hcs⟩
  · exact blames_ok _
  · exact blames_fault _
  · exact blames_ok _

/-! ## Statements -/

theorem relabel_blames (hword : word ∈ words) (name : String) : Blames statement words (do
    return relabel (← readName statement name) (← readRelabeling statement word)) :=
  (readName_blames name).bind fun _ => (readRelabeling_blames hword).bind fun _ => blames_ok _

theorem readWords_blames (keyword : String) {args : List String} (hargs : args ⊆ words) :
    Blames statement words (readWords statement keyword args) := by
  unfold readWords
  split
  · exact (readNames_blames _ args).map _
  · exact (readNames_blames _ args).map _
  · exact (readNames_blames _ args).map _
  · exact (readName_blames _).bind fun _ => (readName_blames _).bind fun _ => blames_ok _
  · exact blames_fault _
  · exact relabel_blames (hargs (by simp)) _
  · exact blames_fault _
  · exact relabel_blames (hargs (by simp)) _
  · exact blames_fault _
  · exact (readSource_blames _).bind fun _ =>
      (readPlace_blames (hargs (by simp)) _).bind fun _ => blames_ok _
  · exact blames_fault _
  · exact (readName_blames _).bind fun _ =>
      (readPlace_blames (hargs (by simp)) _).bind fun _ => blames_ok _
  · exact blames_fault _
  · exact (readName_blames _).bind fun _ => (readSource_blames _).bind fun _ => blames_ok _
  · exact blames_fault _
  · split
    · exact blames_fault _
    · exact (Template.read_blames _).bind fun _ => (readName_blames _).bind fun _ => blames_ok _
  · exact blames_fault _
  · exact blames_fault _

/-! ## Outcomes -/

/-- The faults of the regular expressions of a statement, if any, have a place in the expression. -/
def RegexesPlaced (text : String) : Prop :=
  ∀ words, tokens (Text.trim text) = .ok words → ∀ word ∈ words, ∀ pattern replacement,
    Substitutes word pattern replacement → Regex.Placed (String.ofList pattern)

/-- A number of the statement has this fault. -/
def NumberFails (text : String) (f : Text.NumberFault) : Prop :=
  ∃ words, tokens (Text.trim text) = .ok words ∧ WordFails words f

/-- What is no statement has a fault told with the statement, or a number that cannot be read. -/
theorem read_error_cases {text : String} {e : Error} (hregexes : RegexesPlaced text)
    (h : read text = .error e) :
    (∃ problem, e = .malformed problem (Text.trim text)) ∨
      ∃ f, e = .badNumber f ∧ NumberFails text f := by
  simp only [read] at h
  cases hwords : tokens (Text.trim text) with
  | error e' =>
      rw [hwords] at h
      cases h
      rw [tokens] at hwords
      split at hwords
      · cases hwords
      · cases hwords
        exact Or.inl ⟨_, rfl⟩
  | ok words =>
      rw [hwords, ok_bind] at h
      have hblame : Blame (Text.trim text) words e := by
        split at h
        · cases h
          exact .problem _
        · exact readWords_blames _ (List.subset_cons_self ..) e h
      cases hblame with
      | problem p => exact Or.inl ⟨p, rfl⟩
      | number hf => exact Or.inr ⟨_, rfl, words, hwords, hf⟩
      | regex hword hsub hf hne =>
          obtain ⟨problem, position, he⟩ := hregexes words hwords _ hword _ _ hsub _ hf
          exact absurd he (hne problem position)

end Statement

/-! ## Patterns and statements -/

/-- A text whose regular expressions compile, or fail with a place, is a pattern, or has a fault at a
place of the text, or a child number that cannot be read. It is a statement, or has a fault told with
the statement, or a number of a child place or of a named group that cannot be read. -/
theorem read_outcomes (text : String) :
    (Pattern.RegexesPlaced text →
      (∃ p, Pattern.read text = .ok p) ∨
        (∃ problem offset near, Pattern.read text = .error (.malformed problem offset near text) ∧
          offset ≤ text.length) ∨
        ∃ f, Pattern.read text = .error (.badNumber f) ∧ Pattern.NumberFails text f) ∧
    (Statement.RegexesPlaced text →
      (∃ st, Statement.read text = .ok st) ∨
        (∃ problem, Statement.read text = .error (.malformed problem (Text.trim text))) ∨
        ∃ f, Statement.read text = .error (.badNumber f) ∧ Statement.NumberFails text f) := by
  constructor
  · intro hregexes
    cases hread : Pattern.read text with
    | ok p => exact Or.inl ⟨p, rfl⟩
    | error e =>
        rcases Pattern.read_error_cases hregexes hread with ⟨problem, offset, near, rfl, hle⟩ | hf
        · exact Or.inr (Or.inl ⟨problem, offset, near, rfl, hle⟩)
        · obtain ⟨f, rfl, hfails⟩ := hf
          exact Or.inr (Or.inr ⟨f, rfl, hfails⟩)
  · intro hregexes
    cases hread : Statement.read text with
    | ok st => exact Or.inl ⟨st, rfl⟩
    | error e =>
        rcases Statement.read_error_cases hregexes hread with ⟨problem, rfl⟩ | ⟨f, rfl, hfails⟩
        · exact Or.inr (Or.inl ⟨problem, rfl⟩)
        · exact Or.inr (Or.inr ⟨f, rfl, hfails⟩)

theorem regexesPlaced_of_label : Pattern.RegexesPlaced "A" ∧ Statement.RegexesPlaced "A" := by
  have hA : Text.isBlank 'A' = false := rfl
  constructor
  · intro ts hts
    have hlexeme : Pattern.lexeme 'A' [] = .ok ⟨.label, ['A'], 0⟩ := by
      simp [Pattern.lexeme, Pattern.bracketForm?]
    rw [Pattern.tokens, show "A".toList = ['A'] from rfl] at hts
    simp only [Pattern.scanFrom, hA, hlexeme, Bool.false_eq_true, if_false, List.drop_zero] at hts
    cases hts
    simp [Pattern.markSpaces]
  · intro words hwords
    have htrim : (Text.trim "A").toList = ['A'] := by
      simp [Text.trim, Text.trimChars, hA]
    have hlength : Statement.furtherLength 'A' [] = .ok 0 := by decide
    rw [Statement.tokens, htrim] at hwords
    simp only [Statement.scan, hA, hlength, Bool.false_eq_true, if_false, List.drop_nil,
      List.take_nil] at hwords
    cases hwords
    intro word hword pattern replacement hsub
    obtain ⟨cs, hcs, _⟩ := hsub
    rw [List.mem_singleton.mp hword, String.toList_ofList] at hcs
    cases hcs

/-- One word is a pattern, and a statement of an unknown operation. -/
theorem read_outcomes_of_label : Pattern.RegexesPlaced "A" ∧ Statement.RegexesPlaced "A" ∧
    ((∃ p, Pattern.read "A" = .ok p) ∨
      (∃ problem offset near, Pattern.read "A" = .error (.malformed problem offset near "A") ∧
        offset ≤ "A".length) ∨
      ∃ f, Pattern.read "A" = .error (.badNumber f) ∧ Pattern.NumberFails "A" f) ∧
    ((∃ st, Statement.read "A" = .ok st) ∨
      (∃ problem, Statement.read "A" = .error (.malformed problem (Text.trim "A"))) ∨
      ∃ f, Statement.read "A" = .error (.badNumber f) ∧ Statement.NumberFails "A" f) :=
  have ⟨hpattern, hstatement⟩ := regexesPlaced_of_label
  ⟨hpattern, hstatement, (read_outcomes "A").1 hpattern, (read_outcomes "A").2 hstatement⟩

/-- The tokens of a pattern whose child number is a superscript. -/
def superscriptTokens : List Pattern.Token :=
  [⟨.label, "A", 0, false, true⟩, ⟨.numbered true "²", "<²", 2, true, true⟩,
    ⟨.label, "B", 5, true, true⟩]

theorem tokens_superscript : Pattern.tokens "A <² B" = .ok superscriptTokens := by
  have hA : Text.isBlank 'A' = false := rfl
  have hless : Text.isBlank '<' = false := rfl
  have hB : Text.isBlank 'B' = false := rfl
  have hblank : Text.isBlank ' ' = true := rfl
  have htwo : Text.isDigitChar '²' = true := by decide +kernel
  have hspace : Text.isDigitChar ' ' = false := Text.isDigitChar_of_ascii (by decide)
  have hlexemeA (cs : List Char) : Pattern.lexeme 'A' (' ' :: cs) = .ok ⟨.label, ['A'], 0⟩ := by
    simp [Pattern.lexeme, Pattern.bracketForm?, hblank]
  have hlexemeB : Pattern.lexeme 'B' [] = .ok ⟨.label, ['B'], 0⟩ := by
    simp [Pattern.lexeme, Pattern.bracketForm?]
  have hlexeme : Pattern.lexeme '<' ['²', ' ', 'B'] = .ok ⟨.numbered true "²", ['<', '²'], 1⟩ := by
    simp [Pattern.lexeme, Pattern.bracketForm?, Pattern.childNumber?, htwo, hspace]
  rw [Pattern.tokens, show "A <² B".toList = ['A', ' ', '<', '²', ' ', 'B'] from rfl]
  simp only [Pattern.scanFrom, hA, hless, hB, hblank, hlexeme, hlexemeA, hlexemeB,
    Bool.false_eq_true, if_false, if_true, List.drop_zero, List.drop_succ_cons]
  rfl

/-- A superscript is taken for a child number, and then cannot be read as one. -/
theorem superscript_child_number : Pattern.RegexesPlaced "A <² B" ∧
    Pattern.read "A <² B" = .error (.badNumber (.noNumber "²")) := by
  constructor
  · intro ts hts
    rw [tokens_superscript] at hts
    cases hts
    simp [superscriptTokens]
  · have hread : Text.readInt "²".toList = .error (.noNumber "²") := by decide +kernel
    rw [Pattern.read, tokens_superscript, ok_bind, superscriptTokens,
      Pattern.Grammar.readTokens_of_bad_number _ rfl rfl hread]

end Treebank
