import Mathlib.Data.List.Find
import Treebank.Proofs.Pattern.Proper

/-!
# Words of written patterns

How a text is split shows in the text from a place on: a word is taken off it, and the words after it
are those of the rest. Labels, names and numbers end where the next word begins, or at a blank.
-/

namespace Treebank.Pattern

open Text
open Grammar (IsShort)

/-- What is read of a token: its form, its text, and whether it is a bar without blanks beside it. -/
structure Word where
  form : Form
  text : String
  joins : Bool
deriving Repr, DecidableEq

def Token.word (t : Token) : Word :=
  ⟨t.form, t.text, t.form == .pipe && !t.spacedBefore && !t.spacedAfter⟩

/-- A word other than a bar between conditions. -/
def Word.plain (form : Form) (text : String) : Word := ⟨form, text, false⟩

/-- The bar between two conditions. -/
def Word.joiner : Word := ⟨.pipe, "|", true⟩

/-- From any place on, after a blank or not, the text is split into tokens that are these words. No
child number has too many digits. -/
def Scans (spaced : Bool) (cs : List Char) (ws : List Word) : Prop :=
  ∀ offset, ∃ ts, scanFrom offset spaced cs = .ok ts ∧ (markSpaces ts).map Token.word = ws ∧
    ∀ t ∈ markSpaces ts, IsShort t

variable {spaced : Bool} {c d : Char} {more cs : List Char} {ws : List Word}

theorem scans_nil : Scans spaced [] [] := fun _ => ⟨[], by rw [scanFrom], rfl, nofun⟩

theorem scans_blank (hc : isBlank c = true) (h : Scans true cs ws) : Scans spaced (c :: cs) ws := by
  intro offset
  obtain ⟨ts, hts, hws, hshort⟩ := h (offset + 1)
  exact ⟨ts, by rw [scanFrom, if_pos hc, hts], hws, hshort⟩

theorem scanFrom_lexeme (hc : isBlank c = false) {l : Lexeme} (offset : Nat)
    (hlexeme : lexeme c (more ++ cs) = .ok l) (hfurther : l.further = more.length) :
    scanFrom offset spaced (c :: (more ++ cs)) =
      (⟨l.form, String.ofList l.text, offset, spaced, false⟩ :: ·)
        <$> scanFrom (offset + 1 + more.length) false cs := by
  rw [scanFrom, if_neg (ne_true_of_eq_false hc), hlexeme]
  simp only [hfurther, List.drop_left]

theorem scans_lexeme {form : Form} {s : String} (hc : isBlank c = false)
    (hlexeme : lexeme c (more ++ cs) = .ok ⟨form, s.toList, more.length⟩)
    (hshort : ∀ down digits, form = .numbered down digits →
      digits.toList.countP isDecimal ≤ digitLimit)
    (hbar : form = .pipe → spaced = true) (h : Scans false cs ws) :
    Scans spaced (c :: (more ++ cs)) (.plain form s :: ws) := by
  intro offset
  obtain ⟨ts, hts, rfl, hts'⟩ := h (offset + 1 + more.length)
  refine ⟨⟨form, s, offset, spaced, false⟩ :: ts, ?_, ?_, List.forall_mem_cons.mpr ⟨hshort, hts'⟩⟩
  · rw [scanFrom_lexeme hc offset hlexeme rfl, hts, String.ofList_toList]
    rfl
  · have hjoins : (form == .pipe && !spaced) = false := by
      cases hform : form == .pipe
      · rfl
      · rw [hbar (eq_of_beq hform)]
        rfl
    rw [markSpaces, List.map_cons, Token.word, hjoins]
    rfl

/-- The first token of a text that begins with no blank. -/
theorem exists_first_token (hd : isBlank d = false) {offset : Nat} {ts : List Token}
    (h : scanFrom offset false (d :: cs) = .ok ts) :
    ∃ t us, ts = t :: us ∧ t.offset = offset ∧ t.spacedBefore = false := by
  rw [scanFrom, if_neg (ne_true_of_eq_false hd)] at h
  split at h
  · cases h
  · obtain ⟨us, _, rfl⟩ := exists_of_map_eq_ok h
    exact ⟨_, us, rfl, rfl, rfl⟩

theorem scans_joiner (hd : isBlank d = false) (h : Scans false (d :: cs) ws) :
    Scans false ('|' :: d :: cs) (.joiner :: ws) := by
  intro offset
  obtain ⟨ts, hts, rfl, hshort⟩ := h (offset + 1)
  obtain ⟨t, us, rfl, hoffset, hspaced⟩ := exists_first_token hd hts
  refine ⟨⟨.pipe, "|", offset, false, false⟩ :: t :: us, ?_, ?_,
    List.forall_mem_cons.mpr ⟨nofun, hshort⟩⟩
  · have hbar : isBlank '|' = false := rfl
    have hscan : scanFrom offset false ('|' :: ([] ++ d :: cs)) = _ :=
      scanFrom_lexeme hbar offset rfl rfl
    exact hscan.trans (congrArg _ hts)
  · have hapart : standsApart ⟨.pipe, "|", offset, false, false⟩ (t :: us) = false := by
      simp [standsApart, hoffset, hspaced]
    rw [markSpaces, hapart]
    rfl

/-! ## Where labels, names and numbers end -/

/-- The text is at its end or goes on with a blank, a bracket, a bar or an equals sign. -/
def Ends (cs : List Char) : Prop := ∀ c, cs.head? = some c → c ∈ [' ', ')', ']', '=', '|']

theorem ends_nil : Ends [] := nofun

theorem ends_cons (h : c ∈ [' ', ')', ']', '=', '|']) : Ends (c :: cs) := by
  rintro _ ⟨⟩
  exact h

theorem takeWhile_stop {test : Char → Bool} (hc : test c = false) (cs : List Char) :
    (c :: cs).takeWhile test = [] := List.takeWhile_cons_of_neg (ne_true_of_eq_false hc)

theorem takeWhile_of_ends {test : Char → Bool} (hmore : ∀ c ∈ more, test c = true)
    (htest : [' ', ')', ']', '=', '|'].all (!test ·) = true) (hcs : Ends cs) :
    (more ++ cs).takeWhile test = more := by
  rw [List.takeWhile_append_of_pos hmore]
  cases cs with
  | nil => exact List.append_nil _
  | cons c cs =>
      have hc : (!test c) = true := List.all_eq_true.mp htest c (hcs c rfl)
      rw [takeWhile_stop (by simpa using hc)]
      exact List.append_nil _

theorem bracketForm?_eq_some {form : Form} (h : bracketForm? c = some form) :
    isBlank c = false ∧ ∀ down digits, form ≠ .numbered down digits := by
  unfold bracketForm? at h
  split at h <;> cases h <;> exact ⟨rfl, by simp⟩

theorem scans_char {form : Form} {s : String} (hform : bracketForm? c = some form)
    (hs : s.toList = [c]) (hbar : form = .pipe → spaced = true) (h : Scans false cs ws) :
    Scans spaced (c :: cs) (.plain form s :: ws) := by
  obtain ⟨hblank, hnumber⟩ := bracketForm?_eq_some hform
  have hlexeme : lexeme c ([] ++ cs) = .ok ⟨form, s.toList, ([] : List Char).length⟩ := by
    rw [lexeme, hform, hs]
    rfl
  exact scans_lexeme hblank hlexeme (fun down digits h => absurd h (hnumber down digits)) hbar h

theorem scans_at (h : Scans false cs ws) : Scans spaced ('@' :: cs) (.plain .at "@" :: ws) := by
  have hlexeme : lexeme '@' ([] ++ cs) = .ok ⟨.at, "@".toList, ([] : List Char).length⟩ := rfl
  exact scans_lexeme rfl hlexeme (by simp) (by simp) h

theorem not_isWordChar : [' ', ')', ']', '=', '|'].all (!isWordChar ·) = true := by
  simp (disch := decide) only [List.all_cons, List.all_nil, isWordChar_of_ascii]
  decide

theorem scans_name {s : String} (hs : IsName s) (hcs : Ends cs) (h : Scans false cs ws) :
    Scans spaced ('=' :: (s.toList ++ cs)) (.plain .name s :: ws) := by
  have htake : (s.toList ++ cs).takeWhile isWordChar = s.toList :=
    takeWhile_of_ends hs.2 not_isWordChar hcs
  have hne : s.toList ≠ [] := by simpa using hs.1
  have hhead : s.toList.head? ≠ some '=' := by
    intro hhead
    have hword := hs.2 _ (List.mem_of_mem_head? hhead)
    have hother := List.all_eq_true.mp not_isWordChar '=' (by simp)
    rw [hword] at hother
    cases hother
  refine scans_lexeme rfl ?_ (by simp) (by simp) h
  rw [lexeme]
  simp [bracketForm?, hhead, htake, hne]

theorem lexeme_label (hc : isReserved c = false) (cs : List Char) :
    lexeme c cs = .ok ⟨.label, c :: cs.takeWhile isBare, (cs.takeWhile isBare).length⟩ := by
  simp only [isReserved, String.reduceToList, List.contains_eq_mem, List.mem_cons,
    List.not_mem_nil, or_false, decide_eq_false_iff_not, not_or] at hc
  have hbracket : bracketForm? c = none := by
    unfold bracketForm?
    split <;> simp_all
  simp only [lexeme, hbracket, hc, beq_iff_eq, bne_iff_ne, Bool.and_eq_true, Bool.or_eq_true,
    false_and, or_false, if_false]
  rfl

theorem scans_label {s : String} (hs : IsLabel s) (hcs : Ends cs) (h : Scans false cs ws) :
    Scans spaced (s.toList ++ cs) (.plain .label s :: ws) := by
  obtain ⟨hne, hbare⟩ := hs
  cases hlist : s.toList with
  | nil => exact absurd (String.toList_eq_nil_iff.mp hlist) hne
  | cons c more =>
      rw [hlist, List.forall_mem_cons] at hbare
      obtain ⟨hc, hmore⟩ := hbare
      have htake : (more ++ cs).takeWhile isBare = more :=
        takeWhile_of_ends hmore rfl hcs
      simp only [isBare, Bool.and_eq_true, Bool.not_eq_true'] at hc
      refine scans_lexeme hc.1 ?_ (by simp) (by simp) h
      rw [lexeme_label hc.2, htake, hlist]

/-! ## Regular expressions -/

/-- What follows a backslash of the expression is no slash: its own slashes have one before them. -/
theorem head?_escapeSlashes {body : List Char} (hne : body ≠ []) :
    (LabelAtom.escapeSlashes body ++ '/' :: cs).head? ≠ some '/' := by
  cases body with
  | nil => exact absurd rfl hne
  | cons c body =>
      rw [LabelAtom.escapeSlashes, List.flatMap_cons]
      split
      · nofun
      · rename_i hslash
        simpa using hslash

theorem escapeSlashes_cons (c : Char) (body : List Char) :
    LabelAtom.escapeSlashes (c :: body) =
      (if c == '/' then ['\\', '/'] else [c]) ++ LabelAtom.escapeSlashes body := rfl

/-- The first character is read back if it is no backslash that the end of the expression protects. -/
theorem regexBody_escapeSlashes_cons {body : List Char} (h : c = '\\' → body ≠ [])
    (cs : List Char) :
    regexBody (LabelAtom.escapeSlashes (c :: body) ++ '/' :: cs) =
      (regexBody (LabelAtom.escapeSlashes body ++ '/' :: cs)).map fun (b, n) =>
        (c :: b, n + if c == '/' then 2 else 1) := by
  rw [escapeSlashes_cons]
  split
  · rename_i hslash
    rw [eq_of_beq hslash]
    rfl
  · rename_i hslash
    rw [List.singleton_append, List.cons_append, regexBody]
    · exact fun h => hslash (beq_iff_eq.mpr h)
    · rintro ds hc hds
      exact head?_escapeSlashes (h hc) (by rw [hds]; rfl)

theorem length_escapeSlashes_cons (c : Char) (body : List Char) :
    (LabelAtom.escapeSlashes (c :: body)).length =
      (LabelAtom.escapeSlashes body).length + if c == '/' then 2 else 1 := by
  rw [escapeSlashes_cons, List.length_append]
  split <;> exact Nat.add_comm ..

theorem regexBody_escapeSlashes {body : List Char} (hlast : body.getLast? ≠ some '\\') :
    regexBody (LabelAtom.escapeSlashes body ++ '/' :: cs) =
      some (body, (LabelAtom.escapeSlashes body).length + 1) := by
  induction body with
  | nil => rfl
  | cons c body ih =>
      have hrest : body.getLast? ≠ some '\\' := by
        cases body with
        | nil => nofun
        | cons d body => rwa [List.getLast?_cons_cons] at hlast
      have hescape : c = '\\' → body ≠ [] := by
        rintro rfl rfl
        exact hlast rfl
      rw [regexBody_escapeSlashes_cons hescape, ih hrest, length_escapeSlashes_cons,
        Nat.add_right_comm]
      rfl

/-- A backslash at the end of the expression takes the closing slash for itself. -/
theorem regexBody_escapeSlashes_of_backslash {body : List Char}
    (hlast : body.getLast? = some '\\') :
    regexBody (LabelAtom.escapeSlashes body ++ ['/']) = none := by
  induction body with
  | nil => cases hlast
  | cons c body ih =>
      cases body with
      | nil =>
          obtain rfl : c = '\\' := by simpa using hlast
          rfl
      | cons d body =>
          rw [List.getLast?_cons_cons] at hlast
          rw [regexBody_escapeSlashes_cons fun _ => List.cons_ne_nil d body, ih hlast]
          rfl

theorem scans_regex {source : String} (hlast : source.toList.getLast? ≠ some '\\')
    (h : Scans false cs ws) :
    Scans spaced ('/' :: (LabelAtom.escapeSlashes source.toList ++ '/' :: cs))
      (.plain .regex source :: ws) := by
  have hlexeme : lexeme '/' (LabelAtom.escapeSlashes source.toList ++ ['/'] ++ cs) =
      .ok ⟨.regex, source.toList, (LabelAtom.escapeSlashes source.toList ++ ['/']).length⟩ := by
    rw [List.append_assoc, List.singleton_append, List.length_append]
    simp [lexeme, bracketForm?, regexBody_escapeSlashes hlast]
  have hscans : Scans spaced _ _ := scans_lexeme rfl hlexeme (by simp) (by simp) h
  rwa [List.append_assoc, List.singleton_append] at hscans

/-! ## Relation signs -/

theorem isPrefixOf_append {l : List Char} (hd : d ∉ l) (more cs : List Char) :
    l.isPrefixOf (more ++ d :: cs) = l.isPrefixOf more := by
  induction l generalizing more with
  | nil => rfl
  | cons a l ih =>
      obtain ⟨ha, hl⟩ := List.ne_and_not_mem_of_not_mem_cons hd
      cases more with
      | nil => simp [List.isPrefixOf, Ne.symm ha]
      | cons b more => rw [List.cons_append, List.isPrefixOf, List.isPrefixOf, ih hl]

/-- No sign contains what comes after a sign. -/
theorem longestSign?_append (hd : d = ' ' ∨ d = '(') (more cs : List Char) :
    longestSign? (more ++ d :: cs) = longestSign? more := by
  have htable : (RelationSign.longestFirst.all fun e =>
      !e.1.toList.contains ' ' && !e.1.toList.contains '(') = true := by
    decide
  refine List.find?_congr fun e he => isPrefixOf_append ?_ more cs
  have hfree := List.all_eq_true.mp htable e he
  simp only [Bool.and_eq_true, Bool.not_eq_true', List.contains_eq_mem,
    decide_eq_false_iff_not] at hfree
  rcases hd with rfl | rfl
  · exact hfree.1
  · exact hfree.2

theorem not_isDigitChar (hd : d = ' ' ∨ d = '(') : isDigitChar d = false := by
  rcases hd with rfl | rfl
  · exact isDigitChar_of_ascii (by decide)
  · exact isDigitChar_of_ascii (by decide)

theorem childNumber?_eq_none (hd : d = ' ' ∨ d = '(') (hmore : ∀ c ∈ more, isDigitChar c = false)
    (cs : List Char) : childNumber? (more ++ d :: cs) = none := by
  have hne : d ≠ '-' := by
    rcases hd with rfl | rfl <;> decide
  have htake {more : List Char} (hmore : ∀ c ∈ more, isDigitChar c = false) :
      (more ++ d :: cs).takeWhile isDigitChar = [] := by
    cases more with
    | nil => exact takeWhile_stop (not_isDigitChar hd) cs
    | cons c more => exact takeWhile_stop (hmore c (.head _)) _
  unfold childNumber?
  split
  · rename_i ds hds
    cases more with
    | nil => exact absurd (List.cons.inj hds).1 hne
    | cons c more =>
        obtain ⟨_, rfl⟩ := List.cons.inj hds
        simp [htake (List.forall_mem_cons.mp hmore).2]
  · rw [htake hmore]
    rfl

/-- What is the case for every sign: it begins like one, has no digits, and is the longest one in
itself. -/
def isSign (s : String) (sign : RelationSign) : Bool :=
  match s.toList with
  | [] => false
  | c :: more =>
    !isBlank c && (bracketForm? c).isNone
      && (c == '<' || c == '>' || c == '$' || c == '.' || c == ',' || c == '=')
      && !(c == '=' && more.head? != some '=')
      && more.all (!isDigitChar ·)
      && longestSign? (c :: more) == some (s, sign)

theorem isSign_of_mem {s : String} {sign : RelationSign} (h : (s, sign) ∈ RelationSign.all) :
    isSign s sign = true := by
  have htable : (RelationSign.all.all fun e => isSign e.1 e.2) = true := by decide +kernel
  exact List.all_eq_true.mp htable _ h

theorem scans_sign {s : String} {sign : RelationSign} (hs : (s, sign) ∈ RelationSign.all)
    (hd : d = ' ' ∨ d = '(') (h : Scans false (d :: cs) ws) :
    Scans spaced (s.toList ++ d :: cs) (.plain (.sign sign) s :: ws) := by
  have hsign := isSign_of_mem hs
  unfold isSign at hsign
  split at hsign
  · cases hsign
  · rename_i c more hlist
    simp only [Bool.and_eq_true, Bool.not_eq_true', beq_iff_eq, List.all_eq_true] at hsign
    obtain ⟨⟨⟨⟨⟨hblank, hbracket⟩, hfirst⟩, hequals⟩, hdigits⟩, hlongest⟩ := hsign
    rw [hlist]
    refine scans_lexeme hblank ?_ (by simp) (by simp) h
    have hnumber := childNumber?_eq_none hd hdigits cs
    have hsign := longestSign?_append hd (c :: more) cs
    rw [hlongest] at hsign
    have hlength : s.length = more.length + 1 := by
      rw [← String.length_toList, hlist, List.length_cons]
    have hname : (c == '=' && (more ++ d :: cs).head? != some '=') = false := by
      cases more with
      | nil => simp_all
      | cons => exact hequals
    have hnone : (if c == '<' || c == '>' then childNumber? (more ++ d :: cs) else none) = none := by
      rw [hnumber, ite_self]
    simp only [lexeme, Option.isNone_iff_eq_none.mp hbracket, hname, hfirst, hnone,
      Bool.false_eq_true, if_false, if_true]
    rw [← List.cons_append, hsign]
    simp only [hlength, Nat.add_sub_cancel]

/-! ## Child numbers -/

theorem toList_toString_of_nonneg (n : Nat) :
    (toString (Int.ofNat n)).toList = Nat.toDigits 10 n :=
  Nat.toList_repr

theorem toList_toString_of_neg (n : Nat) :
    (toString (Int.negSucc n)).toList = '-' :: Nat.toDigits 10 (n + 1) := by
  have hrepr : toString (Int.negSucc n) = "-" ++ (n + 1).repr := rfl
  rw [hrepr, String.toList_append, Nat.toList_repr]
  rfl

theorem isDigit_of_mem_toDigits (n : Nat) : ∀ c ∈ Nat.toDigits 10 n, c.isDigit = true :=
  fun _ => Nat.isDigit_of_mem_toDigits (by decide) (by decide)

theorem exists_toDigits (n : Nat) : ∃ c ds, Nat.toDigits 10 n = c :: ds ∧ c ≠ '-' := by
  cases hdigits : Nat.toDigits 10 n with
  | nil => exact absurd hdigits Nat.toDigits_ne_nil
  | cons c ds =>
      refine ⟨c, ds, rfl, ?_⟩
      rintro rfl
      have hdigit := isDigit_of_mem_toDigits n '-' (hdigits ▸ .head _)
      revert hdigit
      decide

theorem takeWhile_toDigits (n : Nat) (cs : List Char) :
    (Nat.toDigits 10 n ++ ' ' :: cs).takeWhile isDigitChar = Nat.toDigits 10 n := by
  have hdigits : ∀ c ∈ Nat.toDigits 10 n, isDigitChar c = true := fun c hc =>
    isDigitChar_of_isDigit (isDigit_of_mem_toDigits n c hc)
  rw [List.takeWhile_append_of_pos hdigits,
    takeWhile_stop (not_isDigitChar (.inl rfl)), List.append_nil]

theorem childNumber?_toString (i : Int) (cs : List Char) :
    childNumber? ((toString i).toList ++ ' ' :: cs) = some (toString i).toList := by
  cases i with
  | ofNat n =>
      have htake := takeWhile_toDigits n cs
      obtain ⟨c, ds, hdigits, hc⟩ := exists_toDigits n
      rw [hdigits] at htake
      rw [toList_toString_of_nonneg, hdigits, childNumber?]
      · rw [htake]
        rfl
      · rintro ds' ⟨⟩
        exact hc rfl
  | negSucc n =>
      rw [toList_toString_of_neg, List.cons_append, childNumber?, takeWhile_toDigits]
      simp

theorem countP_toString {i : Int} (h : i.natAbs < 10 ^ digitLimit) :
    (toString i).toList.countP isDecimal ≤ digitLimit := by
  have hlength {n : Nat} (hn : n < 10 ^ digitLimit) : (Nat.toDigits 10 n).length ≤ digitLimit :=
    (Nat.length_toDigits_le_iff (by decide) (by decide)).mpr hn
  cases i with
  | ofNat n =>
      rw [toList_toString_of_nonneg]
      exact Nat.le_trans List.countP_le_length (hlength h)
  | negSucc n =>
      rw [toList_toString_of_neg, List.countP_cons_of_neg Bool.false_ne_true]
      exact Nat.le_trans List.countP_le_length (hlength h)

theorem scans_number (down : Bool) {i : Int} (hi : i.natAbs < 10 ^ digitLimit)
    (h : Scans false (' ' :: cs) ws) :
    Scans spaced ((if down then '<' else '>') :: ((toString i).toList ++ ' ' :: cs))
      (.plain (.numbered down (toString i))
        (String.ofList ((if down then '<' else '>') :: (toString i).toList)) :: ws) := by
  have hnumber := childNumber?_toString i cs
  have hcount := countP_toString hi
  generalize toString i = digits at hnumber hcount ⊢
  refine scans_lexeme (by cases down <;> rfl) ?_ ?_ (by simp) h
  · rw [lexeme, String.toList_ofList]
    cases down <;> simp [bracketForm?, hnumber]
  · rintro _ _ ⟨⟩
    exact hcount

end Treebank.Pattern
