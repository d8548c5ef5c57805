import Treebank.Proofs.Pattern.RoundTrip
import Treebank.Proofs.Statement.Slashes

/-!
# Reading written statements

A statement that has been read is written as its keyword and further words. Written again, names, places
and literal trees are the words that they were read from, or short forms of these. Labels stand without
quotes and substitutions without backslashes before their slashes, so not all of them are read again as
what they are.
-/

namespace Treebank

open Text
open Pattern (IsName)

/-! ## Literal trees -/

namespace Template

variable {statement : String} {allowFoot : Bool}

theorem readLabel_congr {path : List Nat} {isLeaf : Bool} {label : String}
    {told : String × List (String × List Nat) × List (List Nat)}
    (h : readLabel statement allowFoot path isLeaf label = .ok told) (other : String) :
    readLabel other allowFoot path isLeaf label = .ok told := by
  simp only [readLabel] at h ⊢
  split at h
  · cases h
  · rename_i hallowed
    rw [if_neg hallowed]
    split at h
    · cases h
    · rename_i hleaf
      rw [if_neg hleaf]
      exact h

mutual
theorem readMarks_congr : (t : Tree) → {path : List Nat} → {marks : Marks} →
    readMarks statement allowFoot path t = .ok marks → (other : String) →
    readMarks other allowFoot path t = .ok marks
  | .node l cs, path, marks, h, other => by
      rw [readMarks] at h ⊢
      obtain ⟨told, htold, h⟩ := exists_of_bind_eq_ok h
      obtain ⟨below, hbelow, h⟩ := exists_of_bind_eq_ok h
      rw [readLabel_congr htold other, ok_bind, readAllMarks_congr cs hbelow other]
      exact h
theorem readAllMarks_congr : (ts : List Tree) → {path : List Nat} → {i : Nat} → {marks : Marks} →
    readAllMarks statement allowFoot path i ts = .ok marks → (other : String) →
    readAllMarks other allowFoot path i ts = .ok marks
  | [], _, _, _, h, other => by
      rw [readAllMarks] at h ⊢
      exact h
  | t :: ts, path, i, marks, h, other => by
      rw [readAllMarks] at h ⊢
      obtain ⟨first, hfirst, h⟩ := exists_of_bind_eq_ok h
      obtain ⟨others, hothers, h⟩ := exists_of_bind_eq_ok h
      rw [readMarks_congr t hfirst other, ok_bind, readAllMarks_congr ts hothers other]
      exact h
end

/-- A literal tree keeps its text, and is the same in every statement. -/
theorem read_congr {text : String} {t : Template} (h : read text statement allowFoot = .ok t) :
    t.text = text ∧ ∀ other, read text other allowFoot = .ok t := by
  simp only [read] at h ⊢
  split at h
  · cases h
  · rename_i u hread
    obtain ⟨marks, hmarks, h⟩ := exists_of_bind_eq_ok h
    split at h
    · cases h
    · rename_i hfeet
      cases h
      refine ⟨rfl, fun other => ?_⟩
      rw [readMarks_congr u hmarks other, ok_bind, if_neg hfeet]
      rfl
  · cases h

end Template

/-! ## Words -/

/-- The word for the kind of place. -/
def Place.relation : Place → String
  | .leftOf _ => "$+"
  | .rightOf _ => "$-"
  | .childOf _ i => ">" ++ toString i

theorem Place.text_eq (place : Place) : place.text = place.relation ++ " " ++ place.target := by
  cases place <;> simp [text, relation, target]

/-- The word for the new label. -/
def Relabeling.word : Relabeling → String
  | .literal label => label
  | .substitution r replacement =>
    String.ofList (Statement.inSlashes r.source.toList replacement.toList)

/-- What stands for the change of a label, as it is written, is one word that says the same: a label
that is not empty, has no blanks in it and does not begin like a word with an end mark of its own, or
a substitution without slashes in its parts. -/
def Relabeling.Bare : Relabeling → Prop
  | .literal label =>
    label ≠ "" ∧ (∀ c ∈ label.toList, isBlank c = false) ∧
      ∀ c, label.toList.head? = some c → c ∉ ['(', '"', '/']
  | .substitution r replacement => '/' ∉ r.source.toList ∧ '/' ∉ replacement.toList

namespace Statement

/-- The statement says the same as it is written: only changes of labels can fail to. -/
def Bare : Statement → Prop
  | relabel _ change => change.Bare
  | _ => True

def keyword : Statement → String
  | delete _ => "delete"
  | prune _ => "prune"
  | excise .. => "excise"
  | relabel .. => "relabel"
  | insert .. => "insert"
  | move .. => "move"
  | replace .. => "replace"
  | adjoin .. => "adjoin"
  | coindex _ => "coindex"

/-- The words after the keyword. -/
def args : Statement → List String
  | delete names => names
  | prune names => names
  | excise outer inner => [outer, inner]
  | relabel name change => [name, change.word]
  | insert source place => [source.text, place.relation, place.target]
  | move name place => [name, place.relation, place.target]
  | replace target source => [target, source.text]
  | adjoin aux name => [aux.shown, name]
  | coindex names => names

theorem text_relabel (name : String) (change : Relabeling) :
    (relabel name change).text = "relabel " ++ name ++ " " ++ change.word := by
  cases change with
  | literal => rfl
  | substitution r replacement =>
      have hword : (Relabeling.substitution r replacement).word =
          "/" ++ r.source ++ "/" ++ replacement ++ "/" := by
        simp [Relabeling.word, inSlashes, ← String.toList_inj]
      have hblank : " /" = " " ++ "/" := rfl
      simp only [text, hword, hblank, String.append_assoc]

theorem text_eq (st : Statement) (h : st.args ≠ []) :
    st.text = String.intercalate " " (st.keyword :: st.args) := by
  -- the blank after the keyword is the first of those between the words
  have hexcise : "excise " = "excise" ++ " " := rfl
  have hrelabel : "relabel " = "relabel" ++ " " := rfl
  have hinsert : "insert " = "insert" ++ " " := rfl
  have hmove : "move " = "move" ++ " " := rfl
  have hreplace : "replace " = "replace" ++ " " := rfl
  have hadjoin : "adjoin " = "adjoin" ++ " " := rfl
  rw [String.intercalate_cons_of_ne_nil h]
  cases st with
  | delete | prune | coindex => rfl
  | relabel =>
      simp only [text_relabel, args, keyword, hrelabel, String.intercalate_cons_cons,
        String.intercalate_singleton, String.append_assoc]
  | excise | insert | move | replace | adjoin =>
      simp only [text, args, keyword, Place.text_eq, hexcise, hinsert, hmove, hreplace, hadjoin,
        String.intercalate_cons_cons, String.intercalate_singleton, String.append_assoc]

/-! ## Words that say the same -/

variable {statement token : String}

theorem eq_of_mapM_readName {tokens names : List String}
    (h : tokens.mapM (readName statement) = .ok names) : tokens = names ∧ ∀ n ∈ names, IsName n := by
  induction tokens generalizing names with
  | nil =>
      cases h
      exact ⟨rfl, List.forall_mem_nil _⟩
  | cons token tokens ih =>
      rw [List.mapM_cons] at h
      obtain ⟨name, hname, h⟩ := exists_of_bind_eq_ok h
      obtain ⟨names, hnames, h⟩ := exists_of_bind_eq_ok h
      cases h
      obtain ⟨rfl, hname⟩ := eq_of_readName hname
      obtain ⟨rfl, hnames⟩ := ih hnames
      exact ⟨rfl, List.forall_mem_cons.mpr ⟨hname, hnames⟩⟩

theorem mapM_readName {names : List String} (h : ∀ n ∈ names, IsName n) (statement : String) :
    names.mapM (readName statement) = .ok names := by
  induction names with
  | nil => rfl
  | cons name names ih =>
      obtain ⟨hname, hnames⟩ := List.forall_mem_cons.mp h
      rw [List.mapM_cons, readName_of_isName hname, ok_bind, ih hnames]
      rfl

theorem eq_of_readNames {keyword : String} {tokens names : List String}
    (h : readNames statement keyword tokens = .ok names) : names ≠ [] ∧ ∀ n ∈ names, IsName n := by
  rw [readNames] at h
  split at h
  · cases h
  · rename_i hne
    obtain ⟨rfl, hnames⟩ := eq_of_mapM_readName h
    exact ⟨fun hnil => hne (List.isEmpty_iff.mpr hnil), hnames⟩

theorem readNames_of_isName {names : List String} (hne : names ≠ []) (h : ∀ n ∈ names, IsName n)
    (statement keyword : String) : readNames statement keyword names = .ok names := by
  rw [readNames, if_neg (by simpa using hne), mapM_readName h]

theorem shown_of_text {t : Template} (h : t.text ≠ "") : t.shown = t.text := by
  rw [Template.shown, if_neg (by simpa using h)]

/-- A name or a literal tree is written as it was read. -/
theorem readSource_congr {source : Source} (h : readSource statement token = .ok source) :
    source.text = token ∧ ∀ other, readSource other token = .ok source := by
  rw [readSource] at h
  split at h
  · rename_i cs hlist
    obtain ⟨t, ht, rfl⟩ := exists_of_map_eq_ok h
    obtain ⟨htext, hother⟩ := Template.read_congr ht
    have hne : t.text ≠ "" := by
      rintro hempty
      rw [← htext, hempty] at hlist
      cases hlist
    refine ⟨(shown_of_text hne).trans htext, fun other => ?_⟩
    rw [readSource, hlist]
    exact congrArg (Source.template <$> ·) (hother other)
  · rename_i hbracket
    obtain ⟨name, hname, rfl⟩ := exists_of_map_eq_ok h
    obtain ⟨rfl, hname⟩ := eq_of_readName hname
    refine ⟨rfl, fun other => ?_⟩
    rw [readSource]
    split
    · rename_i cs hlist
      exact absurd hlist (hbracket cs)
    · rw [readName_of_isName hname]
      rfl

theorem isDigit_of_mem_toString (i : Int) :
    ∀ c ∈ (toString i).toList, c = '-' ∨ c.isDigit = true := by
  cases i with
  | ofNat n =>
      rw [Pattern.toList_toString_of_nonneg]
      exact fun c hc => .inr (Pattern.isDigit_of_mem_toDigits n c hc)
  | negSucc n =>
      rw [Pattern.toList_toString_of_neg, List.forall_mem_cons]
      exact ⟨.inl rfl, fun c hc => .inr (Pattern.isDigit_of_mem_toDigits (n + 1) c hc)⟩

theorem isWord_childPlace (i : Int) : IsWord ('>' :: (toString i).toList) := by
  refine isWord_of_bare (by decide) (List.forall_mem_cons.mpr ⟨rfl, fun c hc => ?_⟩)
  rcases isDigit_of_mem_toString i c hc with rfl | hdigit
  · rfl
  · exact isBlank_of_isDigitChar (isDigitChar_of_isDigit hdigit)

theorem isChildNumber_toString (i : Int) : isChildNumber (toString i).toList = true := by
  have hdigits (n : Nat) : (Nat.toDigits 10 n).all isDecimal = true :=
    List.all_eq_true.mpr fun c hc => isDecimal_of_isDigit (Pattern.isDigit_of_mem_toDigits n c hc)
  cases i with
  | ofNat n =>
      obtain ⟨c, ds, hlist, hc⟩ := Pattern.exists_toDigits n
      have hall := hdigits n
      rw [hlist] at hall
      rw [Pattern.toList_toString_of_nonneg, hlist, isChildNumber]
      simp [hc, hall]
  | negSucc n =>
      obtain ⟨c, ds, hlist, -⟩ := Pattern.exists_toDigits (n + 1)
      have hall := hdigits (n + 1)
      rw [hlist] at hall
      rw [Pattern.toList_toString_of_neg, hlist, isChildNumber]
      simp [hall]

/-- A number that has been read is not too long to be read again. -/
theorem readInt_toString {ds : List Char} {i : Int} (h : readInt ds = .ok i) :
    readInt (toString i).toList = .ok i := by
  have hlt := Pattern.Grammar.lt_of_childIndex? (Pattern.Grammar.childIndex?_of_readInt h)
    (Pattern.Grammar.countP_le_of_readInt h)
  exact Pattern.Grammar.readInt_of_childIndex? (Pattern.childIndex?_toString i)
    (Pattern.countP_toString hlt)

theorem readPlace_child (other target : String) (i : Int) :
    readPlace other (">" ++ toString i) target = (do
      let j ← (readInt (toString i).toList).mapError .badNumber
      if j == 0 then throw (.malformed .placeZero other)
      return .childOf (← readName other target) j) := by
  have hlist : (">" ++ toString i).toList = '>' :: (toString i).toList := by simp
  rw [readPlace, hlist]
  simp only [isChildNumber_toString, Bool.not_true, Bool.false_eq_true, if_false]

theorem isWord_dollar {c : Char} (hc : isBlank c = false) : IsWord ['$', c] :=
  isWord_of_bare (by decide) (List.forall_mem_cons.mpr ⟨rfl, List.forall_mem_singleton.mpr hc⟩)

theorem readPlace_sister {sign target : String} {place : Place} {make : String → Place}
    (hsign : IsWord sign.toList) (hmake : ∀ n, (make n).relation = sign ∧ (make n).target = n)
    (hread : ∀ other n, readPlace other sign n = make <$> readName other n)
    (h : make <$> readName statement target = .ok place) :
    IsWord place.relation.toList ∧ IsName place.target ∧
      ∀ other, readPlace other place.relation place.target = .ok place := by
  obtain ⟨name, hname, rfl⟩ := exists_of_map_eq_ok h
  obtain ⟨-, hname⟩ := eq_of_readName hname
  obtain ⟨hrelation, htarget⟩ := hmake name
  rw [hrelation, htarget]
  refine ⟨hsign, hname, fun other => ?_⟩
  rw [hread, readName_of_isName hname]
  rfl

/-- A place is written with the shortest form of its number. -/
theorem readPlace_relation {target : String} {place : Place}
    (h : readPlace statement token target = .ok place) :
    IsWord place.relation.toList ∧ IsName place.target ∧
      ∀ other, readPlace other place.relation place.target = .ok place := by
  rw [readPlace] at h
  split at h
  · have hsign : IsWord "$+".toList := by
      simp only [String.reduceToList]
      exact isWord_dollar rfl
    exact readPlace_sister hsign (fun _ => ⟨rfl, rfl⟩) (fun _ _ => rfl) h
  · have hsign : IsWord "$-".toList := by
      simp only [String.reduceToList]
      exact isWord_dollar rfl
    exact readPlace_sister hsign (fun _ => ⟨rfl, rfl⟩) (fun _ _ => rfl) h
  · split at h
    · cases h
    · obtain ⟨i, hi, h⟩ := exists_of_bind_eq_ok h
      split at h
      · cases h
      · rename_i hzero
        obtain ⟨name, hname, h⟩ := exists_of_bind_eq_ok h
        cases h
        obtain ⟨-, hname⟩ := eq_of_readName hname
        refine ⟨?_, hname, fun other => ?_⟩
        · have hlist : (">" ++ toString i).toList = '>' :: (toString i).toList := by simp
          rw [Place.relation, hlist]
          exact isWord_childPlace i
        · rw [Place.relation, Place.target, readPlace_child,
            readInt_toString (eq_ok_of_mapError hi)]
          simp only [Except.mapError, ok_bind, if_neg hzero, readName_of_isName hname]
          rfl
  · cases h

/-! ## Changes of labels -/

theorem length_unprotect_le (cs : List Char) : (unprotect cs).length ≤ cs.length := by
  fun_induction unprotect cs with
  | case1 | case2 => exact Nat.le_refl _
  | case3 cs ih => exact Nat.add_le_add_right ih 2
  | case4 c cs _ ih => exact Nat.succ_le_succ (Nat.le_succ_of_le ih)
  | case5 c cs _ _ _ ih => exact Nat.succ_le_succ ih

theorem length_unquote_lt (c : Char) (cs : List Char) :
    (unquote (c :: cs)).length < (c :: cs).length := by
  have hlength := length_unprotect_le ((c :: cs).drop 1).dropLast
  rw [List.length_dropLast] at hlength
  rw [unquote, List.length_cons]
  exact Nat.lt_succ_of_le (hlength.trans (Nat.sub_le ..))

/-- A label that is one word and says itself is bare: what is within quotes is shorter than the label
that has the quotes in it. -/
theorem bare_of_scan_literal {label other : String} {w : List Char}
    (hscan : scan label.toList = .ok [w])
    (hread : readRelabeling other (String.ofList w) = .ok (.literal label)) :
    (Relabeling.literal label).Bare := by
  have hword := isWord_of_scan hscan w (.head _)
  obtain ⟨front, back, hpiece⟩ := exists_of_scan_singleton hscan
  rw [readRelabeling, String.toList_ofList] at hread
  split at hread
  · obtain ⟨_, _, hsubstitution⟩ := exists_isSubstitution hread
    cases hsubstitution.change_eq
  · rename_i cs
    have hlabel : unquote ('"' :: cs) = label.toList := by
      rw [← Relabeling.literal.inj (Except.ok.inj hread), String.toList_ofList]
    have hlength := length_unquote_lt '"' cs
    rw [hlabel, hpiece, List.length_append, List.length_append] at hlength
    omega
  · cases hread
  · rename_i hslash hquote hbracket
    have hlabel : label.toList = w := by
      rw [← Relabeling.literal.inj (Except.ok.inj hread), String.toList_ofList]
    obtain ⟨c, cs, rfl, _⟩ := id hword
    have hc : c ∉ ['(', '"', '/'] := by
      simp only [List.mem_cons, List.not_mem_nil, or_false, not_or]
      exact ⟨fun h => hbracket cs (by rw [h]), fun h => hquote cs (by rw [h]),
        fun h => hslash cs (by rw [h])⟩
    rw [Relabeling.Bare, hlabel]
    refine ⟨?_, hword.not_blank hc, ?_⟩
    · rintro rfl
      cases hlabel
    · rintro _ ⟨⟩
      exact hc

theorem readRelabeling_of_bare {label : String} {c : Char} {cs : List Char}
    (hlabel : label.toList = c :: cs) (hc : c ∉ ['(', '"', '/']) (other : String) :
    readRelabeling other label = .ok (.literal label) := by
  simp only [List.mem_cons, List.not_mem_nil, or_false, not_or] at hc
  obtain ⟨hbracket, hquote, hslash⟩ := hc
  rw [readRelabeling, hlabel]
  split
  · rename_i heq
    exact absurd (List.cons.inj heq).1 hslash
  · rename_i heq
    exact absurd (List.cons.inj heq).1 hquote
  · rename_i heq
    exact absurd (List.cons.inj heq).1 hbracket
  · rfl

/-- A label as it stands is one word that says this label just if it is bare. -/
theorem scan_literal_iff (label other : String) :
    (∃ w, scan label.toList = .ok [w] ∧
      readRelabeling other (String.ofList w) = .ok (.literal label)) ↔
      (Relabeling.literal label).Bare := by
  constructor
  · rintro ⟨w, hscan, hread⟩
    exact bare_of_scan_literal hscan hread
  · rintro ⟨hne, hblank, hhead⟩
    cases hlist : label.toList with
    | nil => exact absurd (String.toList_eq_nil_iff.mp hlist) hne
    | cons c cs =>
        rw [hlist] at hblank hhead
        have hc := hhead c rfl
        have hlabel : String.ofList (c :: cs) = label := by rw [← hlist, String.ofList_toList]
        refine ⟨c :: cs, scan_of_isWord (isWord_of_bare hc hblank), ?_⟩
        rw [hlabel]
        exact readRelabeling_of_bare hlist hc other

/-- A substitution as it is written is one word that says the same just if it is bare. -/
theorem scan_substitution_iff {change : Relabeling} {r : Regex} {replacement : String}
    (h : IsSubstitution change r replacement) (other : String) :
    (∃ w, scan change.word.toList = .ok [w] ∧
      readRelabeling other (String.ofList w) = .ok change) ↔ change.Bare := by
  obtain rfl := h.change_eq
  rw [Relabeling.word, String.toList_ofList]
  constructor
  · rintro ⟨w, hscan, -⟩
    exact h.not_mem_of_scan hscan
  · rintro ⟨hsource, hreplacement⟩
    have hread := h.read hsource hreplacement other
    refine ⟨_, scan_of_isWord (h.isWord hsource hreplacement), ?_⟩
    rw [readRelabeling, String.toList_ofList]
    exact hread

/-- The change of a label, as it is written, is one word that says the same just if it is bare. -/
theorem scan_word_iff {change : Relabeling} (h : readRelabeling statement token = .ok change)
    (other : String) :
    (∃ w, scan change.word.toList = .ok [w] ∧
      readRelabeling other (String.ofList w) = .ok change) ↔ change.Bare := by
  rw [readRelabeling] at h
  split at h
  · obtain ⟨r, replacement, hsubstitution⟩ := exists_isSubstitution h
    exact scan_substitution_iff hsubstitution other
  · cases h
    exact scan_literal_iff _ other
  · cases h
  · cases h
    exact scan_literal_iff _ other

/-! ## Whole statements -/

/-- The statement is read from its keyword and its further words, which are words of a text. -/
structure Written (st : Statement) : Prop where
  args_ne_nil : st.args ≠ []
  isWord : ∀ w ∈ st.args, IsWord w.toList
  readWords : ∀ statement, readWords statement st.keyword st.args = .ok st

/-- Every keyword is a word in lower case. -/
theorem isName_keyword (st : Statement) :
    IsName st.keyword ∧ String.ofList (lower st.keyword.toList) = st.keyword := by
  let keywords := ["delete", "prune", "excise", "relabel", "insert", "move", "replace", "adjoin",
    "coindex"]
  have hall : keywords.all (fun k => !k.isEmpty &&
      (k.toList.all fun c => decide (c.toNat < 128) && isAsciiWordChar c) &&
      String.ofList (lower k.toList) == k) = true := by
    decide +kernel
  have hmem : st.keyword ∈ keywords := by
    cases st <;> simp only [keyword, keywords, List.mem_cons, true_or, or_true]
  have hkeyword := List.all_eq_true.mp hall _ hmem
  rw [Bool.and_eq_true, Bool.and_eq_true, beq_iff_eq] at hkeyword
  obtain ⟨⟨hne, hchars⟩, hlower⟩ := hkeyword
  exact ⟨⟨by simpa using hne, isWordChar_of_all_ascii hchars⟩, hlower⟩

theorem Written.read_text {st : Statement} (h : st.Written) : read st.text = .ok st := by
  have hwords : ∀ w ∈ (st.keyword :: st.args).map String.toList, IsWord w := by
    rw [List.forall_mem_map, List.forall_mem_cons]
    exact ⟨isWord_of_isName st.isName_keyword.1, h.isWord⟩
  have hscan : scan st.text.toList = .ok (st.keyword.toList :: st.args.map String.toList) := by
    rw [text_eq st h.args_ne_nil, String.toList_intercalate]
    exact scan_intercalate hwords
  have hargs : (st.args.map String.toList).map String.ofList = st.args := by
    rw [List.map_map]
    exact List.map_id'' (fun _ => String.ofList_toList) _
  rw [read_of_scan hscan, st.isName_keyword.2, hargs]
  exact h.readWords _

/-! Every statement other than the change of a label is read again from its keyword and words. -/

theorem written_of_names {keyword : String} {args names : List String}
    (h : readNames statement keyword args = .ok names) {make : List String → Statement}
    (hargs : (make names).args = names)
    (hread : ∀ other, readWords other (make names).keyword names =
      make <$> readNames other (make names).keyword names) : (make names).Written := by
  obtain ⟨hne, hnames⟩ := eq_of_readNames h
  refine ⟨by rwa [hargs], fun w hw => ?_, fun other => ?_⟩
  · rw [hargs] at hw
    exact isWord_of_isName (hnames w hw)
  · rw [hargs, hread, readNames_of_isName hne hnames]
    rfl

/-- A change of a label that has been read, or another statement, which is read again. -/
def Told (statement : String) (st : Statement) : Prop :=
  (∃ name change token, st = relabel name change ∧ IsName name ∧
    readRelabeling statement token = .ok change) ∨ st.Bare ∧ st.Written

theorem told_relabel {name label : String} {st : Statement} (h : (do
    return relabel (← readName statement name) (← readRelabeling statement label)) = .ok st) :
    st.Told statement := by
  obtain ⟨name, hname, h⟩ := exists_of_bind_eq_ok h
  obtain ⟨change, hchange, h⟩ := exists_of_bind_eq_ok h
  cases h
  exact .inl ⟨name, change, label, rfl, (eq_of_readName hname).2, hchange⟩

theorem written_excise {outer inner : String} (houter : IsName outer) (hinner : IsName inner) :
    (excise outer inner).Written := by
  refine ⟨List.cons_ne_nil _ _, ?_, fun other => ?_⟩
  · simp only [args, List.forall_mem_cons]
    exact ⟨isWord_of_isName houter, isWord_of_isName hinner, List.forall_mem_nil _⟩
  · rw [keyword, args, readWords, readName_of_isName houter, readName_of_isName hinner]
    rfl

section
variable {source : Source} {place : Place} {relation target name : String}

theorem written_insert (hword : IsWord token.toList)
    (hsource : readSource statement token = .ok source)
    (hplace : readPlace statement relation target = .ok place) : (insert source place).Written := by
  obtain ⟨rfl, hsource⟩ := readSource_congr hsource
  obtain ⟨hrelation, htarget, hplace⟩ := readPlace_relation hplace
  refine ⟨List.cons_ne_nil _ _, ?_, fun other => ?_⟩
  · simp only [args, List.forall_mem_cons]
    exact ⟨hword, hrelation, isWord_of_isName htarget, List.forall_mem_nil _⟩
  · rw [keyword, args, readWords, hsource, hplace]
    rfl

theorem written_move (hname : IsName name) (hplace : readPlace statement relation target = .ok place) :
    (move name place).Written := by
  obtain ⟨hrelation, htarget, hplace⟩ := readPlace_relation hplace
  refine ⟨List.cons_ne_nil _ _, ?_, fun other => ?_⟩
  · simp only [args, List.forall_mem_cons]
    exact ⟨isWord_of_isName hname, hrelation, isWord_of_isName htarget, List.forall_mem_nil _⟩
  · rw [keyword, args, readWords, readName_of_isName hname, hplace]
    rfl

theorem written_replace (htarget : IsName target) (hword : IsWord token.toList)
    (hsource : readSource statement token = .ok source) : (replace target source).Written := by
  obtain ⟨rfl, hsource⟩ := readSource_congr hsource
  refine ⟨List.cons_ne_nil _ _, ?_, fun other => ?_⟩
  · simp only [args, List.forall_mem_cons]
    exact ⟨isWord_of_isName htarget, hword, List.forall_mem_nil _⟩
  · rw [keyword, args, readWords, readName_of_isName htarget, hsource]
    rfl

theorem written_adjoin {aux : Template} (hword : IsWord token.toList)
    (htree : ¬(token.toList.head? != some '(') = true)
    (haux : Template.read token statement true = .ok aux) (hname : IsName name) :
    (adjoin aux name).Written := by
  obtain ⟨rfl, haux⟩ := Template.read_congr haux
  have hshown : aux.shown = aux.text := shown_of_text fun hempty => by
    rw [hempty] at htree
    exact htree rfl
  refine ⟨List.cons_ne_nil _ _, ?_, fun other => ?_⟩
  · simp only [args, hshown, List.forall_mem_cons]
    exact ⟨hword, isWord_of_isName hname, List.forall_mem_nil _⟩
  · rw [keyword, args, hshown, readWords, if_neg htree, haux, readName_of_isName hname]
    rfl

end

theorem told_of_readWords {keyword : String} {args : List String} {st : Statement}
    (hargs : ∀ a ∈ args, IsWord a.toList) (h : readWords statement keyword args = .ok st) :
    st.Told statement := by
  unfold readWords at h
  split at h
  · obtain ⟨names, hnames, rfl⟩ := exists_of_map_eq_ok h
    exact .inr ⟨trivial, written_of_names hnames rfl fun _ => rfl⟩
  · obtain ⟨names, hnames, rfl⟩ := exists_of_map_eq_ok h
    exact .inr ⟨trivial, written_of_names hnames rfl fun _ => rfl⟩
  · obtain ⟨names, hnames, rfl⟩ := exists_of_map_eq_ok h
    exact .inr ⟨trivial, written_of_names hnames rfl fun _ => rfl⟩
  · obtain ⟨outer, houter, h⟩ := exists_of_bind_eq_ok h
    obtain ⟨inner, hinner, h⟩ := exists_of_bind_eq_ok h
    cases h
    exact .inr ⟨trivial, written_excise (eq_of_readName houter).2 (eq_of_readName hinner).2⟩
  · cases h
  · exact told_relabel h
  · cases h
  · exact told_relabel h
  · cases h
  · obtain ⟨source, hsource, h⟩ := exists_of_bind_eq_ok h
    obtain ⟨place, hplace, h⟩ := exists_of_bind_eq_ok h
    cases h
    exact .inr ⟨trivial, written_insert (hargs _ (.head _)) hsource hplace⟩
  · cases h
  · obtain ⟨name, hname, h⟩ := exists_of_bind_eq_ok h
    obtain ⟨place, hplace, h⟩ := exists_of_bind_eq_ok h
    cases h
    exact .inr ⟨trivial, written_move (eq_of_readName hname).2 hplace⟩
  · cases h
  · obtain ⟨target, htarget, h⟩ := exists_of_bind_eq_ok h
    obtain ⟨source, hsource, h⟩ := exists_of_bind_eq_ok h
    cases h
    have hword := hargs _ (.tail _ (.head _))
    exact .inr ⟨trivial, written_replace (eq_of_readName htarget).2 hword hsource⟩
  · cases h
  · split at h
    · cases h
    · rename_i htree
      obtain ⟨aux, haux, h⟩ := exists_of_bind_eq_ok h
      obtain ⟨name, hname, h⟩ := exists_of_bind_eq_ok h
      cases h
      have hword := hargs _ (.head _)
      exact .inr ⟨trivial, written_adjoin hword htree haux (eq_of_readName hname).2⟩
  · cases h
  · cases h

theorem told_of_read {text : String} {st : Statement} (h : read text = .ok st) :
    st.Told (trim text) := by
  obtain ⟨keyword, args, hscan, h⟩ := exists_of_read_eq_ok h
  refine told_of_readWords (fun a ha => ?_) h
  obtain ⟨w, hw, rfl⟩ := List.mem_map.mp ha
  rw [String.toList_ofList]
  exact isWord_of_scan hscan w (.tail _ hw)

/-- The change of a label is read again just if its word is one word and says the same. -/
theorem read_text_relabel_iff {name : String} (hname : IsName name) (change : Relabeling) :
    read (relabel name change).text = .ok (relabel name change) ↔
      ∃ w, scan change.word.toList = .ok [w] ∧
        readRelabeling (trim (relabel name change).text) (String.ofList w) = .ok change := by
  rw [text_relabel]
  constructor
  · intro h
    obtain ⟨keyword, args, hscan, h⟩ := exists_of_read_eq_ok h
    rw [scan_relabel hname] at hscan
    obtain ⟨ws, hws, heq⟩ := exists_of_map_eq_ok hscan
    obtain ⟨rfl, rfl⟩ := List.cons.inj heq
    rw [lower_relabel, List.map_cons, String.ofList_toList] at h
    match ws with
    | [] => cases h
    | [w] =>
        refine ⟨w, hws, ?_⟩
        obtain ⟨_, _, h⟩ := exists_of_bind_eq_ok h
        obtain ⟨_, hchange, h⟩ := exists_of_bind_eq_ok h
        cases h
        exact hchange
    | _ :: _ :: _ => cases h
  · rintro ⟨w, hw, hread⟩
    rw [read_relabel hname hw, hread]
    rfl

/-- A statement that has been read is read again from its own text just if it says the same as it is
written: if it is no change of a label, or a change to a bare label, or a substitution without slashes
in its parts. -/
theorem read_text_iff_bare {text : String} {st : Statement} (h : read text = .ok st) :
    read st.text = .ok st ↔ st.Bare := by
  rcases told_of_read h with ⟨name, change, token, rfl, hname, hchange⟩ | ⟨hbare, hwritten⟩
  · rw [read_text_relabel_iff hname]
    exact scan_word_iff hchange _
  · exact iff_of_true hwritten.read_text hbare

theorem read_text_of_two_labels :
    read "rename n \"NP\"" = .ok (relabel "n" (.literal "NP")) ∧
    read "relabel n NP" = .ok (relabel "n" (.literal "NP")) ∧
    read "relabel n \"N P\"" = .ok (relabel "n" (.literal "N P")) ∧
    read "relabel n N P" ≠ .ok (relabel "n" (.literal "N P")) := by
  have hone : read "rename n \"NP\"" = .ok (relabel "n" (.literal "NP")) := by decide +kernel
  have htwo : read "relabel n \"N P\"" = .ok (relabel "n" (.literal "N P")) := by decide +kernel
  have hbare : (relabel "n" (.literal "NP")).Bare := by
    have hhead : ∀ c, "NP".toList.head? = some c → c ∉ ['(', '"', '/'] := by
      rintro _ ⟨⟩
      decide
    have hblank : ∀ c ∈ ['N', 'P'], isBlank c = false :=
      List.forall_mem_cons.mpr ⟨rfl, List.forall_mem_singleton.mpr rfl⟩
    exact ⟨by decide, hblank, hhead⟩
  have hblank : ¬(relabel "n" (.literal "N P")).Bare := by
    rintro ⟨-, hblank, -⟩
    have hspace := hblank ' ' (by decide)
    rw [isBlank_space] at hspace
    cases hspace
  refine ⟨hone, (read_text_iff_bare hone).mpr hbare, htwo, fun h => hblank ?_⟩
  exact (read_text_iff_bare htwo).mp h

end Statement

end Treebank
