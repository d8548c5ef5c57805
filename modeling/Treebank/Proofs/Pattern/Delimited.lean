import Treebank.Proofs.Pattern.Reading
import Treebank.Proofs.Pattern.Scanning

/-!
# Patterns of one delimited condition

A regular expression stands between slashes and a quoted label between quotes. Every label can be
quoted. Of the regular expressions those cannot be written that end in a backslash: it protects the
slash that is to close them.
-/

namespace Treebank.Pattern

open Text

variable {c : Char} {more cs : List Char}

/-! ## Texts of one token -/

/-- A text is split into one token if the characters after its first all belong to it. -/
theorem tokens_single {form : Form} {s : String} (hc : isBlank c = false)
    (hlexeme : lexeme c more = .ok ⟨form, s.toList, more.length⟩) :
    tokens (String.ofList (c :: more)) = .ok [⟨form, s, 0, false, true⟩] := by
  have hscan : scanFrom 0 false (c :: (more ++ [])) = _ :=
    scanFrom_lexeme hc 0 (by rwa [List.append_nil]) rfl
  rw [List.append_nil, scanFrom, String.ofList_toList] at hscan
  rw [tokens, String.toList_ofList, hscan]
  rfl

theorem tokens_of_problem {p : Problem} (hc : isBlank c = false) (h : lexeme c cs = .error p) :
    tokens (String.ofList (c :: cs)) = .error (.atPlace (c :: cs) p 0) := by
  rw [tokens, String.toList_ofList, scanFrom, if_neg (ne_true_of_eq_false hc), h]

/-- The tokens of one condition make the node that it describes. -/
theorem readTokens_atom (text : String) (a : Grammar.Atom) :
    readTokens text a.tokens = .ok (.node (some ⟨[a.condition], false⟩) none none) := by
  refine (Grammar.readTokens_eq_ok_iff text a.isShort _).mpr ?_
  refine ⟨.headed (.described ⟨none, a, []⟩ none) .nothing, ?_, rfl⟩
  simp [Grammar.Node.tokens, Grammar.Head.tokens, Grammar.Alternatives.tokens,
    Grammar.tokensOfOthers, Grammar.Further.tokens]

/-! ## Regular expressions -/

theorem lexeme_slash (cs : List Char) :
    lexeme '/' cs =
      match regexBody cs with
      | some (body, n) => .ok ⟨.regex, body, n⟩
      | none => .error .unterminatedRegex := rfl

theorem tokens_regex {source : String} (h : source.toList.getLast? ≠ some '\\') :
    tokens (String.ofList ('/' :: (LabelAtom.escapeSlashes source.toList ++ ['/']))) =
      .ok [⟨.regex, source, 0, false, true⟩] := by
  refine tokens_single rfl ?_
  rw [lexeme_slash, regexBody_escapeSlashes h, List.length_append]
  rfl

theorem tokens_regex_of_backslash {source : String} (h : source.toList.getLast? = some '\\') :
    tokens (String.ofList ('/' :: (LabelAtom.escapeSlashes source.toList ++ ['/']))) =
      .error (.atPlace ('/' :: (LabelAtom.escapeSlashes source.toList ++ ['/']))
        .unterminatedRegex 0) := by
  refine tokens_of_problem rfl ?_
  rw [lexeme_slash, regexBody_escapeSlashes_of_backslash h]

/-- A regular expression as patterns write it is one token with its text, and the node that it
describes, if it does not end in a backslash. If it does, what is written is taken to be unterminated,
and the expression is in the tokens of no text. -/
theorem read_regex_unless_backslash {source : String} {r : Regex}
    (h : Regex.parse source = .ok r) :
    let text := String.ofList (LabelAtom.regex r).spell
    (source.toList.getLast? ≠ some '\\' →
      tokens text = .ok [⟨.regex, source, 0, false, true⟩] ∧
        read text = .ok (.node (some ⟨[.regex r], false⟩) none none)) ∧
    (source.toList.getLast? = some '\\' →
      tokens text = .error (.atPlace text.toList .unterminatedRegex 0) ∧
        read text = .error (.atPlace text.toList .unterminatedRegex 0) ∧
        ∀ other ts, tokens other = .ok ts → ∀ t ∈ ts, t.form = .regex → t.text ≠ source) := by
  intro text
  have htext : text =
      String.ofList ('/' :: (LabelAtom.escapeSlashes source.toList ++ ['/'])) := by
    rw [← source_of_parse h]
    rfl
  constructor
  · intro hlast
    have htokens : tokens text = _ := htext ▸ tokens_regex hlast
    have hread := readTokens_atom text (.regex ⟨⟨.regex, source, 0, false, true⟩, rfl⟩ r h)
    exact ⟨htokens, by rw [read, htokens, ok_bind]; exact hread⟩
  · intro hlast
    have htokens : tokens text = .error (.atPlace text.toList .unterminatedRegex 0) := by
      rw [htext, String.toList_ofList]
      exact tokens_regex_of_backslash hlast
    refine ⟨htokens, by rw [read, htokens]; rfl, ?_⟩
    rintro other ts hts t ht hform rfl
    have hallowed := allows_of_tokens hts t ht
    rw [hform] at hallowed
    exact hallowed hlast

/-- The expression `a/`, which matches an a before a slash. -/
def slashRegex : Regex :=
  ⟨"a/", .seq (.char (.code false 97 .exact)) (.char (.code false 47 .exact)), 0, [], 2, none⟩

/-- The expression that matches one backslash: a backslash protected by another. -/
def backslashRegex : Regex := ⟨"\\\\", .char (.code false 92 .exact), 0, [], 1, none⟩

theorem read_slash_and_backslash :
    tokens "/a\\//" = .ok [⟨.regex, "a/", 0, false, true⟩] ∧
    read "/a\\//" = .ok (.node (some ⟨[.regex slashRegex], false⟩) none none) ∧
    read "/\\\\/" = .error (.atPlace ['/', '\\', '\\', '/'] .unterminatedRegex 0) := by
  have hslash : Regex.parse "a/" = .ok slashRegex := by rfl
  have hbackslash : Regex.parse "\\\\" = .ok backslashRegex := by rfl
  obtain ⟨htokens, hread⟩ := (read_regex_unless_backslash hslash).1 (by decide)
  obtain ⟨-, hrefused, -⟩ := (read_regex_unless_backslash hbackslash).2 (by decide)
  exact ⟨htokens, hread, hrefused⟩

/-- The expression of two backslashes is valid, and what is written for it is refused. -/
theorem protected_backslash_is_refused :
    Regex.parse "\\\\" = .ok backslashRegex ∧
    String.ofList (LabelAtom.regex backslashRegex).spell = "/\\\\/" ∧
    tokens "/\\\\/" = .error (.malformed .unterminatedRegex 0 "/\\\\/" "/\\\\/") ∧
    read "/\\\\/" = .error (.malformed .unterminatedRegex 0 "/\\\\/" "/\\\\/") := by
  have htokens : tokens (String.ofList ['/', '\\', '\\', '/']) =
      .error (.atPlace ['/', '\\', '\\', '/'] .unterminatedRegex 0) := tokens_of_problem rfl rfl
  have htokens : tokens "/\\\\/" = .error (.malformed .unterminatedRegex 0 "/\\\\/" "/\\\\/") :=
    htokens
  refine ⟨rfl, by decide, htokens, ?_⟩
  rw [read, htokens]
  rfl

/-! ## Quoted labels -/

/-- The characters of a label with a backslash before every backslash and every quote. -/
def protect (label : List Char) : List Char :=
  label.flatMap fun c => if c == '\\' || c == '"' then ['\\', c] else [c]

/-- The label as it is written in quotes. -/
def inQuotes (label : List Char) : List Char := '"' :: (protect label ++ ['"'])

theorem protect_mark (hc : c = '\\' ∨ c = '"') (label : List Char) :
    protect (c :: label) = '\\' :: c :: protect label := by
  rcases hc with rfl | rfl <;> rfl

theorem protect_plain (hc : ¬(c = '\\' ∨ c = '"')) (label : List Char) :
    protect (c :: label) = c :: protect label := by
  have htest : (c == '\\' || c == '"') = false := by simpa using hc
  rw [protect, List.flatMap_cons, htest]
  rfl

theorem quotedBody_protect (label cs : List Char) :
    quotedBody (protect label ++ '"' :: cs) = some (label, (protect label).length + 1) := by
  induction label with
  | nil => rfl
  | cons c label ih =>
      by_cases hc : c = '\\' ∨ c = '"'
      · rw [protect_mark hc, List.cons_append, List.cons_append, quotedBody, ih]
        rfl
      · rw [protect_plain hc, List.cons_append, quotedBody, ih]
        · rfl
        · exact fun h => hc (.inr h)
        · exact fun _ _ h => absurd (.inl h) hc

theorem lexeme_quote (cs : List Char) :
    lexeme '"' cs =
      match quotedBody cs with
      | some (body, n) => .ok ⟨.quoted, body, n⟩
      | none => .error .unterminatedLabel := rfl

theorem lexeme_inQuotes (label cs : List Char) :
    lexeme '"' (protect label ++ ['"'] ++ cs) =
      .ok ⟨.quoted, label, (protect label ++ ['"']).length⟩ := by
  rw [lexeme_quote, List.append_assoc, List.singleton_append, quotedBody_protect,
    List.length_append]
  rfl

/-- A quoted label is one token, wherever it stands and whatever comes after it. -/
theorem scanFrom_inQuotes (label : String) (offset : Nat) (spaced : Bool) (cs : List Char) :
    scanFrom offset spaced (inQuotes label.toList ++ cs) =
      (⟨.quoted, label, offset, spaced, false⟩ :: ·)
        <$> scanFrom (offset + (inQuotes label.toList).length) false cs := by
  have hscan : scanFrom offset spaced ('"' :: (protect label.toList ++ ['"'] ++ cs)) = _ :=
    scanFrom_lexeme rfl offset (lexeme_inQuotes label.toList cs) rfl
  rw [String.ofList_toList, Nat.add_assoc, Nat.add_comm 1] at hscan
  exact hscan

theorem read_inQuotes (label : String) :
    read (String.ofList (inQuotes label.toList)) =
      .ok (.node (some ⟨[.literal label], false⟩) none none) := by
  have htokens : tokens (String.ofList (inQuotes label.toList)) =
      .ok [⟨.quoted, label, 0, false, true⟩] := by
    have hlexeme := lexeme_inQuotes label.toList []
    rw [List.append_nil] at hlexeme
    exact tokens_single rfl hlexeme
  have hread := readTokens_atom (String.ofList (inQuotes label.toList))
    (.quoted ⟨⟨.quoted, label, 0, false, true⟩, rfl⟩)
  rw [read, htokens, ok_bind]
  exact hread

end Treebank.Pattern
