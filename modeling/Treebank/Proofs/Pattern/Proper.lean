import Treebank.Proofs.Pattern.Derived

/-!
# What patterns consist of

The tokens of a text have texts that fit their forms. So a pattern that has been read is made of names,
categories, numbers and expressions that could be read, and of lists with more than one item.
-/

namespace Treebank

open Text

namespace Pattern

/-- A character that does not end a bare label. -/
def isBare (c : Char) : Bool := !isBlank c && !isReserved c

/-- A text that can stand as a label without quotes. -/
def IsLabel (s : String) : Prop := s ≠ "" ∧ ∀ c ∈ s.toList, isBare c = true

theorem isLabel_iff {s : String} : IsLabel s ↔ s ≠ "" ∧ s.toList.all isBare = true := by
  rw [IsLabel, List.all_eq_true]

instance (s : String) : Decidable (IsLabel s) := decidable_of_iff _ isLabel_iff.symm

/-- A text that can stand as a capture name. -/
def IsName (s : String) : Prop := s ≠ "" ∧ ∀ c ∈ s.toList, isWordChar c = true

/-- A token of the form can have the text. -/
def Form.Allows : Form → String → Prop
  | .label, s => IsLabel s
  | .name, s => IsName s
  | .regex, s => s.toList.getLast? ≠ some '\\'
  | .sign (.plain r), _ => r ∈ Relation.plain
  | _, _ => True

/-- A token that can be read. -/
structure Token.Sound (t : Token) : Prop where
  allowed : t.form.Allows t.text
  short : Grammar.IsShort t

end Pattern

open Pattern (IsLabel IsName)

/-! ## Proper patterns -/

def LabelAtom.Proper : LabelAtom → Prop
  | any => True
  | literal _ => True
  | regex r => Regex.parse r.source = .ok r ∧ r.source.toList.getLast? ≠ some '\\'
  | category name => IsLabel name

structure Description.Proper (d : Description) : Prop where
  nonempty : d.atoms ≠ []
  atoms : ∀ a ∈ d.atoms, a.Proper

/-- The number of a child can be written and is not zero. -/
def IsChildNumber (index : Option Int) : Prop :=
  ∃ i : Int, index = some i ∧ i ≠ 0 ∧ i.natAbs < 10 ^ digitLimit

def Relation.Proper : Relation → Prop
  | ithChild index => IsChildNumber index
  | ithChildOf index => IsChildNumber index
  | dominatesVia d => d.Proper
  | dominatedByVia d => d.Proper
  | _ => True

/-- A proper beginning of a node pattern has a description or a name. -/
structure IsHead (label : Option Description) (name : Option String) : Prop where
  present : label = none → name ≠ none
  label : ∀ d, label = some d → d.Proper
  name : ∀ n, name = some n → IsName n

mutual
/-- A pattern of the parts that patterns are read from. -/
def NodePattern.Proper : NodePattern → Prop
  | .node label name none => IsHead label name
  | .node label name (some c) => IsHead label name ∧ c.Proper
def Constraint.Proper : Constraint → Prop
  | .rel r partner => r.Proper ∧ partner.Proper
  | .all items => 2 ≤ items.length ∧ Constraint.ProperAll items
  | .choice items => 2 ≤ items.length ∧ Constraint.ProperAll items
  | .not item => item.Proper
  | .maybe item => item.Proper
def Constraint.ProperAll : List Constraint → Prop
  | [] => True
  | c :: cs => c.Proper ∧ Constraint.ProperAll cs
end

namespace Pattern

/-! ## Texts of tokens -/

theorem head?_of_regexBody {cs : List Char} {n : Nat} (h : regexBody cs = some ([], n)) :
    cs.head? = some '/' := by
  unfold regexBody at h
  split at h
  · cases h
  · rfl
  · obtain ⟨_, _, h⟩ := Option.map_eq_some_iff.mp h
    cases h
  · obtain ⟨_, _, h⟩ := Option.map_eq_some_iff.mp h
    cases h

/-- A backslash at the end would make the closing slash part of the expression. -/
theorem getLast?_regexBody {cs body : List Char} {n : Nat} (h : regexBody cs = some (body, n)) :
    body.getLast? ≠ some '\\' := by
  induction cs using regexBody.induct generalizing body n with
  | case1 => cases h
  | case2 cs =>
      cases h
      nofun
  | case3 cs ih =>
      obtain ⟨⟨b, m⟩, hb, h⟩ := Option.map_eq_some_iff.mp h
      cases h
      cases b with
      | nil => decide
      | cons d b =>
          rw [List.getLast?_cons_cons]
          exact ih hb
  | case4 c cs hslash hescape ih =>
      rw [regexBody] at h
      · obtain ⟨⟨b, m⟩, hb, h⟩ := Option.map_eq_some_iff.mp h
        cases h
        cases b with
        | nil =>
            obtain ⟨ds, rfl⟩ := List.head?_eq_some_iff.mp (head?_of_regexBody hb)
            rintro ⟨⟩
            exact hescape ds rfl rfl
        | cons d b =>
            rw [List.getLast?_cons_cons]
            exact ih hb
      · exact hslash
      · exact hescape

/-- A plain sign stands for one of the plain relations. -/
def isListed : RelationSign → Bool
  | .plain r => Relation.plain.contains r
  | _ => true

theorem plain_of_longestSign? {cs : List Char} {s : String} {r : Relation}
    (h : longestSign? cs = some (s, .plain r)) : r ∈ Relation.plain := by
  have htable : (RelationSign.longestFirst.all fun e => isListed e.2) = true := by decide
  have hplain := List.all_eq_true.mp htable _ (List.mem_of_find?_eq_some h)
  exact List.contains_iff_mem.mp hplain

/-- What no other token begins with begins a label. -/
theorem isReserved_eq_false {c : Char} (hbracket : bracketForm? c = none)
    (hsign : (c == '<' || c == '>' || c == '$' || c == '.' || c == ',' || c == '=') = false)
    (hslash : c ≠ '/') (hquote : c ≠ '"') (hat : c ≠ '@') : isReserved c = false := by
  rw [Bool.eq_false_iff]
  intro hmem
  simp only [isReserved, String.reduceToList, List.contains_iff_mem, List.mem_cons,
    List.not_mem_nil, or_false] at hmem
  rcases hmem with rfl | rfl | rfl | rfl | rfl | rfl | rfl | rfl | rfl | rfl | rfl | rfl | rfl | rfl |
    rfl | rfl | rfl <;> simp_all [bracketForm?]

theorem ofList_ne_empty {cs : List Char} (h : cs ≠ []) : String.ofList cs ≠ "" := by
  intro hnil
  rw [← String.toList_inj, String.toList_ofList] at hnil
  exact h hnil

theorem allows_of_bracketForm? {c : Char} {form : Form} (h : bracketForm? c = some form)
    (s : String) : form.Allows s := by
  unfold bracketForm? at h
  split at h <;> cases h <;> trivial

theorem allows_of_longestSign? {cs : List Char} {s : String} {sign : RelationSign}
    (h : longestSign? cs = some (s, sign)) (text : String) : (Form.sign sign).Allows text := by
  cases sign with
  | plain r => exact plain_of_longestSign? h
  | down => trivial
  | up => trivial

theorem isName_takeWhile {cs : List Char} (hne : cs.takeWhile isWordChar ≠ []) :
    IsName (String.ofList (cs.takeWhile isWordChar)) := by
  refine ⟨ofList_ne_empty hne, ?_⟩
  rw [String.toList_ofList]
  exact fun d hd => List.mem_takeWhile_imp hd

theorem isLabel_takeWhile {c : Char} (hc : isBare c = true) (cs : List Char) :
    IsLabel (String.ofList (c :: cs.takeWhile isBare)) := by
  refine ⟨ofList_ne_empty (List.cons_ne_nil _ _), ?_⟩
  rw [String.toList_ofList, List.forall_mem_cons]
  exact ⟨hc, fun d hd => List.mem_takeWhile_imp hd⟩

theorem allows_of_lexeme {c : Char} {cs : List Char} {l : Lexeme} (hc : isBlank c = false)
    (h : lexeme c cs = .ok l) : l.form.Allows (String.ofList l.text) := by
  unfold lexeme at h
  split at h
  · rename_i form hform
    cases h
    exact allows_of_bracketForm? hform _
  rename_i hbracket
  split at h
  · simp only at h
    split at h
    · cases h
    · rename_i hname
      cases h
      exact isName_takeWhile (by simpa using hname)
  split at h
  · split at h
    · cases h
      trivial
    · split at h
      · rename_i hlongest
        cases h
        exact allows_of_longestSign? hlongest _
      · cases h
  rename_i hsign
  split at h
  · split at h
    · rename_i hbody
      cases h
      simpa [Form.Allows] using getLast?_regexBody hbody
    · cases h
  rename_i hslash
  split at h
  · split at h
    · cases h
      trivial
    · cases h
  rename_i hquote
  split at h
  · cases h
    trivial
  · -- no other token begins with the character
    rename_i hat
    cases h
    have hreserved : isReserved c = false :=
      isReserved_eq_false (Option.eq_none_iff_forall_ne_some.mpr hbracket) (by simpa using hsign)
        (by simpa using hslash) (by simpa using hquote) (by simpa using hat)
    exact isLabel_takeWhile (by rw [isBare, hc, hreserved]; rfl) cs

theorem allows_of_scanFrom {offset : Nat} {spaced : Bool} {cs : List Char} {ts : List Token}
    (h : scanFrom offset spaced cs = .ok ts) : ∀ t ∈ ts, t.form.Allows t.text := by
  induction offset, spaced, cs using scanFrom.induct generalizing ts with
  | case1 offset spaced =>
      rw [scanFrom] at h
      cases h
      nofun
  | case2 offset spaced c cs hblank ih =>
      rw [scanFrom, if_pos hblank] at h
      exact ih h
  | case3 offset spaced c cs hblank problem hlexeme =>
      rw [scanFrom, if_neg hblank, hlexeme] at h
      cases h
  | case4 offset spaced c cs hblank l hlexeme ih =>
      rw [scanFrom, if_neg hblank, hlexeme] at h
      obtain ⟨us, hus, rfl⟩ := exists_of_map_eq_ok h
      exact List.forall_mem_cons.mpr
        ⟨allows_of_lexeme (by simpa using hblank) hlexeme, ih hus⟩

theorem allows_of_markSpaces {ts : List Token} (h : ∀ t ∈ ts, t.form.Allows t.text) :
    ∀ t ∈ markSpaces ts, t.form.Allows t.text := by
  induction ts with
  | nil => exact h
  | cons t ts ih =>
      obtain ⟨ht, hts⟩ := List.forall_mem_cons.mp h
      exact List.forall_mem_cons.mpr ⟨ht, ih hts⟩

theorem allows_of_tokens {text : String} {ts : List Token} (h : tokens text = .ok ts) :
    ∀ t ∈ ts, t.form.Allows t.text := by
  rw [tokens] at h
  split at h
  · rename_i hscan
    cases h
    exact allows_of_markSpaces (allows_of_scanFrom hscan)
  · cases h

/-! ## Patterns of sound tokens -/

theorem source_of_parse {source : String} {r : Regex} (h : Regex.parse source = .ok r) :
    r.source = source := by
  rw [Regex.parse] at h
  obtain ⟨scanner, _, h⟩ := exists_of_bind_eq_ok h
  obtain ⟨⟨e, st⟩, _, h⟩ := exists_of_bind_eq_ok h
  cases h
  rfl

namespace Grammar

theorem allows_of_sound {form : Form} (t : TokenOf form) (h : t.val.Sound) :
    form.Allows t.val.text := by
  have hallowed := h.allowed
  rwa [t.property] at hallowed

theorem Atom.proper (a : Atom) (h : ∀ t ∈ a.tokens, t.Sound) : a.condition.Proper := by
  cases a with
  | label t =>
      rw [Atom.condition]
      split <;> trivial
  | quoted t => trivial
  | regex t r hr =>
      have hsource := source_of_parse hr
      exact ⟨hsource ▸ hr, hsource ▸ allows_of_sound t (h _ (.head _))⟩
  | category sign name => exact allows_of_sound name (h _ (.tail _ (.head _)))

theorem Alternatives.proper (d : Alternatives) (h : ∀ t ∈ d.tokens, t.Sound) :
    d.description.Proper := by
  obtain ⟨bang, first, others⟩ := d
  simp only [Alternatives.tokens, List.forall_mem_append] at h
  obtain ⟨_, hfirst, hothers⟩ := h
  refine ⟨List.cons_ne_nil _ _, List.forall_mem_cons.mpr ⟨first.proper hfirst, ?_⟩⟩
  intro a ha
  obtain ⟨⟨bar, b⟩, hb, rfl⟩ := List.mem_map.mp ha
  exact b.proper fun t ht => hothers t (List.mem_flatMap.mpr ⟨_, hb, .tail _ ht⟩)

theorem Head.isHead (d : Head) (h : ∀ t ∈ d.tokens, t.Sound) : IsHead d.label? d.name? := by
  cases d with
  | named name =>
      refine ⟨nofun, nofun, ?_⟩
      rintro n ⟨⟩
      exact allows_of_sound name (h _ (.head _))
  | described label name =>
      obtain ⟨hlabel, hname⟩ := List.forall_mem_append.mp h
      refine ⟨nofun, ?_, fun n hn => ?_⟩
      · rintro d ⟨⟩
        exact label.proper hlabel
      · obtain ⟨t, rfl, rfl⟩ := Option.map_eq_some_iff.mp hn
        exact allows_of_sound t (hname _ (.head _))

theorem lt_of_childIndex? {cs : List Char} {i : Int} (h : childIndex? cs = some i)
    (hshort : cs.countP Text.isDecimal ≤ digitLimit) : i.natAbs < 10 ^ digitLimit := by
  have hread {ds : List Char} {n : Nat} (hn : readNat? ds = some n)
      (hcount : ds.countP Text.isDecimal ≤ digitLimit) : n < 10 ^ digitLimit := by
    rw [List.countP_eq_length.mpr (List.all_eq_true.mp (all_isDecimal_of_readNat? hn))] at hcount
    exact Nat.lt_of_lt_of_le (lt_of_readNat? hn) (Nat.pow_le_pow_right (by decide) hcount)
  unfold childIndex? at h
  split at h
  · obtain ⟨n, hn, rfl⟩ := Option.map_eq_some_iff.mp h
    rw [Int.natAbs_neg, Int.natAbs_natCast]
    exact hread hn (Nat.le_trans ((List.sublist_cons_self _ _).countP_le) hshort)
  · obtain ⟨n, hn, rfl⟩ := Option.map_eq_some_iff.mp h
    exact hread hn hshort

theorem proper_of_mem_plain : ∀ r ∈ Relation.plain, r.Proper := by
  simp [Relation.plain, Relation.Proper]

theorem Sign.proper (s : Sign) (h : ∀ t ∈ s.tokens, t.Sound) : s.relation.Proper := by
  cases s with
  | plain t r hform =>
      have hallowed := (h t (.head _)).allowed
      rw [hform] at hallowed
      exact proper_of_mem_plain r hallowed
  | numbered t down digits hform i hi hne =>
      have hnumber : IsChildNumber (some i) :=
        ⟨i, rfl, hne, lt_of_childIndex? hi ((h t (.head _)).short down digits hform)⟩
      cases down <;> exact hnumber
  | via t down hform opening d closing =>
      simp only [Sign.tokens, List.forall_mem_cons, List.forall_mem_append] at h
      have hd := d.proper h.2.2.1
      cases down <;> exact hd

theorem proper_addConstraint {p : NodePattern} {extra : Option Constraint} (hp : p.Proper)
    (hextra : ∀ c, extra = some c → c.Proper) : (addConstraint p extra).Proper := by
  obtain ⟨label, name, constraint⟩ := p
  cases extra with
  | none => cases constraint <;> exact hp
  | some e =>
      have he := hextra e rfl
      cases constraint with
      | none => exact ⟨hp, he⟩
      | some c => exact ⟨hp.1, Nat.le_refl 2, hp.2, he, trivial⟩

theorem proper_conjoin {c : Constraint} {cs : List Constraint} (hc : c.Proper)
    (hcs : Constraint.ProperAll cs) : (conjoin (c :: cs)).Proper := by
  cases cs with
  | nil => exact hc
  | cons d ds => exact ⟨by simp, hc, hcs⟩

theorem proper_choose {c : Constraint} {cs : List Constraint} (hc : c.Proper)
    (hcs : Constraint.ProperAll cs) : (choose (c :: cs)).Proper := by
  cases cs with
  | nil => exact hc
  | cons d ds => exact ⟨by simp, hc, hcs⟩

mutual
theorem Node.proper : (n : Node) → (∀ t ∈ n.tokens, t.Sound) → n.pattern.Proper
  | .bracketed opening inner closing further, h => by
      simp only [Node.tokens, List.forall_mem_cons, List.forall_mem_append] at h
      exact proper_addConstraint (inner.proper h.2.1) (further.proper h.2.2.2)
  | .headed head .nothing, h => by
      simp only [Node.tokens, List.forall_mem_append] at h
      exact head.isHead h.1
  | .headed head (.relations rs), h => by
      simp only [Node.tokens, Further.tokens, List.forall_mem_append] at h
      exact ⟨head.isHead h.1, rs.proper h.2⟩
theorem Further.proper : (r : Further) → (∀ t ∈ r.tokens, t.Sound) →
    ∀ c, r.constraint? = some c → c.Proper
  | .nothing, _, _, hc => by cases hc
  | .relations rs, h, _, hc => Option.some.inj hc ▸ rs.proper h
theorem Relations.proper : (rs : Relations) → (∀ t ∈ rs.tokens, t.Sound) → rs.constraint.Proper
  | .mk first others, h =>
      have h := List.forall_mem_append.mp h
      proper_choose (first.proper h.1) (others.proper h.2)
theorem Branches.proper : (b : Branches) → (∀ t ∈ b.tokens, t.Sound) →
    Constraint.ProperAll b.constraints
  | .nil, _ => trivial
  | .cons bar branch others, h => by
      simp only [Branches.tokens, List.forall_mem_cons, List.forall_mem_append] at h
      exact ⟨branch.proper h.2.1, others.proper h.2.2⟩
theorem Joined.proper : (j : Joined) → (∀ t ∈ j.tokens, t.Sound) → j.constraint.Proper
  | .mk first others, h =>
      have h := List.forall_mem_append.mp h
      proper_conjoin (first.proper h.1) (others.proper h.2)
theorem More.proper : (m : More) → (∀ t ∈ m.tokens, t.Sound) →
    Constraint.ProperAll m.constraints
  | .nil, _ => trivial
  | .beside u others, h =>
      have h := List.forall_mem_append.mp h
      ⟨u.proper h.1, others.proper h.2⟩
  | .joined ampersand u others, h => by
      simp only [More.tokens, List.forall_mem_cons, List.forall_mem_append] at h
      exact ⟨u.proper h.2.1, others.proper h.2.2⟩
theorem Unary.proper : (u : Unary) → (∀ t ∈ u.tokens, t.Sound) → u.constraint.Proper
  | .negated bang u, h => u.proper (List.forall_mem_cons.mp h).2
  | .maybe question u, h => u.proper (List.forall_mem_cons.mp h).2
  | .grouped opening rs closing, h => by
      simp only [Unary.tokens, List.forall_mem_cons, List.forall_mem_append] at h
      exact rs.proper h.2.1
  | .related sign partner, h =>
      have h := List.forall_mem_append.mp h
      ⟨sign.proper h.1, partner.proper h.2⟩
theorem Partner.proper : (p : Partner) → (∀ t ∈ p.tokens, t.Sound) → p.pattern.Proper
  | .bracketed opening inner closing, h => by
      simp only [Partner.tokens, List.forall_mem_cons, List.forall_mem_append] at h
      exact inner.proper h.2.1
  | .headed head, h => head.isHead h
end

end Grammar

/-- A pattern that has been read is proper. -/
theorem proper_of_read {text : String} {p : NodePattern} (h : read text = .ok p) : p.Proper := by
  rw [read] at h
  obtain ⟨ts, hts, h⟩ := exists_of_bind_eq_ok h
  obtain ⟨n, rfl, rfl, hshort⟩ := Grammar.derived_tokens h
  exact n.proper fun t ht => ⟨allows_of_tokens hts t ht, hshort t ht⟩

end Pattern

end Treebank
