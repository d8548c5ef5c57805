import Treebank.Proofs.Pattern.Reading
import Treebank.Proofs.Pattern.Written

/-!
# Written patterns are read back

A derivation tree writes the words of a pattern and stands for it. So a pattern that has been read from
some text is read from its own text, unless a label in quotes cannot do without them.
-/

namespace Treebank

open Pattern
open Pattern.Grammar hiding Head Sign Relations

namespace Pattern

variable {ts : List Token} {ws : List Word} {f : Form} {s : String}

theorem exists_token (h : ts.map Token.word = .plain f s :: ws) :
    ∃ (t : TokenOf f) (us : List Token), ts = t.val :: us ∧ t.val.text = s ∧
      us.map Token.word = ws := by
  obtain ⟨t, us, rfl, ht, hus⟩ := List.map_eq_cons_iff.mp h
  exact ⟨⟨t, congrArg Word.form ht⟩, us, rfl, congrArg Word.text ht, hus⟩

theorem exists_last_token (h : ts.map Token.word = [.plain f s]) :
    ∃ t : TokenOf f, ts = [t.val] ∧ t.val.text = s := by
  obtain ⟨t, us, rfl, ht, hus⟩ := exists_token h
  rw [List.map_eq_nil_iff.mp hus]
  exact ⟨t, rfl, ht⟩

theorem exists_tightBar (h : ts.map Token.word = .joiner :: ws) :
    ∃ (t : TightBar) (us : List Token), ts = t.val :: us ∧ us.map Token.word = ws := by
  obtain ⟨t, us, rfl, ht, hus⟩ := List.map_eq_cons_iff.mp h
  have hjoins := congrArg Word.joins ht
  simp only [Token.word, Word.joiner, Bool.and_eq_true, beq_iff_eq, Bool.not_eq_true'] at hjoins
  exact ⟨⟨t, hjoins.1.1, hjoins.1.2, hjoins.2⟩, us, rfl, hus⟩

/-! ## Heads -/

theorem exists_atom {a : LabelAtom} (ha : a.Proper) (hl : a.Bare)
    (h : ts.map Token.word = a.words) : ∃ d : Grammar.Atom, d.tokens = ts ∧ d.condition = a := by
  cases a with
  | any =>
      obtain ⟨t, rfl, ht⟩ := exists_last_token h
      exact ⟨.label t, rfl, by simp [Atom.condition, ht]⟩
  | literal l =>
      obtain ⟨t, rfl, ht⟩ := exists_last_token h
      exact ⟨.label t, rfl, by simp [Atom.condition, ht, (hl l rfl).2]⟩
  | regex r =>
      obtain ⟨t, rfl, ht⟩ := exists_last_token h
      exact ⟨.regex t r (ht ▸ ha.1), rfl, rfl⟩
  | category name =>
      obtain ⟨sign, us, rfl, _, hus⟩ := exists_token h
      obtain ⟨t, rfl, ht⟩ := exists_last_token hus
      exact ⟨.category sign t, rfl, by simp [Atom.condition, ht]⟩

theorem exists_others : (as : List LabelAtom) → {ts : List Token} → (∀ a ∈ as, a.Proper) →
    (∀ a ∈ as, a.Bare) →
    ts.map Token.word = ((as.map LabelAtom.words).map ([.joiner] ++ ·)).flatten →
    ∃ others : List (TightBar × Grammar.Atom),
      tokensOfOthers others = ts ∧ others.map (·.2.condition) = as
  | [], ts, _, _, h => ⟨[], (List.map_eq_nil_iff.mp h).symm, rfl⟩
  | a :: as, ts, has, hl, h => by
      obtain ⟨ha, hrest⟩ := List.forall_mem_cons.mp has
      obtain ⟨hla, hlrest⟩ := List.forall_mem_cons.mp hl
      obtain ⟨bar, us, rfl, htail⟩ := exists_tightBar h
      obtain ⟨us, vs, rfl, hus, hvs⟩ := List.map_eq_append_iff.mp htail
      obtain ⟨d, rfl, rfl⟩ := exists_atom ha hla hus
      obtain ⟨others, rfl, rfl⟩ := exists_others as hrest hlrest hvs
      exact ⟨(bar, d) :: others, by simp [tokensOfOthers], rfl⟩

theorem exists_conditions {a : LabelAtom} {as : List LabelAtom} (has : ∀ b ∈ a :: as, b.Proper)
    (hl : ∀ b ∈ a :: as, b.Bare)
    (h : ts.map Token.word = List.intercalate [.joiner] ((a :: as).map LabelAtom.words)) :
    ∃ (first : Grammar.Atom) (others : List (TightBar × Grammar.Atom)),
      first.tokens ++ tokensOfOthers others = ts ∧ first.condition = a ∧
        others.map (·.2.condition) = as := by
  obtain ⟨ha, hrest⟩ := List.forall_mem_cons.mp has
  obtain ⟨hla, hlrest⟩ := List.forall_mem_cons.mp hl
  rw [List.map_cons, intercalate_cons] at h
  obtain ⟨us, vs, rfl, hus, hvs⟩ := List.map_eq_append_iff.mp h
  obtain ⟨first, rfl, rfl⟩ := exists_atom ha hla hus
  obtain ⟨others, rfl, rfl⟩ := exists_others as hrest hlrest hvs
  exact ⟨first, others, rfl, rfl, rfl⟩

theorem exists_alternatives {d : Description} (hd : d.Proper) (hl : AllBare d.literals)
    (h : ts.map Token.word = d.words) :
    ∃ a : Alternatives, a.tokens = ts ∧ a.description = d := by
  obtain ⟨atoms, negated⟩ := d
  cases atoms with
  | nil => exact absurd rfl hd.nonempty
  | cons a as =>
      cases negated with
      | false =>
          obtain ⟨first, others, rfl, rfl, rfl⟩ := exists_conditions hd.atoms hl.atoms h
          exact ⟨⟨none, first, others⟩, rfl, rfl⟩
      | true =>
          obtain ⟨bang, us, rfl, _, hus⟩ := exists_token h
          obtain ⟨first, others, rfl, rfl, rfl⟩ := exists_conditions hd.atoms hl.atoms hus
          exact ⟨⟨some bang, first, others⟩, rfl, rfl⟩

theorem exists_head {label : Option Description} {name : Option String} (hhead : IsHead label name)
    (hl : AllBare (labelLiterals label)) (h : ts.map Token.word = headWords label name) :
    ∃ d : Grammar.Head, d.tokens = ts ∧ d.label? = label ∧ d.name? = name := by
  cases label with
  | none =>
      cases name with
      | none => exact absurd rfl (hhead.present rfl)
      | some n =>
          obtain ⟨t, rfl, ht⟩ := exists_last_token h
          exact ⟨.named t, rfl, rfl, congrArg some ht⟩
  | some d =>
      have hd := hhead.label d rfl
      obtain ⟨us, vs, rfl, hus, hvs⟩ := List.map_eq_append_iff.mp h
      obtain ⟨label, rfl, rfl⟩ := exists_alternatives hd hl hus
      cases name with
      | none =>
          rw [List.map_eq_nil_iff.mp hvs]
          exact ⟨.described label none, rfl, rfl, rfl⟩
      | some n =>
          obtain ⟨t, rfl, ht⟩ := exists_last_token hvs
          exact ⟨.described label (some t), rfl, rfl, congrArg some ht⟩

/-! ## Signs -/

theorem childIndex?_toString (i : Int) : childIndex? (toString i).toList = some i := by
  cases i with
  | ofNat n =>
      obtain ⟨c, ds, hdigits, hc⟩ := exists_toDigits n
      have hread := Text.readNat?_toDigits n
      rw [toList_toString_of_nonneg, hdigits]
      rw [hdigits] at hread
      simp [childIndex?, hc, hread]
  | negSucc n =>
      rw [toList_toString_of_neg, childIndex?, Text.readNat?_toDigits]
      rfl

theorem exists_number (down : Bool) {index : Option Int} (hindex : IsChildNumber index)
    (h : ts.map Token.word = [numberWord down index]) : ∃ s : Grammar.Sign, s.tokens = ts ∧
      s.relation = if down then .ithChild index else .ithChildOf index := by
  obtain ⟨i, rfl, hne, _⟩ := hindex
  obtain ⟨t, rfl, _⟩ := exists_last_token h
  have hi : childIndex? (toString i).toList = some i := childIndex?_toString i
  exact ⟨.numbered t.val down _ t.property i hi hne, rfl, rfl⟩

theorem exists_via (down : Bool) {d : Description} (hd : d.Proper) (hl : AllBare d.literals)
    (h : ts.map Token.word = .plain (.sign (if down then .down else .up)) s
      :: .plain .leftParen "(" :: (d.words ++ [.plain .rightParen ")"])) :
    ∃ s : Grammar.Sign, s.tokens = ts ∧
      s.relation = if down then .dominatesVia d else .dominatedByVia d := by
  obtain ⟨t, us, rfl, _, hus⟩ := exists_token h
  obtain ⟨opening, us, rfl, _, hus⟩ := exists_token hus
  obtain ⟨us, vs, rfl, hus, hvs⟩ := List.map_eq_append_iff.mp hus
  obtain ⟨a, rfl, rfl⟩ := exists_alternatives hd hl hus
  obtain ⟨closing, rfl, _⟩ := exists_last_token hvs
  exact ⟨.via t.val down t.property opening a closing, rfl, rfl⟩

theorem exists_sign {r : Relation} (hr : r.Proper) (hl : AllBare r.literals)
    (h : ts.map Token.word = r.words) : ∃ s : Grammar.Sign, s.tokens = ts ∧ s.relation = r := by
  cases r with
  | ithChild index => exact exists_number true hr h
  | ithChildOf index => exact exists_number false hr h
  | dominatesVia d => exact exists_via true hr hl h
  | dominatedByVia d => exact exists_via false hr hl h
  | _ =>
      obtain ⟨t, rfl, _⟩ := exists_last_token h
      exact ⟨.plain t.val _ t.property, rfl, rfl⟩

/-! ## Nodes and relations -/

/-- One relation is as good as relations without any others. -/
theorem exists_relations_of_unary (u : Grammar.Unary) :
    ∃ rs : Grammar.Relations, rs.tokens = u.tokens ∧ rs.constraint = u.constraint :=
  ⟨.mk (.mk u .nil) .nil, by simp [Relations.tokens, Joined.tokens, More.tokens, Branches.tokens],
    rfl⟩

theorem exists_grouped {c : Constraint} {inner : List Word}
    (hinner : ∀ {us : List Token}, us.map Token.word = inner →
      ∃ rs : Grammar.Relations, rs.tokens = us ∧ rs.constraint = c)
    (h : ts.map Token.word = .plain .leftBracket "[" :: (inner ++ [.plain .rightBracket "]"])) :
    ∃ u : Grammar.Unary, u.tokens = ts ∧ u.constraint = c := by
  obtain ⟨opening, us, rfl, _, htail⟩ := exists_token h
  obtain ⟨us, vs, rfl, hus, hvs⟩ := List.map_eq_append_iff.mp htail
  obtain ⟨rs, rfl, rfl⟩ := hinner hus
  obtain ⟨closing, rfl, _⟩ := exists_last_token hvs
  exact ⟨.grouped opening rs closing, rfl, rfl⟩

theorem exists_negated {c : Constraint} {inner : List Word}
    (hinner : ∀ {us : List Token}, us.map Token.word = inner →
      ∃ u : Grammar.Unary, u.tokens = us ∧ u.constraint = c)
    (h : ts.map Token.word = .plain .bang "!" :: inner) :
    ∃ u : Grammar.Unary, u.tokens = ts ∧ u.constraint = .not c := by
  obtain ⟨bang, us, rfl, _, hus⟩ := exists_token h
  obtain ⟨u, rfl, rfl⟩ := hinner hus
  exact ⟨.negated bang u, rfl, rfl⟩

theorem exists_maybe {c : Constraint} {inner : List Word}
    (hinner : ∀ {us : List Token}, us.map Token.word = inner →
      ∃ u : Grammar.Unary, u.tokens = us ∧ u.constraint = c)
    (h : ts.map Token.word = .plain .question "?" :: inner) :
    ∃ u : Grammar.Unary, u.tokens = ts ∧ u.constraint = .maybe c := by
  obtain ⟨question, us, rfl, _, hus⟩ := exists_token h
  obtain ⟨u, rfl, rfl⟩ := hinner hus
  exact ⟨.maybe question u, rfl, rfl⟩

theorem exists_related {r : Relation} {p : NodePattern} (hr : r.Proper) (hl : AllBare r.literals)
    (hpartner : ∀ {us : List Token}, us.map Token.word = p.partnerWords →
      ∃ d : Grammar.Partner, d.tokens = us ∧ d.pattern = p)
    (h : ts.map Token.word = r.words ++ p.partnerWords) :
    ∃ u : Grammar.Unary, u.tokens = ts ∧ u.constraint = .rel r p := by
  obtain ⟨us, vs, rfl, hus, hvs⟩ := List.map_eq_append_iff.mp h
  obtain ⟨sign, rfl, rfl⟩ := exists_sign hr hl hus
  obtain ⟨partner, rfl, rfl⟩ := hpartner hvs
  exact ⟨.related sign partner, rfl, rfl⟩

/-! The words of a part are those of its parts, so its tokens are split where these end. Items of a list
never stand without a sign or a bracket of their own, so each is one relation. -/

mutual
theorem exists_partner : (p : NodePattern) → {ts : List Token} → p.Proper → AllBare p.literals →
    ts.map Token.word = p.partnerWords → ∃ d : Grammar.Partner, d.tokens = ts ∧ d.pattern = p
  | .node label name none, ts, hp, hl, h => by
      obtain ⟨head, rfl, rfl, rfl⟩ := exists_head hp hl h
      exact ⟨.headed head, rfl, rfl⟩
  | .node label name (some c), ts, hp, hl, h => by
      obtain ⟨opening, us, rfl, _, htail⟩ := exists_token h
      obtain ⟨us, vs, rfl, hus, hrest⟩ := List.map_eq_append_iff.mp htail
      obtain ⟨vs, ws, rfl, hvs, hws⟩ := List.map_eq_append_iff.mp hrest
      obtain ⟨head, rfl, rfl, rfl⟩ := exists_head hp.1 hl.of_append.1 hus
      obtain ⟨rs, rfl, rfl⟩ := exists_relations c hp.2 hl.of_append.2 hvs
      obtain ⟨closing, rfl, _⟩ := exists_last_token hws
      exact ⟨.bracketed opening (.headed head (.relations rs)) closing,
        by simp [Partner.tokens, Node.tokens, Further.tokens], rfl⟩
theorem exists_relations : (c : Constraint) → {ts : List Token} → c.Proper → AllBare c.literals →
    ts.map Token.word = c.words → ∃ rs : Grammar.Relations, rs.tokens = ts ∧ rs.constraint = c
  | .rel _ p, ts, hc, hl, h => by
      obtain ⟨u, rfl, hu⟩ := exists_related hc.1 hl.of_append.1
        (exists_partner p hc.2 hl.of_append.2) h
      exact hu ▸ exists_relations_of_unary u
  | .all items, ts, hc, hl, h => by
      obtain ⟨j, rfl, hj⟩ := exists_joined items hc.1 hc.2 hl h
      exact ⟨.mk j .nil, by simp [Relations.tokens, Branches.tokens], hj⟩
  | .choice items, ts, hc, hl, h => exists_choice items hc.1 hc.2 hl h
  | .not item, ts, hc, hl, h => by
      obtain ⟨u, rfl, hu⟩ := exists_negated (exists_unary item hc hl) h
      exact hu ▸ exists_relations_of_unary u
  | .maybe item, ts, hc, hl, h => by
      obtain ⟨u, rfl, hu⟩ := exists_maybe (exists_unary item hc hl) h
      exact hu ▸ exists_relations_of_unary u
theorem exists_unary : (c : Constraint) → {ts : List Token} → c.Proper → AllBare c.literals →
    ts.map Token.word = c.groupedWords → ∃ u : Grammar.Unary, u.tokens = ts ∧ u.constraint = c
  | .rel _ p, _, hc, hl, h =>
      exists_related hc.1 hl.of_append.1 (exists_partner p hc.2 hl.of_append.2) h
  | .all items, _, hc, hl, h => exists_grouped (fun hus => by
      obtain ⟨j, rfl, hj⟩ := exists_joined items hc.1 hc.2 hl hus
      exact ⟨.mk j .nil, by simp [Relations.tokens, Branches.tokens], hj⟩) h
  | .choice items, _, hc, hl, h => exists_grouped (exists_choice items hc.1 hc.2 hl) h
  | .not item, _, hc, hl, h => exists_negated (exists_unary item hc hl) h
  | .maybe item, _, hc, hl, h => exists_maybe (exists_unary item hc hl) h
theorem exists_joined : (items : List Constraint) → {ts : List Token} → 2 ≤ items.length →
    Constraint.ProperAll items → AllBare (Constraint.literalsOf items) →
    ts.map Token.word = (Constraint.groupedWordsOf items).flatten →
    ∃ j : Grammar.Joined, j.tokens = ts ∧ j.constraint = .all items
  | c :: d :: items, ts, _, hitems, hl, h => by
      obtain ⟨us, vs, rfl, hus, hvs⟩ := List.map_eq_append_iff.mp h
      obtain ⟨u, rfl, rfl⟩ := exists_unary c hitems.1 hl.of_append.1 hus
      obtain ⟨m, rfl, hm⟩ := exists_more (d :: items) hitems.2 hl.of_append.2 hvs
      exact ⟨.mk u m, rfl, by rw [Joined.constraint, hm]; rfl⟩
theorem exists_more : (items : List Constraint) → {ts : List Token} →
    Constraint.ProperAll items → AllBare (Constraint.literalsOf items) →
    ts.map Token.word = (Constraint.groupedWordsOf items).flatten →
    ∃ m : Grammar.More, m.tokens = ts ∧ m.constraints = items
  | [], ts, _, _, h => ⟨.nil, (List.map_eq_nil_iff.mp h).symm, rfl⟩
  | c :: items, ts, hitems, hl, h => by
      obtain ⟨us, vs, rfl, hus, hvs⟩ := List.map_eq_append_iff.mp h
      obtain ⟨u, rfl, rfl⟩ := exists_unary c hitems.1 hl.of_append.1 hus
      obtain ⟨m, rfl, rfl⟩ := exists_more items hitems.2 hl.of_append.2 hvs
      exact ⟨.beside u m, rfl, rfl⟩
theorem exists_choice : (items : List Constraint) → {ts : List Token} → 2 ≤ items.length →
    Constraint.ProperAll items → AllBare (Constraint.literalsOf items) →
    ts.map Token.word = List.intercalate [.plain .pipe "|"] (Constraint.groupedWordsOf items) →
    ∃ rs : Grammar.Relations, rs.tokens = ts ∧ rs.constraint = .choice items
  | c :: d :: items, ts, _, hitems, hl, h => by
      rw [Constraint.groupedWordsOf, intercalate_cons] at h
      obtain ⟨us, vs, rfl, hus, hvs⟩ := List.map_eq_append_iff.mp h
      obtain ⟨u, rfl, rfl⟩ := exists_unary c hitems.1 hl.of_append.1 hus
      obtain ⟨b, rfl, hb⟩ := exists_branches (d :: items) hitems.2 hl.of_append.2 hvs
      refine ⟨.mk (.mk u .nil) b, by simp [Relations.tokens, Joined.tokens, More.tokens], ?_⟩
      rw [Relations.constraint, hb]
      rfl
theorem exists_branches : (items : List Constraint) → {ts : List Token} →
    Constraint.ProperAll items → AllBare (Constraint.literalsOf items) →
    ts.map Token.word =
      ((Constraint.groupedWordsOf items).map ([.plain .pipe "|"] ++ ·)).flatten →
    ∃ b : Grammar.Branches, b.tokens = ts ∧ b.constraints = items
  | [], ts, _, _, h => ⟨.nil, (List.map_eq_nil_iff.mp h).symm, rfl⟩
  | c :: items, ts, hitems, hl, h => by
      obtain ⟨bar, us, rfl, _, htail⟩ := exists_token h
      obtain ⟨us, vs, rfl, hus, hvs⟩ := List.map_eq_append_iff.mp htail
      obtain ⟨u, rfl, rfl⟩ := exists_unary c hitems.1 hl.of_append.1 hus
      obtain ⟨b, rfl, rfl⟩ := exists_branches items hitems.2 hl.of_append.2 hvs
      exact ⟨.cons bar (.mk u .nil) b,
        by simp [Branches.tokens, Joined.tokens, More.tokens], rfl⟩
end

theorem exists_node {p : NodePattern} (hp : p.Proper) (hl : AllBare p.literals)
    (h : ts.map Token.word = p.words) : ∃ n : Grammar.Node, n.tokens = ts ∧ n.pattern = p := by
  obtain ⟨label, name, constraint⟩ := p
  cases constraint with
  | none =>
      obtain ⟨head, rfl, rfl, rfl⟩ := exists_head hp hl h
      exact ⟨.headed head .nothing, by simp [Node.tokens, Further.tokens], rfl⟩
  | some c =>
      obtain ⟨us, vs, rfl, hus, hvs⟩ := List.map_eq_append_iff.mp h
      obtain ⟨head, rfl, rfl, rfl⟩ := exists_head hp.1 hl.of_append.1 hus
      obtain ⟨rs, rfl, rfl⟩ := exists_relations c hp.2 hl.of_append.2 hvs
      exact ⟨.headed head (.relations rs), rfl, rfl⟩

/-! ## Reading what has been written -/

theorem read_text {p : NodePattern} (hp : p.Proper) (hl : AllBare p.literals) :
    read p.text = .ok p := by
  obtain ⟨ts, hts, hwords, hshort⟩ := p.scans hp hl 0
  have htokens : tokens p.text = .ok (markSpaces ts) := by rw [tokens, hts]
  rw [read, htokens, ok_bind]
  exact (readTokens_eq_ok_iff p.text hshort p).mpr (exists_node hp hl hwords)

/-- A pattern that has been read is read from its own text, if every label that it names as it is can
stand without quotes and does not describe every label. -/
theorem read_text_of_read {text : String} {p : NodePattern} (h : read text = .ok p)
    (hlabels : ∀ l ∈ p.literals, IsLabel l ∧ l ≠ "__") : read p.text = .ok p :=
  read_text (proper_of_read h) hlabels

/-- A text with brackets around a node, a zero before a number and quotes around a label, none of which
its pattern needs. -/
def roundaboutText : String := "(A <02 /\\//) [< \"B\"|!> __]"

def roundaboutTokens : List Token := [
  ⟨.leftParen, "(", 0, false, false⟩, ⟨.label, "A", 1, false, true⟩,
  ⟨.numbered true "02", "<02", 3, true, true⟩, ⟨.regex, "/", 7, true, true⟩,
  ⟨.rightParen, ")", 11, false, true⟩, ⟨.leftBracket, "[", 13, true, false⟩,
  ⟨.sign (.plain .parentOf), "<", 14, false, true⟩, ⟨.quoted, "B", 16, true, true⟩,
  ⟨.pipe, "|", 19, false, false⟩, ⟨.bang, "!", 20, false, false⟩,
  ⟨.sign (.plain .childOf), ">", 21, false, true⟩, ⟨.label, "__", 23, true, false⟩,
  ⟨.rightBracket, "]", 25, false, true⟩]

/-- A node whose second child has a slash in its label, and which has a child with some label or no
parent. -/
def roundaboutPattern : NodePattern :=
  let slash : Regex := ⟨"/", .char (.code false 47 .exact), 0, [], 1, none⟩
  .node (some ⟨[.literal "A"], false⟩) none (some (.all [
    .rel (.ithChild (some 2)) (.node (some ⟨[.regex slash], false⟩) none none),
    .choice [
      .rel .parentOf (.node (some ⟨[.literal "B"], false⟩) none none),
      .not (.rel .childOf (.node (some ⟨[.any], false⟩) none none))]]))

theorem read_text_of_roundabout : read roundaboutText = .ok roundaboutPattern ∧
    (∀ l ∈ roundaboutPattern.literals, IsLabel l ∧ l ≠ "__") ∧
    roundaboutPattern.text = "A <2 /\\// [< B | !> __]" ∧
    read "A <2 /\\// [< B | !> __]" = .ok roundaboutPattern := by
  have htokens : tokens roundaboutText = .ok roundaboutTokens := by decide +kernel
  have hread : read roundaboutText = .ok roundaboutPattern := by
    rw [read, htokens]
    rfl
  have hlabels : ∀ l ∈ roundaboutPattern.literals, IsLabel l ∧ l ≠ "__" := by decide
  have htext : roundaboutPattern.text = "A <2 /\\// [< B | !> __]" := by decide
  exact ⟨hread, hlabels, htext, htext ▸ read_text_of_read hread hlabels⟩

end Pattern

end Treebank
