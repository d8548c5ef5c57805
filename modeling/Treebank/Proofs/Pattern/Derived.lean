import Treebank.Proofs.Basic
import Treebank.Proofs.Pattern.Grammar
import Treebank.Proofs.Text.Number

/-!
# Derivations of what is read

What the reader takes of some tokens is written by a derivation tree that stands for what it gives
back, and no child number in it has more digits than can be read.
-/

namespace Treebank.Pattern.Grammar

open Text (readNat? isDecimal digitLimit)

variable {text : String} {ts rest : List Token}

/-! ## Numbers -/

/-- A number of a child has no more digits than can be read. -/
def IsShort (t : Token) : Prop :=
  ∀ down digits, t.form = .numbered down digits → digits.toList.countP isDecimal ≤ digitLimit

theorem isShort_of {f : Form} (t : TokenOf f) (hf : ∀ down digits, f ≠ .numbered down digits) :
    IsShort t.val :=
  fun down digits h => absurd (t.property.symm.trans h) (hf down digits)

theorem readNat?_of_readNat {cs ds : List Char} {n : Nat} (h : Text.readNat cs ds = .ok n) :
    readNat? ds = some n := by
  simp only [Text.readNat] at h
  split at h
  · cases h
  · split at h
    · rename_i hread
      rw [hread, Except.ok.inj h]
    · cases h

theorem childIndex?_of_readInt : {cs : List Char} → {i : Int} → Text.readInt cs = .ok i →
    childIndex? cs = some i
  | [], i, h => by cases h
  | c :: ds, i, h => by
      by_cases hc : c = '-'
      · subst hc
        obtain ⟨m, hm, rfl⟩ := exists_of_map_eq_ok h
        obtain ⟨n, hn, rfl⟩ := exists_of_map_eq_ok hm
        simp [childIndex?, readNat?_of_readNat hn]
      · have h : (Text.readNat (c :: ds) (c :: ds)).map Int.ofNat = .ok i := by
          simpa [Text.readInt, hc] using h
        obtain ⟨n, hn, rfl⟩ := exists_of_map_eq_ok h
        simp [childIndex?, hc, readNat?_of_readNat hn]

/-- Where all of a number is read, its digits are those at its beginning. -/
theorem countP_le_of_readNat {cs ds : List Char} {n : Nat} (h : Text.readNat cs ds = .ok n) :
    ds.countP isDecimal ≤ digitLimit := by
  have hall := List.all_eq_true.mp (Text.all_isDecimal_of_readNat? (readNat?_of_readNat h))
  simp only [Text.readNat] at h
  split at h
  · cases h
  · rename_i hcount
    rw [List.takeWhile_eq_self_iff.mpr hall] at hcount
    exact Nat.le_trans List.countP_le_length (Nat.le_of_not_lt hcount)

theorem countP_le_of_readInt : {cs : List Char} → {i : Int} → Text.readInt cs = .ok i →
    cs.countP isDecimal ≤ digitLimit
  | [], i, h => by cases h
  | c :: ds, i, h => by
      by_cases hc : c = '-'
      · subst hc
        obtain ⟨m, hm, rfl⟩ := exists_of_map_eq_ok h
        obtain ⟨n, hn, rfl⟩ := exists_of_map_eq_ok hm
        rw [List.countP_cons_of_neg (by decide)]
        exact countP_le_of_readNat hn
      · have h : (Text.readNat (c :: ds) (c :: ds)).map Int.ofNat = .ok i := by
          simpa [Text.readInt, hc] using h
        obtain ⟨n, hn, rfl⟩ := exists_of_map_eq_ok h
        exact countP_le_of_readNat hn

/-! ## Heads -/

theorem exists_of_nextIs {f : Form} (h : nextIs f ts = true) :
    ∃ t : TokenOf f, ts = t.val :: ts.tail := by
  cases ts with
  | nil => cases h
  | cons t ts => exact ⟨⟨t, eq_of_beq h⟩, rfl⟩

theorem exists_of_expect {f : Form} {what : String} {t : Token}
    (h : expect text f what ts = .ok (t, rest)) : ∃ u : TokenOf f, u.val = t ∧ ts = u.val :: rest := by
  cases ts with
  | nil => cases h
  | cons u us =>
      simp only [expect] at h
      split at h
      · rename_i hform
        cases h
        exact ⟨⟨t, eq_of_beq hform⟩, rfl, rfl⟩
      · cases h

theorem derived_atom {a : LabelAtom} (h : readAtom text ts = .ok (a, rest)) :
    ∃ d : Atom, ts = d.tokens ++ rest ∧ d.condition = a := by
  cases ts with
  | nil => cases h
  | cons t ts =>
      simp only [readAtom] at h
      split at h
      · rename_i hform
        cases h
        exact ⟨.label ⟨t, hform⟩, rfl, rfl⟩
      · rename_i hform
        cases h
        exact ⟨.quoted ⟨t, hform⟩, rfl, rfl⟩
      · rename_i hform
        obtain ⟨r, hr, h⟩ := exists_of_bind_eq_ok h
        cases h
        refine ⟨.regex ⟨t, hform⟩ r ?_, rfl, rfl⟩
        rw [readRegex] at hr
        split at hr
        · rename_i hparse
          rw [← Except.ok.inj hr]
          exact hparse
        · cases hr
        · cases hr
      · rename_i hform
        obtain ⟨⟨name, us⟩, hname, h⟩ := exists_of_bind_eq_ok h
        cases h
        obtain ⟨name, rfl, rfl⟩ := exists_of_expect hname
        exact ⟨.category ⟨t, hform⟩ name, rfl, rfl⟩
      · cases h

theorem derived_moreAtoms : (fuel : Nat) → {ts rest : List Token} → {as : List LabelAtom} →
    readMoreAtoms text fuel ts = .ok (as, rest) →
    ∃ others : List (TightBar × Atom), ts = tokensOfOthers others ++ rest ∧
      others.map (·.2.condition) = as
  | 0, ts, rest, as, h => by
      cases h
      exact ⟨[], rfl, rfl⟩
  | fuel + 1, [], rest, as, h => by
      cases h
      exact ⟨[], rfl, rfl⟩
  | fuel + 1, [t], rest, as, h => by
      cases h
      exact ⟨[], rfl, rfl⟩
  | fuel + 1, t :: u :: us, rest, as, h => by
      rw [readMoreAtoms] at h
      split at h
      · rename_i hjoins
        simp only [Bool.and_eq_true, beq_iff_eq, Bool.not_eq_true'] at hjoins
        obtain ⟨⟨⟨hform, hbefore⟩, hafter⟩, _⟩ := hjoins
        obtain ⟨⟨a, ts₁⟩, ha, h⟩ := exists_of_bind_eq_ok h
        obtain ⟨⟨as, ts₂⟩, has, h⟩ := exists_of_bind_eq_ok h
        cases h
        obtain ⟨d, hd, rfl⟩ := derived_atom ha
        obtain ⟨others, rfl, rfl⟩ := derived_moreAtoms fuel has
        refine ⟨(⟨t, hform, hbefore, hafter⟩, d) :: others, ?_, rfl⟩
        rw [hd]
        simp [tokensOfOthers]
      · cases h
        exact ⟨[], rfl, rfl⟩

/-- The conditions of a description after the exclamation mark, if there is one. -/
theorem derived_conditions (text : String) {d : Description} (bang : Option (TokenOf .bang))
    (h : (do
      let (atom, us) ← readAtom text ts
      let (atoms, us) ← readMoreAtoms text us.length us
      return ((⟨atom :: atoms, bang.isSome⟩ : Description), us)) = .ok (d, rest)) :
    ∃ a : Alternatives, bang.toList.map (·.val) ++ ts = a.tokens ++ rest ∧ a.description = d := by
  obtain ⟨⟨a, us₁⟩, ha, h⟩ := exists_of_bind_eq_ok h
  obtain ⟨⟨as, us₂⟩, has, h⟩ := exists_of_bind_eq_ok h
  cases h
  obtain ⟨first, rfl, rfl⟩ := derived_atom ha
  obtain ⟨others, rfl, rfl⟩ := derived_moreAtoms _ has
  exact ⟨⟨bang, first, others⟩, by simp [Alternatives.tokens], rfl⟩

theorem derived_description {d : Description} (h : readDescription text ts = .ok (d, rest)) :
    ∃ a : Alternatives, ts = a.tokens ++ rest ∧ a.description = d := by
  cases ts with
  | nil => exact derived_conditions text none h
  | cons t us =>
      by_cases hform : t.form = .bang
      · refine derived_conditions text (some ⟨t, hform⟩) ?_
        simpa [readDescription, hform] using h
      · refine derived_conditions text none ?_
        simpa [readDescription, hform] using h

theorem derived_head {label : Option Description} {name : Option String}
    (h : readHead text ts = .ok ((label, name), rest)) :
    ∃ d : Head, ts = d.tokens ++ rest ∧ d.label? = label ∧ d.name? = name := by
  cases ts with
  | nil => cases h
  | cons t us =>
      rw [readHead] at h
      split at h
      · rename_i hform
        cases h
        exact ⟨.named ⟨t, eq_of_beq hform⟩, rfl, rfl, rfl⟩
      · obtain ⟨⟨d, vs⟩, hd, h⟩ := exists_of_bind_eq_ok h
        obtain ⟨a, ha, rfl⟩ := derived_description hd
        cases vs with
        | nil =>
            cases h
            exact ⟨.described a none, by simpa [Head.tokens] using ha, rfl, rfl⟩
        | cons u vs =>
            by_cases hform : u.form = .name
            · have hname : readName? (u :: vs) = (some u.text, vs) := by simp [readName?, hform]
              simp only [hname] at h
              cases h
              exact ⟨.described a (some ⟨u, hform⟩), by simpa [Head.tokens] using ha, rfl, rfl⟩
            · have hname : readName? (u :: vs) = (none, u :: vs) := by simp [readName?, hform]
              simp only [hname] at h
              cases h
              exact ⟨.described a none, by simpa [Head.tokens] using ha, rfl, rfl⟩

/-! ## Signs -/

theorem Atom.isShort (a : Atom) : ∀ t ∈ a.tokens, IsShort t := by
  cases a with
  | label t => exact List.forall_mem_singleton.mpr (isShort_of t nofun)
  | quoted t => exact List.forall_mem_singleton.mpr (isShort_of t nofun)
  | regex t r h => exact List.forall_mem_singleton.mpr (isShort_of t nofun)
  | category sign name =>
      exact List.forall_mem_cons.mpr
        ⟨isShort_of sign nofun, List.forall_mem_singleton.mpr (isShort_of name nofun)⟩

theorem Alternatives.isShort (d : Alternatives) : ∀ t ∈ d.tokens, IsShort t := by
  obtain ⟨bang, first, others⟩ := d
  simp only [Alternatives.tokens, List.forall_mem_append, tokensOfOthers]
  refine ⟨fun t ht => ?_, first.isShort, fun t ht => ?_⟩
  · obtain ⟨b, _, rfl⟩ := List.mem_map.mp ht
    exact isShort_of b nofun
  · obtain ⟨⟨bar, a⟩, _, ht⟩ := List.mem_flatMap.mp ht
    rcases List.mem_cons.mp ht with rfl | ht
    · exact isShort_of ⟨bar.val, bar.property.1⟩ nofun
    · exact a.isShort t ht

theorem Head.isShort (d : Head) : ∀ t ∈ d.tokens, IsShort t := by
  cases d with
  | named name => exact List.forall_mem_singleton.mpr (isShort_of name nofun)
  | described label name =>
      refine List.forall_mem_append.mpr ⟨label.isShort, fun t ht => ?_⟩
      obtain ⟨n, _, rfl⟩ := List.mem_map.mp ht
      exact isShort_of n nofun

theorem derived_sign {t : Token} {r : Relation}
    (h : readRelation text t ts = some (.ok (r, rest))) :
    ∃ s : Sign, t :: ts = s.tokens ++ rest ∧ s.relation = r ∧ ∀ t ∈ s.tokens, IsShort t := by
  rw [readRelation] at h
  split at h
  · rename_i down digits hform
    have h := Option.some.inj h
    split at h
    · cases h
    · rename_i i hread
      split at h
      · cases h
      · rename_i hzero
        have hne : i ≠ 0 := fun hi => hzero (by rw [hi]; rfl)
        obtain ⟨rfl, rfl⟩ := Prod.mk.inj (Except.ok.inj h)
        refine ⟨.numbered t down digits hform i (childIndex?_of_readInt hread) hne, rfl, rfl,
          List.forall_mem_singleton.mpr fun down' digits' hform' => ?_⟩
        cases hform.symm.trans hform'
        exact countP_le_of_readInt hread
  · rename_i r' hform
    obtain ⟨rfl, rfl⟩ := Prod.mk.inj (Except.ok.inj (Option.some.inj h))
    exact ⟨.plain t r' hform, rfl, rfl,
      List.forall_mem_singleton.mpr (isShort_of ⟨t, hform⟩ nofun)⟩
  · rename_i s hplain hform
    obtain ⟨⟨opening, us⟩, hopening, h⟩ := exists_of_bind_eq_ok (Option.some.inj h)
    obtain ⟨⟨d, vs⟩, hd, h⟩ := exists_of_bind_eq_ok h
    obtain ⟨⟨closing, ws⟩, hclosing, h⟩ := exists_of_bind_eq_ok h
    cases h
    obtain ⟨opening, rfl, rfl⟩ := exists_of_expect hopening
    obtain ⟨a, rfl, rfl⟩ := derived_description hd
    obtain ⟨closing, rfl, rfl⟩ := exists_of_expect hclosing
    have hdown : s = if s == .down then .down else .up := by
      cases s with
      | plain r' => exact (hplain r' rfl).elim
      | down => rfl
      | up => rfl
    refine ⟨.via t (s == .down) (by rw [← hdown]; exact hform) opening a closing, ?_, rfl, ?_⟩
    · simp [Sign.tokens]
    · simp only [Sign.tokens, List.forall_mem_cons, List.forall_mem_append]
      exact ⟨isShort_of ⟨t, hform⟩ nofun, isShort_of opening nofun, a.isShort,
        isShort_of closing nofun, List.forall_mem_nil _⟩
  · cases h

/-! ## Nodes and relations -/

mutual
theorem derived_node : (fuel : Nat) → {ts rest : List Token} → {p : NodePattern} →
    readNode text fuel ts = .ok (p, rest) →
    ∃ n : Node, ts = n.tokens ++ rest ∧ n.pattern = p ∧ ∀ t ∈ n.tokens, IsShort t
  | 0, _, _, _, h => by cases h
  | fuel + 1, ts, rest, p, h => by
      rw [readNode] at h
      split at h
      · rename_i hparen
        obtain ⟨opening, hts⟩ := exists_of_nextIs hparen
        obtain ⟨⟨q, ts₁⟩, hq, h⟩ := exists_of_bind_eq_ok h
        obtain ⟨⟨t, ts₂⟩, ht, h⟩ := exists_of_bind_eq_ok h
        obtain ⟨⟨extra, ts₃⟩, hextra, h⟩ := exists_of_bind_eq_ok h
        cases h
        obtain ⟨inner, hinner, rfl, hshort⟩ := derived_node fuel hq
        obtain ⟨closing, _, rfl⟩ := exists_of_expect ht
        obtain ⟨further, rfl, rfl, hfurther⟩ := derived_further fuel hextra
        refine ⟨.bracketed opening inner closing further, ?_, rfl, ?_⟩
        · rw [hts, hinner]
          simp [Node.tokens]
        · simp only [Node.tokens, List.forall_mem_cons, List.forall_mem_append]
          exact ⟨isShort_of opening nofun, hshort, isShort_of closing nofun, hfurther⟩
      · obtain ⟨⟨⟨label, name⟩, ts₁⟩, hhead, h⟩ := exists_of_bind_eq_ok h
        obtain ⟨⟨extra, ts₂⟩, hextra, h⟩ := exists_of_bind_eq_ok h
        cases h
        obtain ⟨head, rfl, rfl, rfl⟩ := derived_head hhead
        obtain ⟨further, rfl, rfl, hfurther⟩ := derived_further fuel hextra
        exact ⟨.headed head further, by simp [Node.tokens], rfl,
          List.forall_mem_append.mpr ⟨head.isShort, hfurther⟩⟩
theorem derived_further : (fuel : Nat) → {ts rest : List Token} → {c : Option Constraint} →
    readRelations? text fuel ts = .ok (c, rest) →
    ∃ r : Further, ts = r.tokens ++ rest ∧ r.constraint? = c ∧ ∀ t ∈ r.tokens, IsShort t
  | 0, _, _, _, h => by
      cases h
      exact ⟨.nothing, rfl, rfl, List.forall_mem_nil _⟩
  | fuel + 1, ts, rest, c, h => by
      rw [readRelations?] at h
      split at h
      · obtain ⟨⟨c, ts₁⟩, hc, h⟩ := exists_of_bind_eq_ok h
        cases h
        obtain ⟨rs, rfl, rfl, hrs⟩ := derived_relations fuel hc
        exact ⟨.relations rs, rfl, rfl, hrs⟩
      · cases h
        exact ⟨.nothing, rfl, rfl, List.forall_mem_nil _⟩
theorem derived_relations : (fuel : Nat) → {ts rest : List Token} → {c : Constraint} →
    readRelations text fuel ts = .ok (c, rest) →
    ∃ rs : Relations, ts = rs.tokens ++ rest ∧ rs.constraint = c ∧ ∀ t ∈ rs.tokens, IsShort t
  | 0, _, _, _, h => by cases h
  | fuel + 1, ts, rest, c, h => by
      rw [readRelations] at h
      obtain ⟨⟨c, ts₁⟩, hc, h⟩ := exists_of_bind_eq_ok h
      obtain ⟨⟨cs, ts₂⟩, hcs, h⟩ := exists_of_bind_eq_ok h
      cases h
      obtain ⟨first, rfl, rfl, hfirst⟩ := derived_joined fuel hc
      obtain ⟨others, rfl, rfl, hothers⟩ := derived_branches fuel hcs
      exact ⟨.mk first others, by simp [Relations.tokens], rfl,
        List.forall_mem_append.mpr ⟨hfirst, hothers⟩⟩
theorem derived_branches : (fuel : Nat) → {ts rest : List Token} → {cs : List Constraint} →
    readBranches text fuel ts = .ok (cs, rest) →
    ∃ b : Branches, ts = b.tokens ++ rest ∧ b.constraints = cs ∧ ∀ t ∈ b.tokens, IsShort t
  | 0, _, _, _, h => by
      cases h
      exact ⟨.nil, rfl, rfl, List.forall_mem_nil _⟩
  | fuel + 1, ts, rest, cs, h => by
      rw [readBranches] at h
      split at h
      · rename_i hpipe
        obtain ⟨bar, hts⟩ := exists_of_nextIs hpipe
        obtain ⟨⟨c, ts₁⟩, hc, h⟩ := exists_of_bind_eq_ok h
        obtain ⟨⟨cs, ts₂⟩, hcs, h⟩ := exists_of_bind_eq_ok h
        cases h
        obtain ⟨branch, hbranch, rfl, hshort⟩ := derived_joined fuel hc
        obtain ⟨others, rfl, rfl, hothers⟩ := derived_branches fuel hcs
        refine ⟨.cons bar branch others, ?_, rfl, ?_⟩
        · rw [hts, hbranch]
          simp [Branches.tokens]
        · simp only [Branches.tokens, List.forall_mem_cons, List.forall_mem_append]
          exact ⟨isShort_of bar nofun, hshort, hothers⟩
      · cases h
        exact ⟨.nil, rfl, rfl, List.forall_mem_nil _⟩
theorem derived_joined : (fuel : Nat) → {ts rest : List Token} → {c : Constraint} →
    readJoined text fuel ts = .ok (c, rest) →
    ∃ j : Joined, ts = j.tokens ++ rest ∧ j.constraint = c ∧ ∀ t ∈ j.tokens, IsShort t
  | 0, _, _, _, h => by cases h
  | fuel + 1, ts, rest, c, h => by
      rw [readJoined] at h
      split at h
      · cases h
      · obtain ⟨⟨c, ts₁⟩, hc, h⟩ := exists_of_bind_eq_ok h
        obtain ⟨⟨cs, ts₂⟩, hcs, h⟩ := exists_of_bind_eq_ok h
        cases h
        obtain ⟨first, rfl, rfl, hfirst⟩ := derived_unary fuel hc
        obtain ⟨others, rfl, rfl, hothers⟩ := derived_more fuel hcs
        exact ⟨.mk first others, by simp [Joined.tokens], rfl,
          List.forall_mem_append.mpr ⟨hfirst, hothers⟩⟩
theorem derived_more : (fuel : Nat) → {ts rest : List Token} → {cs : List Constraint} →
    readMore text fuel ts = .ok (cs, rest) →
    ∃ m : More, ts = m.tokens ++ rest ∧ m.constraints = cs ∧ ∀ t ∈ m.tokens, IsShort t
  | 0, _, _, _, h => by
      cases h
      exact ⟨.nil, rfl, rfl, List.forall_mem_nil _⟩
  | fuel + 1, ts, rest, cs, h => by
      rw [readMore] at h
      split at h
      · obtain ⟨⟨c, ts₁⟩, hc, h⟩ := exists_of_bind_eq_ok h
        obtain ⟨⟨cs, ts₂⟩, hcs, h⟩ := exists_of_bind_eq_ok h
        cases h
        obtain ⟨u, hu, rfl, hshort⟩ := derived_unary fuel hc
        obtain ⟨others, rfl, rfl, hothers⟩ := derived_more fuel hcs
        split at hu
        · rename_i hampersand
          obtain ⟨ampersand, hts⟩ := exists_of_nextIs hampersand
          refine ⟨.joined ampersand u others, ?_, rfl, ?_⟩
          · rw [hts, hu]
            simp [More.tokens]
          · simp only [More.tokens, List.forall_mem_cons, List.forall_mem_append]
            exact ⟨isShort_of ampersand nofun, hshort, hothers⟩
        · exact ⟨.beside u others, by simp [More.tokens, hu], rfl,
            List.forall_mem_append.mpr ⟨hshort, hothers⟩⟩
      · cases h
        exact ⟨.nil, rfl, rfl, List.forall_mem_nil _⟩
theorem derived_unary : (fuel : Nat) → {ts rest : List Token} → {c : Constraint} →
    readUnary text fuel ts = .ok (c, rest) →
    ∃ u : Unary, ts = u.tokens ++ rest ∧ u.constraint = c ∧ ∀ t ∈ u.tokens, IsShort t
  | 0, _, _, _, h => by cases h
  | fuel + 1, [], rest, c, h => by cases h
  | fuel + 1, t :: ts, rest, c, h => by
      rw [readUnary] at h
      split at h
      · rename_i hform
        obtain ⟨⟨c, ts₁⟩, hc, h⟩ := exists_of_bind_eq_ok h
        cases h
        obtain ⟨u, rfl, rfl, hshort⟩ := derived_unary fuel hc
        exact ⟨.negated ⟨t, hform⟩ u, rfl, rfl,
          List.forall_mem_cons.mpr ⟨isShort_of ⟨t, hform⟩ nofun, hshort⟩⟩
      · rename_i hform
        obtain ⟨⟨c, ts₁⟩, hc, h⟩ := exists_of_bind_eq_ok h
        cases h
        obtain ⟨u, rfl, rfl, hshort⟩ := derived_unary fuel hc
        exact ⟨.maybe ⟨t, hform⟩ u, rfl, rfl,
          List.forall_mem_cons.mpr ⟨isShort_of ⟨t, hform⟩ nofun, hshort⟩⟩
      · rename_i hform
        obtain ⟨⟨c, ts₁⟩, hc, h⟩ := exists_of_bind_eq_ok h
        obtain ⟨⟨closing, ts₂⟩, hclosing, h⟩ := exists_of_bind_eq_ok h
        cases h
        obtain ⟨rs, rfl, rfl, hshort⟩ := derived_relations fuel hc
        obtain ⟨closing, _, rfl⟩ := exists_of_expect hclosing
        refine ⟨.grouped ⟨t, hform⟩ rs closing, by simp [Unary.tokens], rfl, ?_⟩
        simp only [Unary.tokens, List.forall_mem_cons, List.forall_mem_append]
        exact ⟨isShort_of ⟨t, hform⟩ nofun, hshort, isShort_of closing nofun, List.forall_mem_nil _⟩
      · split at h
        · cases h
        · rename_i found hfound
          obtain ⟨⟨r, ts₁⟩, hr, h⟩ := exists_of_bind_eq_ok h
          obtain ⟨⟨p, ts₂⟩, hp, h⟩ := exists_of_bind_eq_ok h
          cases h
          rw [hr] at hfound
          obtain ⟨sign, hsign, rfl, hshort⟩ := derived_sign hfound
          obtain ⟨partner, rfl, rfl, hpartner⟩ := derived_partner fuel hp
          exact ⟨.related sign partner, by simp [Unary.tokens, hsign], rfl,
            List.forall_mem_append.mpr ⟨hshort, hpartner⟩⟩
theorem derived_partner : (fuel : Nat) → {ts rest : List Token} → {p : NodePattern} →
    readPartner text fuel ts = .ok (p, rest) →
    ∃ d : Partner, ts = d.tokens ++ rest ∧ d.pattern = p ∧ ∀ t ∈ d.tokens, IsShort t
  | 0, _, _, _, h => by cases h
  | fuel + 1, ts, rest, p, h => by
      rw [readPartner] at h
      split at h
      · rename_i hparen
        obtain ⟨opening, hts⟩ := exists_of_nextIs hparen
        obtain ⟨⟨q, ts₁⟩, hq, h⟩ := exists_of_bind_eq_ok h
        obtain ⟨⟨t, ts₂⟩, ht, h⟩ := exists_of_bind_eq_ok h
        cases h
        obtain ⟨inner, hinner, rfl, hshort⟩ := derived_node fuel hq
        obtain ⟨closing, _, rfl⟩ := exists_of_expect ht
        refine ⟨.bracketed opening inner closing, ?_, rfl, ?_⟩
        · rw [hts, hinner]
          simp [Partner.tokens]
        · simp only [Partner.tokens, List.forall_mem_cons, List.forall_mem_append]
          exact ⟨isShort_of opening nofun, hshort, isShort_of closing nofun, List.forall_mem_nil _⟩
      · obtain ⟨⟨⟨label, name⟩, ts₁⟩, hhead, h⟩ := exists_of_bind_eq_ok h
        cases h
        obtain ⟨head, rfl, rfl, rfl⟩ := derived_head hhead
        exact ⟨.headed head, rfl, rfl, head.isShort⟩
end

/-- Tokens that are read are written by a derivation tree, and their child numbers do not have too many
digits. -/
theorem derived_tokens {p : NodePattern} (h : readTokens text ts = .ok p) :
    ∃ n : Node, n.tokens = ts ∧ n.pattern = p ∧ ∀ t ∈ ts, IsShort t := by
  rw [readTokens] at h
  split at h
  · cases h
  · obtain ⟨⟨q, rest⟩, hread, h⟩ := exists_of_bind_eq_ok h
    obtain ⟨n, hn, rfl, hshort⟩ := derived_node _ hread
    simp only at h
    split at h
    · rename_i hrest
      cases h
      rw [List.isEmpty_iff.mp hrest, List.append_nil] at hn
      exact ⟨n, hn.symm, rfl, hn ▸ hshort⟩
    · cases h

end Treebank.Pattern.Grammar
