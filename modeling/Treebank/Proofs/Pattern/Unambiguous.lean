import Treebank.Proofs.Pattern.Grammar

/-!
# One derivation for tokens

Two derivation trees that write the same tokens, each before others where it can end, are the same
tree.
-/

namespace Treebank.Pattern.Grammar

variable {ts ts' us : List Token}

/-- A test of the tokens that come next tells two parts of a tree apart. -/
theorem false_of_test {test : List Token → Bool} (hts : test ts = false) (hus : test us = true)
    (h : ts = us) : False := by
  rw [h, hus] at hts
  cases hts

theorem false_of_first {opens : Form → Bool} {f : Form} (t : TokenOf f)
    (hus : BeginsWith opens us) (hf : opens f = false) (h : t.val :: ts = us ++ ts') : False :=
  false_of_test ((hus.append ts').nextIs_eq_false hf) (nextIs_of t ts) h.symm

/-! ## Heads and signs -/

theorem Atom.cancel (a b : Atom) (h : a.tokens ++ ts = b.tokens ++ ts') : a = b ∧ ts = ts' := by
  have hform : a.form = b.form := by
    obtain ⟨t, us, ha, ht⟩ := a.exists_cons
    obtain ⟨u, vs, hb, hu⟩ := b.exists_cons
    rw [ha, hb, List.cons_append, List.cons_append] at h
    rw [← ht, ← hu, (List.cons.inj h).1]
  cases a with
  | label t =>
      cases b with
      | label u =>
          obtain ⟨htu, hts⟩ := List.cons.inj h
          exact ⟨congrArg _ (Subtype.ext htu), hts⟩
      | _ => cases hform
  | quoted t =>
      cases b with
      | quoted u =>
          obtain ⟨htu, hts⟩ := List.cons.inj h
          exact ⟨congrArg _ (Subtype.ext htu), hts⟩
      | _ => cases hform
  | regex t r hr =>
      cases b with
      | regex u s hs =>
          obtain ⟨htu, hts⟩ := List.cons.inj h
          obtain rfl := Subtype.ext htu
          obtain rfl := Except.ok.inj (hr.symm.trans hs)
          exact ⟨rfl, hts⟩
      | _ => cases hform
  | category sign name =>
      cases b with
      | category sign' name' =>
          obtain ⟨hsign, h⟩ := List.cons.inj h
          obtain ⟨hname, hts⟩ := List.cons.inj h
          rw [Subtype.ext hsign, Subtype.ext hname]
          exact ⟨rfl, hts⟩
      | _ => cases hform

theorem joinsAtom_tokensOfOthers (bar : TightBar) (a : Atom) (others : List (TightBar × Atom))
    (ts : List Token) : joinsAtom (tokensOfOthers ((bar, a) :: others) ++ ts) = true := by
  obtain ⟨t, us, ha, ht⟩ := a.beginsWith
  obtain ⟨bar, hpipe, hbefore, hafter⟩ := bar
  simp [tokensOfOthers, ha, joinsAtom, hpipe, hbefore, hafter, opensAtom_eq, ht]

theorem cancel_others (as bs : List (TightBar × Atom)) (hts : joinsAtom ts = false)
    (hts' : joinsAtom ts' = false) (h : tokensOfOthers as ++ ts = tokensOfOthers bs ++ ts') :
    as = bs ∧ ts = ts' := by
  induction as generalizing bs with
  | nil =>
      cases bs with
      | nil => exact ⟨rfl, h⟩
      | cons b bs => exact (false_of_test hts (joinsAtom_tokensOfOthers b.1 b.2 bs ts') h).elim
  | cons a as ih =>
      cases bs with
      | nil => exact (false_of_test hts' (joinsAtom_tokensOfOthers a.1 a.2 as ts) h.symm).elim
      | cons b bs =>
          simp only [tokensOfOthers, List.flatMap_cons, List.cons_append, List.append_assoc] at h
          obtain ⟨hbar, h⟩ := List.cons.inj h
          obtain ⟨hatom, h⟩ := Atom.cancel a.2 b.2 h
          obtain ⟨rfl, rfl⟩ := ih bs h
          rw [show a = b from Prod.ext (Subtype.ext hbar) hatom]
          exact ⟨rfl, rfl⟩

theorem Alternatives.cancel (d e : Alternatives) (hts : joinsAtom ts = false)
    (hts' : joinsAtom ts' = false) (h : d.tokens ++ ts = e.tokens ++ ts') : d = e ∧ ts = ts' := by
  obtain ⟨bang, first, others⟩ := d
  obtain ⟨bang', first', others'⟩ := e
  have hrest {us us' : List Token} (h : first.tokens ++ (tokensOfOthers others ++ us) =
      first'.tokens ++ (tokensOfOthers others' ++ us')) (hus : joinsAtom us = false)
      (hus' : joinsAtom us' = false) : first = first' ∧ others = others' ∧ us = us' := by
    obtain ⟨hfirst, h⟩ := Atom.cancel first first' h
    obtain ⟨hothers, h⟩ := cancel_others others others' hus hus' h
    exact ⟨hfirst, hothers, h⟩
  simp only [tokens, List.append_assoc] at h
  cases bang with
  | none =>
      cases bang' with
      | none =>
          obtain ⟨rfl, rfl, rfl⟩ := hrest h hts hts'
          exact ⟨rfl, rfl⟩
      | some b => exact (false_of_first b first.beginsWith rfl h.symm).elim
  | some b =>
      cases bang' with
      | none => exact (false_of_first b first'.beginsWith rfl h).elim
      | some b' =>
          obtain ⟨hb, h⟩ := List.cons.inj h
          obtain ⟨rfl, rfl, rfl⟩ := hrest h hts hts'
          rw [Subtype.ext hb]
          exact ⟨rfl, rfl⟩

/-- An optional name ends the head if no name comes next. -/
theorem cancel_name (name name' : Option (TokenOf .name)) (hts : nextIs .name ts = false)
    (hts' : nextIs .name ts' = false)
    (h : name.toList.map (·.val) ++ ts = name'.toList.map (·.val) ++ ts') :
    name = name' ∧ ts = ts' := by
  cases name with
  | none =>
      cases name' with
      | none => exact ⟨rfl, h⟩
      | some n => exact (false_of_test hts (nextIs_of n ts') h).elim
  | some n =>
      cases name' with
      | none => exact (false_of_test hts' (nextIs_of n ts) h.symm).elim
      | some n' =>
          obtain ⟨hn, hts⟩ := List.cons.inj h
          exact ⟨congrArg some (Subtype.ext hn), hts⟩

theorem joinsAtom_name (name : Option (TokenOf .name)) (h : joinsAtom ts = false) :
    joinsAtom (name.toList.map (·.val) ++ ts) = false := by
  cases name with
  | none => exact h
  | some n => exact joinsAtom_of_form (by rw [n.property]; nofun)

theorem Head.cancel (d e : Head) (hts : EndsHead ts) (hts' : EndsHead ts')
    (h : d.tokens ++ ts = e.tokens ++ ts') : d = e ∧ ts = ts' := by
  cases d with
  | named n =>
      cases e with
      | named n' =>
          obtain ⟨hn, hts⟩ := List.cons.inj h
          exact ⟨congrArg _ (Subtype.ext hn), hts⟩
      | described label' name' =>
          rw [tokens, tokens, List.append_assoc] at h
          exact (false_of_first n label'.beginsWith rfl h).elim
  | described label name =>
      cases e with
      | named n' =>
          rw [tokens, tokens, List.append_assoc] at h
          exact (false_of_first n' label.beginsWith rfl h.symm).elim
      | described label' name' =>
          rw [tokens, tokens, List.append_assoc, List.append_assoc] at h
          obtain ⟨rfl, hname⟩ := Alternatives.cancel label label' (joinsAtom_name name hts.apart)
            (joinsAtom_name name' hts'.apart) h
          obtain ⟨rfl, rfl⟩ := cancel_name name name' hts.unnamed hts'.unnamed hname
          exact ⟨rfl, rfl⟩

theorem Sign.cancel (s s' : Sign) (h : s.tokens ++ ts = s'.tokens ++ ts') : s = s' ∧ ts = ts' := by
  have hdown (down : Bool) (r : Relation) :
      RelationSign.plain r ≠ if down then .down else .up := by cases down <;> nofun
  -- the first token is the same, and its form tells the three kinds of signs apart
  cases s with
  | plain t r hr =>
      cases s' with
      | plain t' r' hr' =>
          obtain ⟨rfl, hts⟩ := List.cons.inj h
          obtain rfl : r = r' := by simpa using hr.symm.trans hr'
          exact ⟨rfl, hts⟩
      | numbered t' down' digits' hr' i' hi' hne' =>
          obtain ⟨rfl, hts⟩ := List.cons.inj h
          exact absurd (hr.symm.trans hr') nofun
      | via t' down' hr' opening' d' closing' =>
          obtain ⟨rfl, hts⟩ := List.cons.inj h
          exact absurd (Form.sign.inj (hr.symm.trans hr')) (hdown _ _)
  | numbered t down digits hr i hi hne =>
      cases s' with
      | plain t' r' hr' =>
          obtain ⟨rfl, hts⟩ := List.cons.inj h
          exact absurd (hr.symm.trans hr') nofun
      | numbered t' down' digits' hr' i' hi' hne' =>
          obtain ⟨rfl, hts⟩ := List.cons.inj h
          obtain ⟨rfl, rfl⟩ : down = down' ∧ digits = digits' := by simpa using hr.symm.trans hr'
          obtain rfl := Option.some.inj (hi.symm.trans hi')
          exact ⟨rfl, hts⟩
      | via t' down' hr' opening' d' closing' =>
          obtain ⟨rfl, hts⟩ := List.cons.inj h
          exact absurd (hr.symm.trans hr') nofun
  | via t down hr opening d closing =>
      cases s' with
      | plain t' r' hr' =>
          obtain ⟨rfl, hts⟩ := List.cons.inj h
          exact absurd (Form.sign.inj (hr'.symm.trans hr)) (hdown _ _)
      | numbered t' down' digits' hr' i' hi' hne' =>
          obtain ⟨rfl, hts⟩ := List.cons.inj h
          exact absurd (hr.symm.trans hr') nofun
      | via t' down' hr' opening' d' closing' =>
          simp only [tokens, List.cons_append, List.append_assoc, List.nil_append] at h
          obtain ⟨rfl, hrest⟩ := List.cons.inj h
          obtain ⟨hopening, hvia⟩ := List.cons.inj hrest
          obtain ⟨rfl, hend⟩ := Alternatives.cancel d d' (endsNode_rightParen closing _).apart
            (endsNode_rightParen closing' _).apart hvia
          obtain ⟨hclosing, hts⟩ := List.cons.inj hend
          obtain rfl := Subtype.ext hopening
          obtain rfl := Subtype.ext hclosing
          obtain rfl : down = down' := by
            have hsigns := Form.sign.inj (hr.symm.trans hr')
            cases down <;> cases down' <;> first | rfl | cases hsigns
          exact ⟨rfl, hts⟩

/-! ## Nodes and relations

The induction is on the first tree; what follows a part of it is known from its place in the tree, so
the other tree cannot end that part earlier or later. -/

/-- Which rule derives the relation. -/
def Unary.kind : Unary → Nat
  | negated _ _ => 0
  | maybe _ _ => 1
  | grouped _ _ _ => 2
  | related _ _ => 3

/-- The rule that derives a relation beginning with a token of the form. -/
def kindOfForm : Form → Nat
  | .bang => 0
  | .question => 1
  | .leftBracket => 2
  | _ => 3

theorem Unary.exists_cons (u : Unary) :
    ∃ t ts, u.tokens = t :: ts ∧ kindOfForm t.form = u.kind := by
  cases u with
  | negated bang u => exact ⟨bang.val, _, rfl, by rw [bang.property]; rfl⟩
  | maybe question u => exact ⟨question.val, _, rfl, by rw [question.property]; rfl⟩
  | grouped opening rs closing => exact ⟨opening.val, _, rfl, by rw [opening.property]; rfl⟩
  | related sign partner =>
      obtain ⟨t, ts, hsign, ht⟩ := sign.beginsWith
      refine ⟨t, _, by rw [tokens, hsign, List.cons_append], ?_⟩
      generalize t.form = f at ht
      cases f <;> first | rfl | cases ht

theorem Unary.kind_eq (u v : Unary) (h : u.tokens ++ ts = v.tokens ++ ts') : u.kind = v.kind := by
  obtain ⟨t, us, hu, ht⟩ := u.exists_cons
  obtain ⟨t', vs, hv, ht'⟩ := v.exists_cons
  rw [hu, hv, List.cons_append, List.cons_append] at h
  rw [← ht, ← ht', (List.cons.inj h).1]

mutual
theorem Node.cancel : (n n' : Node) → {ts ts' : List Token} → EndsNode ts → EndsNode ts' →
    n.tokens ++ ts = n'.tokens ++ ts' → n = n' ∧ ts = ts'
  | .bracketed opening inner closing further, .bracketed opening' inner' closing' further',
      ts, ts', hts, hts', h => by
      simp only [Node.tokens, List.cons_append, List.append_assoc] at h
      obtain ⟨hopening, hinner⟩ := List.cons.inj h
      obtain ⟨rfl, hrest⟩ := Node.cancel inner inner' (endsNode_rightParen closing _)
        (endsNode_rightParen closing' _) hinner
      obtain ⟨hclosing, hfurther⟩ := List.cons.inj hrest
      obtain ⟨rfl, rfl⟩ := Further.cancel further further' hts hts' hfurther
      rw [Subtype.ext hopening, Subtype.ext hclosing]
      exact ⟨rfl, rfl⟩
  | .bracketed opening inner closing further, .headed head further', ts, ts', _, _, h => by
      rw [Node.tokens, Node.tokens, List.append_assoc] at h
      exact (false_of_first opening head.beginsWith rfl h).elim
  | .headed head further, .bracketed opening inner closing further', ts, ts', _, _, h => by
      rw [Node.tokens, Node.tokens, List.append_assoc] at h
      exact (false_of_first opening head.beginsWith rfl h.symm).elim
  | .headed head further, .headed head' further', ts, ts', hts, hts', h => by
      rw [Node.tokens, Node.tokens, List.append_assoc, List.append_assoc] at h
      obtain ⟨rfl, hfurther⟩ := Head.cancel head head' (further.endsHead hts)
        (further'.endsHead hts') h
      obtain ⟨rfl, rfl⟩ := Further.cancel further further' hts hts' hfurther
      exact ⟨rfl, rfl⟩
theorem Further.cancel : (r r' : Further) → {ts ts' : List Token} → EndsNode ts → EndsNode ts' →
    r.tokens ++ ts = r'.tokens ++ ts' → r = r' ∧ ts = ts'
  | .nothing, .nothing, _, _, _, _, h => ⟨rfl, h⟩
  | .nothing, .relations rs, _, ts', hts, _, h =>
      (false_of_test hts.unrelated (opensRelation_of_beginsWith (rs.beginsWith.append ts')) h).elim
  | .relations rs, .nothing, ts, _, _, hts', h =>
      (false_of_test hts'.unrelated (opensRelation_of_beginsWith (rs.beginsWith.append ts))
        h.symm).elim
  | .relations rs, .relations rs', _, _, hts, hts', h => by
      obtain ⟨rfl, hrest⟩ := Relations.cancel rs rs' hts hts' h
      exact ⟨rfl, hrest⟩
theorem Relations.cancel : (rs rs' : Relations) → {ts ts' : List Token} → EndsNode ts →
    EndsNode ts' → rs.tokens ++ ts = rs'.tokens ++ ts' → rs = rs' ∧ ts = ts'
  | .mk first others, .mk first' others', ts, ts', hts, hts', h => by
      rw [Relations.tokens, Relations.tokens, List.append_assoc, List.append_assoc] at h
      obtain ⟨rfl, hothers⟩ := Joined.cancel first first' (others.endsJoined hts)
        (others'.endsJoined hts') h
      obtain ⟨rfl, rfl⟩ := Branches.cancel others others' hts hts' hothers
      exact ⟨rfl, rfl⟩
theorem Branches.cancel : (b b' : Branches) → {ts ts' : List Token} → EndsNode ts →
    EndsNode ts' → b.tokens ++ ts = b'.tokens ++ ts' → b = b' ∧ ts = ts'
  | .nil, .nil, _, _, _, _, h => ⟨rfl, h⟩
  | .nil, .cons bar branch others, _, _, hts, _, h =>
      (false_of_test hts.single (nextIs_of bar _) h).elim
  | .cons bar branch others, .nil, _, _, _, hts', h =>
      (false_of_test hts'.single (nextIs_of bar _) h.symm).elim
  | .cons bar branch others, .cons bar' branch' others', ts, ts', hts, hts', h => by
      simp only [Branches.tokens, List.cons_append, List.append_assoc] at h
      obtain ⟨hbar, hbranch⟩ := List.cons.inj h
      obtain ⟨rfl, hothers⟩ := Joined.cancel branch branch' (others.endsJoined hts)
        (others'.endsJoined hts') hbranch
      obtain ⟨rfl, rfl⟩ := Branches.cancel others others' hts hts' hothers
      rw [Subtype.ext hbar]
      exact ⟨rfl, rfl⟩
theorem Joined.cancel : (j j' : Joined) → {ts ts' : List Token} → EndsJoined ts →
    EndsJoined ts' → j.tokens ++ ts = j'.tokens ++ ts' → j = j' ∧ ts = ts'
  | .mk first others, .mk first' others', ts, ts', hts, hts', h => by
      rw [Joined.tokens, Joined.tokens, List.append_assoc, List.append_assoc] at h
      obtain ⟨rfl, hothers⟩ := Unary.cancel first first' (others.endsHead hts)
        (others'.endsHead hts') h
      obtain ⟨rfl, rfl⟩ := More.cancel others others' hts hts' hothers
      exact ⟨rfl, rfl⟩
theorem More.cancel : (m m' : More) → {ts ts' : List Token} → EndsJoined ts →
    EndsJoined ts' → m.tokens ++ ts = m'.tokens ++ ts' → m = m' ∧ ts = ts'
  | .nil, .nil, _, _, _, _, h => ⟨rfl, h⟩
  | .nil, .beside u others, _, _, hts, _, h =>
      (false_of_test hts.unrelated (More.opensRelation_beside u others _) h).elim
  | .beside u others, .nil, _, _, _, hts', h =>
      (false_of_test hts'.unrelated (More.opensRelation_beside u others _) h.symm).elim
  | .nil, .joined ampersand u others, _, _, hts, _, h =>
      (false_of_test hts.unrelated (opensRelation_ampersand ampersand _) h).elim
  | .joined ampersand u others, .nil, _, _, _, hts', h =>
      (false_of_test hts'.unrelated (opensRelation_ampersand ampersand _) h.symm).elim
  | .beside u others, .beside u' others', ts, ts', hts, hts', h => by
      rw [More.tokens, More.tokens, List.append_assoc, List.append_assoc] at h
      obtain ⟨rfl, hothers⟩ := Unary.cancel u u' (others.endsHead hts) (others'.endsHead hts') h
      obtain ⟨rfl, rfl⟩ := More.cancel others others' hts hts' hothers
      exact ⟨rfl, rfl⟩
  | .beside u others, .joined ampersand u' others', ts, ts', _, _, h => by
      rw [More.tokens, More.tokens, List.append_assoc] at h
      exact (false_of_first ampersand u.beginsWith rfl h.symm).elim
  | .joined ampersand u others, .beside u' others', ts, ts', _, _, h => by
      rw [More.tokens, More.tokens, List.append_assoc u'.tokens] at h
      exact (false_of_first ampersand u'.beginsWith rfl h).elim
  | .joined ampersand u others, .joined ampersand' u' others', ts, ts', hts, hts', h => by
      simp only [More.tokens, List.cons_append, List.append_assoc] at h
      obtain ⟨hampersand, hu⟩ := List.cons.inj h
      obtain ⟨rfl, hothers⟩ := Unary.cancel u u' (others.endsHead hts) (others'.endsHead hts') hu
      obtain ⟨rfl, rfl⟩ := More.cancel others others' hts hts' hothers
      rw [Subtype.ext hampersand]
      exact ⟨rfl, rfl⟩
theorem Unary.cancel : (u v : Unary) → {ts ts' : List Token} → EndsHead ts → EndsHead ts' →
    u.tokens ++ ts = v.tokens ++ ts' → u = v ∧ ts = ts'
  | .negated bang u, v, ts, ts', hts, hts', h => by
      have hkind := Unary.kind_eq _ v h
      cases v with
      | negated bang' v =>
          obtain ⟨hbang, hu⟩ := List.cons.inj h
          obtain ⟨rfl, rfl⟩ := Unary.cancel u v hts hts' hu
          rw [Subtype.ext hbang]
          exact ⟨rfl, rfl⟩
      | _ => cases hkind
  | .maybe question u, v, ts, ts', hts, hts', h => by
      have hkind := Unary.kind_eq _ v h
      cases v with
      | maybe question' v =>
          obtain ⟨hquestion, hu⟩ := List.cons.inj h
          obtain ⟨rfl, rfl⟩ := Unary.cancel u v hts hts' hu
          rw [Subtype.ext hquestion]
          exact ⟨rfl, rfl⟩
      | _ => cases hkind
  | .grouped opening rs closing, v, ts, ts', hts, hts', h => by
      have hkind := Unary.kind_eq _ v h
      cases v with
      | grouped opening' rs' closing' =>
          simp only [Unary.tokens, List.cons_append, List.append_assoc, List.nil_append] at h
          obtain ⟨hopening, hrs⟩ := List.cons.inj h
          obtain ⟨rfl, hrest⟩ := Relations.cancel rs rs' (endsNode_rightBracket closing _)
            (endsNode_rightBracket closing' _) hrs
          obtain ⟨hclosing, rfl⟩ := List.cons.inj hrest
          rw [Subtype.ext hopening, Subtype.ext hclosing]
          exact ⟨rfl, rfl⟩
      | _ => cases hkind
  | .related sign partner, v, ts, ts', hts, hts', h => by
      have hkind := Unary.kind_eq _ v h
      cases v with
      | related sign' partner' =>
          rw [Unary.tokens, Unary.tokens, List.append_assoc, List.append_assoc] at h
          obtain ⟨rfl, hpartner⟩ := Sign.cancel sign sign' h
          obtain ⟨rfl, rfl⟩ := Partner.cancel partner partner' hts hts' hpartner
          exact ⟨rfl, rfl⟩
      | _ => cases hkind
theorem Partner.cancel : (p p' : Partner) → {ts ts' : List Token} → EndsHead ts → EndsHead ts' →
    p.tokens ++ ts = p'.tokens ++ ts' → p = p' ∧ ts = ts'
  | .bracketed opening inner closing, .bracketed opening' inner' closing', ts, ts', _, _, h => by
      simp only [Partner.tokens, List.cons_append, List.append_assoc, List.nil_append] at h
      obtain ⟨hopening, hinner⟩ := List.cons.inj h
      obtain ⟨rfl, hrest⟩ := Node.cancel inner inner' (endsNode_rightParen closing _)
        (endsNode_rightParen closing' _) hinner
      obtain ⟨hclosing, rfl⟩ := List.cons.inj hrest
      rw [Subtype.ext hopening, Subtype.ext hclosing]
      exact ⟨rfl, rfl⟩
  | .bracketed opening inner closing, .headed head, ts, ts', _, _, h =>
      (false_of_first opening head.beginsWith rfl h).elim
  | .headed head, .bracketed opening inner closing, ts, ts', _, _, h =>
      (false_of_first opening head.beginsWith rfl h.symm).elim
  | .headed head, .headed head', ts, ts', hts, hts', h => by
      obtain ⟨rfl, hrest⟩ := Head.cancel head head' hts hts' h
      exact ⟨rfl, hrest⟩
end

/-- No two derivation trees write the same tokens. -/
theorem Node.eq_of_tokens_eq {n n' : Node} (h : n.tokens = n'.tokens) : n = n' :=
  (Node.cancel n n' endsNode_nil endsNode_nil (congrArg (· ++ []) h)).1

end Treebank.Pattern.Grammar
