import Treebank.Proofs.Pattern.Derived
import Treebank.Proofs.Pattern.Unambiguous

/-!
# Patterns as they are read

What a derivation tree writes is read as its pattern, if the child numbers in it do not have too many
digits. So the patterns are exactly those of derivation trees, and there is one tree for each.
-/

namespace Treebank.Pattern.Grammar

open Text (readNat? isDecimal digitLimit)

variable (text : String) {ts rest : List Token}

/-! ## Numbers -/

theorem readNat_of_readNat? {cs ds : List Char} {n : Nat} (h : readNat? ds = some n)
    (hshort : ds.countP isDecimal ≤ digitLimit) : Text.readNat cs ds = .ok n := by
  have hlength : (ds.takeWhile isDecimal).length ≤ ds.countP isDecimal := by
    rw [← List.countP_eq_length.mpr (List.all_eq_true.mp List.all_takeWhile)]
    exact (List.takeWhile_prefix _).sublist.countP_le
  simp only [Text.readNat]
  rw [if_neg (by omega), h]

theorem readInt_of_childIndex? : {cs : List Char} → {i : Int} → childIndex? cs = some i →
    cs.countP isDecimal ≤ digitLimit → Text.readInt cs = .ok i
  | [], i, h, _ => by cases h
  | c :: ds, i, h, hshort => by
      by_cases hc : c = '-'
      · subst hc
        obtain ⟨n, hn, rfl⟩ := Option.map_eq_some_iff.mp h
        rw [List.countP_cons] at hshort
        rw [Text.readInt, readNat_of_readNat? hn (by omega)]
        rfl
      · have h : (readNat? (c :: ds)).map Int.ofNat = some i := by
          simpa [childIndex?, hc] using h
        obtain ⟨n, hn, rfl⟩ := Option.map_eq_some_iff.mp h
        simp [Text.readInt, hc, readNat_of_readNat? hn hshort]
        rfl

/-! ## Heads and signs -/

theorem expect_of {f : Form} {what : String} (t : TokenOf f) (ts : List Token) :
    expect text f what (t.val :: ts) = .ok (t.val, ts) := by
  simp [expect, t.property]

theorem read_atom (a : Atom) (rest : List Token) :
    readAtom text (a.tokens ++ rest) = .ok (a.condition, rest) := by
  cases a with
  | label t => simp [readAtom, Atom.tokens, Atom.condition, t.property]
  | quoted t => simp [readAtom, Atom.tokens, Atom.condition, t.property]
  | regex t r h =>
      simp only [readAtom, Atom.tokens, List.singleton_append, t.property, readRegex, h]
      rfl
  | category sign name =>
      simp only [readAtom, Atom.tokens, List.cons_append, List.nil_append, sign.property,
        expect_of, ok_bind]
      rfl

theorem readMoreAtoms_of_apart {fuel : Nat} (h : joinsAtom rest = false) :
    readMoreAtoms text fuel rest = .ok ([], rest) := by
  cases fuel with
  | zero => rfl
  | succ fuel =>
      cases rest with
      | nil => rfl
      | cons t ts =>
          cases ts with
          | nil => rfl
          | cons u us =>
              rw [joinsAtom] at h
              rw [readMoreAtoms, h]
              rfl

theorem read_moreAtoms (h : joinsAtom rest = false) : (others : List (TightBar × Atom)) →
    (fuel : Nat) → others.length ≤ fuel →
    readMoreAtoms text fuel (tokensOfOthers others ++ rest) =
      .ok (others.map (·.2.condition), rest)
  | [], _, _ => readMoreAtoms_of_apart text h
  | (bar, a) :: others, 0, hfuel => by simp at hfuel
  | (bar, a) :: others, fuel + 1, hfuel => by
      obtain ⟨t, us, ha, _⟩ := a.beginsWith
      have hjoins := joinsAtom_tokensOfOthers bar a others rest
      have hread := read_atom text a (tokensOfOthers others ++ rest)
      have hmore := read_moreAtoms h others fuel (Nat.le_of_succ_le_succ hfuel)
      simp only [tokensOfOthers, List.flatMap_cons, ha, List.cons_append, List.append_assoc,
        joinsAtom] at hjoins hread hmore ⊢
      rw [readMoreAtoms, hjoins]
      simp only [if_true, hread, ok_bind, hmore]
      rfl

theorem length_le_tokensOfOthers (others : List (TightBar × Atom)) :
    others.length ≤ (tokensOfOthers others).length := by
  induction others with
  | nil => exact Nat.le_refl 0
  | cons other others ih =>
      simp only [tokensOfOthers, List.flatMap_cons, List.length_append, List.length_cons] at ih ⊢
      omega

theorem read_description (d : Alternatives) (h : joinsAtom rest = false) :
    readDescription text (d.tokens ++ rest) = .ok (d.description, rest) := by
  obtain ⟨bang, first, others⟩ := d
  have hfirst := read_atom text first (tokensOfOthers others ++ rest)
  have hothers := read_moreAtoms text h others (tokensOfOthers others ++ rest).length
    (Nat.le_trans (length_le_tokensOfOthers others) (by simp))
  cases bang with
  | none =>
      have hbegins := first.beginsWith.append (tokensOfOthers others ++ rest)
      have hbang := hbegins.nextIs_eq_false (f := .bang) rfl
      obtain ⟨t, us, ht, _⟩ := hbegins
      simp only [Alternatives.tokens, Option.toList_none, List.map_nil, List.nil_append,
        List.append_assoc]
      rw [ht] at hfirst hbang ⊢
      rw [nextIs] at hbang
      simp only [readDescription, hbang, Bool.false_eq_true, if_false, hfirst, ok_bind, hothers]
      rfl
  | some b =>
      simp only [Alternatives.tokens, Option.toList_some, List.map_cons, List.map_nil,
        List.cons_append, List.nil_append, List.append_assoc, readDescription, b.property,
        beq_self_eq_true, if_true, hfirst, ok_bind, hothers]
      rfl

theorem read_name (name : Option (TokenOf .name)) (h : nextIs .name rest = false) :
    readName? (name.toList.map (·.val) ++ rest) = (name.map (·.val.text), rest) := by
  cases name with
  | none =>
      cases rest with
      | nil => rfl
      | cons t ts =>
          rw [nextIs] at h
          simp [readName?, h]
  | some n => simp [readName?, n.property]

theorem read_head (d : Head) (h : EndsHead rest) :
    readHead text (d.tokens ++ rest) = .ok ((d.label?, d.name?), rest) := by
  cases d with
  | named n => simp [readHead, Head.tokens, n.property, Head.label?, Head.name?]
  | described label name =>
      have hlabel := read_description text label (joinsAtom_name name h.apart)
      have hbegins := label.beginsWith.append (name.toList.map (·.val) ++ rest)
      have hname := hbegins.nextIs_eq_false (f := .name) rfl
      obtain ⟨t, us, ht, _⟩ := hbegins
      rw [Head.tokens, List.append_assoc]
      rw [ht] at hlabel hname ⊢
      rw [nextIs] at hname
      simp only [readHead, hname, Bool.false_eq_true, if_false, hlabel, ok_bind,
        read_name name h.unnamed]
      rfl

/-- A relation is read before its partner. -/
theorem readUnary_sign (s : Sign) (hshort : ∀ t ∈ s.tokens, IsShort t) (fuel : Nat)
    (ts : List Token) : readUnary text (fuel + 1) (s.tokens ++ ts) = (do
      let (partner, ts) ← readPartner text fuel ts
      return (.rel s.relation partner, ts)) := by
  cases s with
  | plain t r h => simp only [Sign.tokens, List.singleton_append, readUnary, readRelation, h]; rfl
  | numbered t down digits h i hi hne =>
      have hread := readInt_of_childIndex? hi (hshort t (.head _) down digits h)
      have hzero : (i == 0) = false := beq_eq_false_iff_ne.mpr hne
      simp only [Sign.tokens, List.singleton_append, readUnary, readRelation, h, hread, hzero]
      rfl
  | via t down h opening d closing =>
      have hd := read_description text d (endsNode_rightParen closing ts).apart
      simp only [Sign.tokens, List.cons_append, List.append_assoc, List.nil_append]
      cases down with
      | true =>
          simp only [if_true] at h
          simp only [readUnary, readRelation, h, expect_of, ok_bind, hd]
          rfl
      | false =>
          simp only [Bool.false_eq_true, if_false] at h
          simp only [readUnary, readRelation, h, expect_of, ok_bind, hd]
          rfl

/-! ## Nodes and relations -/

theorem BeginsWith.length_pos {opens : Form → Bool} (h : BeginsWith opens ts) :
    0 < ts.length := by
  obtain ⟨t, us, rfl, _⟩ := h
  exact Nat.succ_pos _

/-! Every call but a few takes a token, so that eight calls for each token are more than enough. -/

mutual
theorem read_node : (n : Node) → (fuel : Nat) → {rest : List Token} →
    (∀ t ∈ n.tokens, IsShort t) → EndsNode rest → 8 * n.tokens.length ≤ fuel →
    readNode text fuel (n.tokens ++ rest) = .ok (n.pattern, rest)
  | .bracketed opening inner closing further, fuel, rest, hshort, hrest, hfuel => by
      simp only [Node.tokens, List.forall_mem_cons, List.forall_mem_append] at hshort
      obtain ⟨_, hinner, _, hfurther⟩ := hshort
      simp only [Node.tokens, List.length_cons, List.length_append] at hfuel
      obtain ⟨k, rfl⟩ := Nat.exists_eq_succ_of_ne_zero (show fuel ≠ 0 by omega)
      have hinner := read_node inner k hinner
        (endsNode_rightParen closing (further.tokens ++ rest)) (by omega)
      have hfurther := read_further further k hfurther hrest (by omega)
      simp only [Node.tokens, List.cons_append, List.append_assoc, readNode, nextIs_of, if_true,
        List.tail_cons, hinner, ok_bind, expect_of, hfurther]
      rfl
  | .headed head further, fuel, rest, hshort, hrest, hfuel => by
      have hpos := head.beginsWith.length_pos
      have hparen := (head.beginsWith.append (further.tokens ++ rest)).nextIs_eq_false
        (f := .leftParen) rfl
      simp only [Node.tokens, List.forall_mem_append] at hshort
      simp only [Node.tokens, List.length_append] at hfuel
      obtain ⟨k, rfl⟩ := Nat.exists_eq_succ_of_ne_zero (show fuel ≠ 0 by omega)
      have hhead := read_head text head (further.endsHead hrest)
      have hfurther := read_further further k hshort.2 hrest (by omega)
      simp only [Node.tokens, List.append_assoc, readNode, hparen, Bool.false_eq_true, if_false,
        hhead, ok_bind, hfurther]
      rfl
theorem read_further : (r : Further) → (fuel : Nat) → {rest : List Token} →
    (∀ t ∈ r.tokens, IsShort t) → EndsNode rest → 8 * r.tokens.length + 4 ≤ fuel →
    readRelations? text fuel (r.tokens ++ rest) = .ok (r.constraint?, rest)
  | .nothing, fuel, rest, _, hrest, hfuel => by
      obtain ⟨k, rfl⟩ := Nat.exists_eq_succ_of_ne_zero (show fuel ≠ 0 by omega)
      simp only [Further.tokens, List.nil_append, readRelations?, hrest.unrelated,
        Bool.false_eq_true, if_false]
      rfl
  | .relations rs, fuel, rest, hshort, hrest, hfuel => by
      rw [Further.tokens] at hfuel
      obtain ⟨k, rfl⟩ := Nat.exists_eq_succ_of_ne_zero (show fuel ≠ 0 by omega)
      have hrs := read_relations rs k hshort hrest (by omega)
      simp only [Further.tokens, readRelations?,
        opensRelation_of_beginsWith (rs.beginsWith.append rest), if_true, hrs, ok_bind]
      rfl
theorem read_relations : (rs : Relations) → (fuel : Nat) → {rest : List Token} →
    (∀ t ∈ rs.tokens, IsShort t) → EndsNode rest → 8 * rs.tokens.length + 3 ≤ fuel →
    readRelations text fuel (rs.tokens ++ rest) = .ok (rs.constraint, rest)
  | .mk first others, fuel, rest, hshort, hrest, hfuel => by
      simp only [Relations.tokens, List.forall_mem_append] at hshort
      simp only [Relations.tokens, List.length_append] at hfuel
      obtain ⟨k, rfl⟩ := Nat.exists_eq_succ_of_ne_zero (show fuel ≠ 0 by omega)
      have hfirst := read_joined first k hshort.1 (others.endsJoined hrest) (by omega)
      have hothers := read_branches others k hshort.2 hrest (by omega)
      simp only [Relations.tokens, List.append_assoc, readRelations, hfirst, ok_bind, hothers]
      rfl
theorem read_branches : (b : Branches) → (fuel : Nat) → {rest : List Token} →
    (∀ t ∈ b.tokens, IsShort t) → EndsNode rest → 8 * b.tokens.length ≤ fuel →
    readBranches text fuel (b.tokens ++ rest) = .ok (b.constraints, rest)
  | .nil, 0, rest, _, _, _ => rfl
  | .nil, k + 1, rest, _, hrest, _ => by
      simp only [Branches.tokens, List.nil_append, readBranches, hrest.single,
        Bool.false_eq_true, if_false]
      rfl
  | .cons bar branch others, fuel, rest, hshort, hrest, hfuel => by
      simp only [Branches.tokens, List.forall_mem_cons, List.forall_mem_append] at hshort
      simp only [Branches.tokens, List.length_cons, List.length_append] at hfuel
      obtain ⟨k, rfl⟩ := Nat.exists_eq_succ_of_ne_zero (show fuel ≠ 0 by omega)
      have hbranch := read_joined branch k hshort.2.1 (others.endsJoined hrest)
        (by omega)
      have hothers := read_branches others k hshort.2.2 hrest (by omega)
      simp only [Branches.tokens, List.cons_append, List.append_assoc, readBranches, nextIs_of,
        if_true, List.tail_cons, hbranch, ok_bind, hothers]
      rfl
theorem read_joined : (j : Joined) → (fuel : Nat) → {rest : List Token} →
    (∀ t ∈ j.tokens, IsShort t) → EndsJoined rest → 8 * j.tokens.length + 2 ≤ fuel →
    readJoined text fuel (j.tokens ++ rest) = .ok (j.constraint, rest)
  | .mk first others, fuel, rest, hshort, hrest, hfuel => by
      have hpos := first.beginsWith.length_pos
      have hampersand := (first.beginsWith.append (others.tokens ++ rest)).nextIs_eq_false
        (f := .ampersand) rfl
      simp only [Joined.tokens, List.forall_mem_append] at hshort
      simp only [Joined.tokens, List.length_append] at hfuel
      obtain ⟨k, rfl⟩ := Nat.exists_eq_succ_of_ne_zero (show fuel ≠ 0 by omega)
      have hfirst := read_unary first k hshort.1 (others.endsHead hrest) (by omega)
      have hothers := read_more others k hshort.2 hrest (by omega)
      simp only [Joined.tokens, List.append_assoc, readJoined, hampersand, Bool.false_eq_true,
        if_false, hfirst, ok_bind, hothers]
      rfl
theorem read_more : (m : More) → (fuel : Nat) → {rest : List Token} →
    (∀ t ∈ m.tokens, IsShort t) → EndsJoined rest → 8 * m.tokens.length + 2 ≤ fuel →
    readMore text fuel (m.tokens ++ rest) = .ok (m.constraints, rest)
  | .nil, fuel, rest, _, hrest, hfuel => by
      obtain ⟨k, rfl⟩ := Nat.exists_eq_succ_of_ne_zero (show fuel ≠ 0 by omega)
      simp only [More.tokens, List.nil_append, readMore, hrest.unrelated, Bool.false_eq_true,
        if_false]
      rfl
  | .beside u others, fuel, rest, hshort, hrest, hfuel => by
      have hpos := u.beginsWith.length_pos
      have hbegins := u.beginsWith.append (others.tokens ++ rest)
      simp only [More.tokens, List.forall_mem_append] at hshort
      simp only [More.tokens, List.length_append] at hfuel
      obtain ⟨k, rfl⟩ := Nat.exists_eq_succ_of_ne_zero (show fuel ≠ 0 by omega)
      have hu := read_unary u k hshort.1 (others.endsHead hrest) (by omega)
      have hothers := read_more others k hshort.2 hrest (by omega)
      simp only [More.tokens, List.append_assoc, readMore, opensRelation_of_beginsWith hbegins,
        hbegins.nextIs_eq_false (f := .ampersand) rfl, Bool.false_eq_true, if_false, if_true, hu,
        ok_bind, hothers]
      rfl
  | .joined ampersand u others, fuel, rest, hshort, hrest, hfuel => by
      simp only [More.tokens, List.forall_mem_cons, List.forall_mem_append] at hshort
      simp only [More.tokens, List.length_cons, List.length_append] at hfuel
      obtain ⟨k, rfl⟩ := Nat.exists_eq_succ_of_ne_zero (show fuel ≠ 0 by omega)
      have hu := read_unary u k hshort.2.1 (others.endsHead hrest) (by omega)
      have hothers := read_more others k hshort.2.2 hrest (by omega)
      simp only [More.tokens, List.cons_append, List.append_assoc, readMore,
        opensRelation_ampersand, nextIs_of, if_true, List.tail_cons, hu, ok_bind, hothers]
      rfl
theorem read_unary : (u : Unary) → (fuel : Nat) → {rest : List Token} →
    (∀ t ∈ u.tokens, IsShort t) → EndsHead rest → 8 * u.tokens.length + 1 ≤ fuel →
    readUnary text fuel (u.tokens ++ rest) = .ok (u.constraint, rest)
  | .negated bang u, fuel, rest, hshort, hrest, hfuel => by
      simp only [Unary.tokens, List.forall_mem_cons] at hshort
      simp only [Unary.tokens, List.length_cons] at hfuel
      obtain ⟨k, rfl⟩ := Nat.exists_eq_succ_of_ne_zero (show fuel ≠ 0 by omega)
      have hu := read_unary u k hshort.2 hrest (by omega)
      simp only [Unary.tokens, List.cons_append, readUnary, bang.property, hu, ok_bind]
      rfl
  | .maybe question u, fuel, rest, hshort, hrest, hfuel => by
      simp only [Unary.tokens, List.forall_mem_cons] at hshort
      simp only [Unary.tokens, List.length_cons] at hfuel
      obtain ⟨k, rfl⟩ := Nat.exists_eq_succ_of_ne_zero (show fuel ≠ 0 by omega)
      have hu := read_unary u k hshort.2 hrest (by omega)
      simp only [Unary.tokens, List.cons_append, readUnary, question.property, hu, ok_bind]
      rfl
  | .grouped opening rs closing, fuel, rest, hshort, hrest, hfuel => by
      simp only [Unary.tokens, List.forall_mem_cons, List.forall_mem_append] at hshort
      simp only [Unary.tokens, List.length_cons, List.length_append] at hfuel
      obtain ⟨k, rfl⟩ := Nat.exists_eq_succ_of_ne_zero (show fuel ≠ 0 by omega)
      have hrs := read_relations rs k hshort.2.1 (endsNode_rightBracket closing rest)
        (by omega)
      simp only [Unary.tokens, List.cons_append, List.append_assoc, List.nil_append, readUnary,
        opening.property, hrs, ok_bind, expect_of]
      rfl
  | .related sign partner, fuel, rest, hshort, hrest, hfuel => by
      have hpos := sign.beginsWith.length_pos
      simp only [Unary.tokens, List.forall_mem_append] at hshort
      simp only [Unary.tokens, List.length_append] at hfuel
      obtain ⟨k, rfl⟩ := Nat.exists_eq_succ_of_ne_zero (show fuel ≠ 0 by omega)
      have hpartner := read_partner partner k hshort.2 hrest (by omega)
      rw [Unary.tokens, List.append_assoc, readUnary_sign text sign hshort.1, hpartner]
      rfl
theorem read_partner : (p : Partner) → (fuel : Nat) → {rest : List Token} →
    (∀ t ∈ p.tokens, IsShort t) → EndsHead rest → 8 * p.tokens.length ≤ fuel →
    readPartner text fuel (p.tokens ++ rest) = .ok (p.pattern, rest)
  | .bracketed opening inner closing, fuel, rest, hshort, _, hfuel => by
      simp only [Partner.tokens, List.forall_mem_cons, List.forall_mem_append] at hshort
      simp only [Partner.tokens, List.length_cons, List.length_append] at hfuel
      obtain ⟨k, rfl⟩ := Nat.exists_eq_succ_of_ne_zero (show fuel ≠ 0 by omega)
      have hinner := read_node inner k hshort.2.1 (endsNode_rightParen closing rest)
        (by omega)
      simp only [Partner.tokens, List.cons_append, List.append_assoc, List.nil_append,
        readPartner, nextIs_of, if_true, List.tail_cons, hinner, ok_bind, expect_of]
      rfl
  | .headed head, fuel, rest, _, hrest, hfuel => by
      have hpos := head.beginsWith.length_pos
      have hparen := (head.beginsWith.append rest).nextIs_eq_false (f := .leftParen) rfl
      rw [Partner.tokens] at hfuel
      obtain ⟨k, rfl⟩ := Nat.exists_eq_succ_of_ne_zero (show fuel ≠ 0 by omega)
      have hhead := read_head text head hrest
      simp only [Partner.tokens, readPartner, hparen, Bool.false_eq_true, if_false, hhead, ok_bind]
      rfl
end

theorem Node.length_pos (n : Node) : 0 < n.tokens.length := by
  cases n with
  | bracketed opening inner closing further => exact Nat.succ_pos _
  | headed head further => exact (head.beginsWith.append _).length_pos

/-! ## A child number in a text -/

section

variable {k : Nat}

/-- A number with zeros before it. -/
def padded (k : Nat) : List Char := List.replicate k '0' ++ ['1']

theorem forall_mem_padded {P : Char → Prop} (h0 : P '0') (h1 : P '1') : ∀ c ∈ padded k, P c := by
  intro c hc
  rcases List.mem_append.mp hc with hc | hc
  · rw [(List.mem_replicate.mp hc).2]
    exact h0
  · rw [List.mem_singleton.mp hc]
    exact h1

theorem length_padded : (padded k).length = k + 1 := by simp [padded]

theorem padded_append_ne (cs ds : List Char) : padded k ++ cs ≠ '-' :: ds := by
  cases k with
  | zero => simp [padded]
  | succ k => simp [padded, List.replicate_succ]

theorem childIndex?_padded : childIndex? (padded k) = some 1 := by
  have hzero : Text.decimalValue? '0' = some 0 := rfl
  have hone : Text.decimalValue? '1' = some 1 := rfl
  have hzeros : (List.replicate k '0').foldlM
      (fun n c => (Text.decimalValue? c).map (10 * n + ·)) 0 = some 0 := by
    induction k with
    | zero => rfl
    | succ k ih =>
        rw [List.replicate_succ, List.foldlM_cons, hzero]
        exact ih
  have hread : readNat? (padded k) = some 1 := by
    rw [readNat?, if_neg (by simp [padded]), padded, List.foldlM_append, hzeros]
    simp [hone]
  cases k with
  | zero =>
      rw [padded, List.replicate_zero, List.nil_append] at hread ⊢
      simp [childIndex?, hread]
  | succ k =>
      rw [padded, List.replicate_succ, List.cons_append] at hread ⊢
      simp [childIndex?, hread]

theorem childNumber?_padded (cs : List Char) :
    childNumber? (padded k ++ ' ' :: cs) = some (padded k) := by
  have htake : (padded k ++ ' ' :: cs).takeWhile Text.isDigitChar = padded k := by
    have hblank : Text.isDigitChar ' ' = false := Text.isDigitChar_of_ascii (by decide)
    have hzero : Text.isDigitChar '0' = true := Text.isDigitChar_of_ascii (by decide)
    have hone : Text.isDigitChar '1' = true := Text.isDigitChar_of_ascii (by decide)
    rw [List.takeWhile_append_of_pos (forall_mem_padded hzero hone), List.takeWhile_cons, hblank]
    exact List.append_nil _
  have hsome : (padded k).isEmpty = false := by simp [padded]
  rw [childNumber?]
  · rw [htake, hsome]
    rfl
  · exact padded_append_ne _

/-- A text with a child number that has so many zeros before it. -/
def paddedText (k : Nat) : String := "A <" ++ String.ofList (padded k) ++ " B"

/-- The tokens of the text. -/
def paddedTokens (k : Nat) : List Token :=
  [⟨.label, "A", 0, false, true⟩,
    ⟨.numbered true (String.ofList (padded k)), String.ofList ('<' :: padded k), 2, true, true⟩,
    ⟨.label, "B", k + 5, true, true⟩]

theorem tokens_padded : tokens (paddedText k) = .ok (paddedTokens k) := by
  have hlexeme : lexeme '<' (padded k ++ [' ', 'B']) =
      .ok ⟨.numbered true (String.ofList (padded k)), '<' :: padded k, (padded k).length⟩ := by
    simp [lexeme, bracketForm?, childNumber?_padded]
  have hlist : (paddedText k).toList = 'A' :: ' ' :: '<' :: (padded k ++ [' ', 'B']) := by
    simp [paddedText]
  have hA : Text.isBlank 'A' = false := rfl
  have hless : Text.isBlank '<' = false := rfl
  have hB : Text.isBlank 'B' = false := rfl
  have hblank : Text.isBlank ' ' = true := rfl
  have hlexemeA (cs : List Char) : lexeme 'A' (' ' :: cs) = .ok ⟨.label, ['A'], 0⟩ := by
    simp [lexeme, bracketForm?, hblank]
  have hlexemeB : lexeme 'B' [] = .ok ⟨.label, ['B'], 0⟩ := by
    simp [lexeme, bracketForm?]
  rw [tokens, hlist]
  simp only [scanFrom, hA, hless, hB, hblank, hlexeme, hlexemeA, hlexemeB, Bool.false_eq_true,
    if_false, if_true, List.drop_zero, List.drop_left]
  rw [length_padded, show 0 + 1 + 0 + 1 + 1 + (k + 1) + 1 = k + 5 by omega]
  rfl

theorem readInt_padded (h : digitLimit ≤ k) :
    Text.readInt (padded k) = .error (.tooManyDigits (k + 1)) := by
  have hlength : ((padded k).takeWhile isDecimal).length = k + 1 := by
    have hdecimal : ∀ c ∈ padded k, isDecimal c = true := forall_mem_padded rfl rfl
    rw [← List.append_nil (padded k), List.takeWhile_append_of_pos hdecimal]
    simp [length_padded]
  have hread : Text.readNat (padded k) (padded k) = .error (.tooManyDigits (k + 1)) := by
    simp only [Text.readNat, hlength]
    rw [if_pos (by omega)]
  rw [Text.readInt]
  · rw [hread]
    rfl
  · exact fun ds => List.append_nil (padded k) ▸ padded_append_ne [] ds

theorem readTokens_of_bad_number {a t b : Token} {down : Bool} {digits : String}
    {f : Text.NumberFault} (ha : a.form = .label) (ht : t.form = .numbered down digits)
    (hread : Text.readInt digits.toList = .error f) :
    readTokens text [a, t, b] = .error (.badNumber f) := by
  have hhead : readHead text [a, t, b] =
      .ok ((some ⟨[(Atom.label ⟨a, ha⟩).condition], false⟩, none), [t, b]) :=
    read_head text (.described ⟨none, .label ⟨a, ha⟩, []⟩ none)
      ⟨by simp [nextIs, ht], joinsAtom_of_form (by simp [ht])⟩
  have hunary (fuel : Nat) : readUnary text (fuel + 1) [t, b] = .error (.badNumber f) := by
    simp only [readUnary, ht, readRelation, hread]
    rfl
  have hjoined (fuel : Nat) : readJoined text (fuel + 2) [t, b] = .error (.badNumber f) := by
    simp only [readJoined, nextIs, ht, hunary]
    rfl
  have hfurther (fuel : Nat) : readRelations? text (fuel + 4) [t, b] = .error (.badNumber f) := by
    simp only [readRelations?, opensRelation, ht, readRelations, hjoined]
    rfl
  have hnode (fuel : Nat) : readNode text (fuel + 5) [a, t, b] = .error (.badNumber f) := by
    simp only [readNode, nextIs, ha, hhead, ok_bind, hfurther]
    rfl
  rw [readTokens]
  simp only [List.isEmpty_cons, Bool.false_eq_true, if_false]
  rw [show callLimit [a, t, b].length = 27 + 5 from rfl, hnode]
  rfl

/-- The derivation tree of the text. -/
def paddedNode (k : Nat) : Node :=
  .headed (.described ⟨none, .label ⟨⟨.label, "A", 0, false, true⟩, rfl⟩, []⟩ none)
    (.relations (.mk (.mk (.related
      (.numbered ⟨.numbered true (String.ofList (padded k)), String.ofList ('<' :: padded k), 2,
        true, true⟩ true _ rfl 1 (String.toList_ofList ▸ childIndex?_padded) (by decide))
      (.headed (.described ⟨none, .label ⟨⟨.label, "B", k + 5, true, true⟩, rfl⟩, []⟩ none)))
      .nil) .nil))

/-- A node with a label and a first child with another one. -/
def firstChildPattern : NodePattern :=
  .node (some ⟨[.literal "A"], false⟩) none (some (.rel (.ithChild (some 1))
    (.node (some ⟨[.literal "B"], false⟩) none none)))

theorem isShort_padded (h : k < digitLimit) : ∀ t ∈ paddedTokens k, IsShort t := by
  have hcount : (padded k).countP isDecimal ≤ digitLimit :=
    Nat.le_trans List.countP_le_length (by rwa [length_padded])
  simp only [paddedTokens, List.forall_mem_cons]
  refine ⟨nofun, fun down digits hform => ?_, nofun, nofun⟩
  cases hform
  rwa [String.toList_ofList]

end

/-! ## Patterns and their trees -/

theorem readTokens_eq_ok_iff (hshort : ∀ t ∈ ts, IsShort t) (p : NodePattern) :
    readTokens text ts = .ok p ↔ ∃ n : Node, n.tokens = ts ∧ n.pattern = p := by
  constructor
  · intro h
    obtain ⟨n, hn, hp, _⟩ := derived_tokens h
    exact ⟨n, hn, hp⟩
  · rintro ⟨n, rfl, rfl⟩
    have hsome : n.tokens.isEmpty = false := by
      rw [List.isEmpty_eq_false_iff, ← List.length_pos_iff]
      exact n.length_pos
    have hread := read_node text n (callLimit n.tokens.length) hshort endsNode_nil
      (Nat.le_add_right ..)
    rw [List.append_nil] at hread
    simp only [readTokens, hsome, Bool.false_eq_true, if_false, hread, ok_bind]
    rfl

/-- A text whose child numbers do not have too many digits is read as a pattern if and only if a
derivation tree writes its tokens and stands for the pattern, and no two trees write them. -/
theorem read_eq_ok_iff_derived {text : String} {ts : List Token} (hts : tokens text = .ok ts)
    (hshort : ∀ t ∈ ts, IsShort t) :
    (∀ p, read text = .ok p ↔ ∃ n : Node, n.tokens = ts ∧ n.pattern = p) ∧
      ∀ n n' : Node, n.tokens = ts → n'.tokens = ts → n = n' := by
  refine ⟨fun p => ?_, fun n n' hn hn' => Node.eq_of_tokens_eq (hn.trans hn'.symm)⟩
  rw [read, hts]
  exact readTokens_eq_ok_iff text hshort p

theorem read_first_child : tokens (paddedText 0) = .ok (paddedTokens 0) ∧
    (∀ t ∈ paddedTokens 0, IsShort t) ∧ read (paddedText 0) = .ok firstChildPattern := by
  have hshort : ∀ t ∈ paddedTokens 0, IsShort t := isShort_padded (by decide)
  exact ⟨tokens_padded, hshort,
    ((read_eq_ok_iff_derived tokens_padded hshort).1 _).mpr ⟨paddedNode 0, rfl, rfl⟩⟩

/-- A child number with more digits than can be read is refused, although a derivation tree writes the
tokens. -/
theorem long_number_is_refused : tokens (paddedText 4300) = .ok (paddedTokens 4300) ∧
    (∀ t ∈ paddedTokens 4300, t.form = .regex → ∃ r, Regex.parse t.text = .ok r) ∧
    (∀ t ∈ paddedTokens 4300, ∀ down digits, t.form = .numbered down digits →
      ∀ c ∈ digits.toList, isDecimal c = true) ∧
    (∃ n : Node, n.tokens = paddedTokens 4300 ∧ n.pattern = firstChildPattern) ∧
    ∀ p, read (paddedText 4300) ≠ .ok p := by
  refine ⟨tokens_padded, ?_, ?_, ⟨paddedNode 4300, rfl, rfl⟩, ?_⟩
  · simp only [paddedTokens, List.forall_mem_cons]
    exact ⟨nofun, nofun, nofun, nofun⟩
  · simp only [paddedTokens, List.forall_mem_cons]
    refine ⟨nofun, fun down digits hform => ?_, nofun, nofun⟩
    cases hform
    rw [String.toList_ofList]
    exact forall_mem_padded (by decide +kernel) (by decide +kernel)
  · intro p h
    have hlong : Text.readInt (String.ofList (padded 4300)).toList =
        .error (.tooManyDigits 4301) := by
      rw [String.toList_ofList]
      exact readInt_padded (Nat.le_refl digitLimit)
    rw [read, tokens_padded, ok_bind, paddedTokens, readTokens_of_bad_number _ rfl rfl hlong] at h
    cases h

end Treebank.Pattern.Grammar
