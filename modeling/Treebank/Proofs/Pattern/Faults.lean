import Treebank.Pattern.Reader
import Treebank.Proofs.Basic

/-!
# Where the fault of a pattern shows

The fault of a text that is no pattern shows at one of its tokens, or at its end. Apart from this, a
child number may be one that cannot be read, and a regular expression one that is refused without a
place in it.
-/

namespace Treebank

/-- The fault of the expression, if it has one, has a place in it. -/
def Regex.Placed (source : String) : Prop :=
  ∀ e, Regex.parse source = .error e → ∃ problem position, e = .malformed problem position

namespace Pattern

/-! ## Blame -/

/-- A fault of the tokens: it shows at one of them or at the end, or one of them holds what cannot be
read. -/
inductive Blame (text : String) (ts : List Token) : Error → Prop where
  | atEnd (problem : Problem) : Blame text ts (.malformed problem text.length endName text)
  | atToken {t : Token} (problem : Problem) : t ∈ ts →
      Blame text ts (.malformed problem t.offset t.text text)
  | number {t : Token} {down : Bool} {digits : String} {f : Text.NumberFault} : t ∈ ts →
      t.form = .numbered down digits → Text.readInt digits.toList = .error f →
      Blame text ts (.badNumber f)
  | regex {t : Token} {f : Regex.Error} : t ∈ ts → t.form = .regex → Regex.parse t.text = .error f →
      (∀ problem position, f ≠ .malformed problem position) → Blame text ts (.refusedRegex f)

variable {α β : Type} {text : String} {ts rest : List Token} {t : Token} {e : Error}

theorem Blame.mono (h : Blame text rest e) (hrest : rest <:+ ts) : Blame text ts e := by
  cases h with
  | atEnd problem => exact .atEnd problem
  | atToken problem ht => exact .atToken problem (hrest.mem ht)
  | number ht hform hf => exact .number (hrest.mem ht) hform hf
  | regex ht hform hf hne => exact .regex (hrest.mem ht) hform hf hne

theorem blame_atTokens (text : String) (problem : Problem) (ts : List Token) :
    Blame text ts (.atTokens text problem ts) := by
  cases ts with
  | nil => exact .atEnd problem
  | cons t ts => exact .atToken problem List.mem_cons_self

theorem blame_atToken (problem : Problem) (ht : t ∈ ts) :
    Blame text ts (.atTokens text problem [t]) := .atToken problem ht

/-- The outcome is a result that leaves some of the last tokens, or a fault of the tokens. -/
def Reads (text : String) (ts : List Token) : Except Error (α × List Token) → Prop
  | .ok (_, rest) => rest <:+ ts
  | .error e => Blame text ts e

theorem reads_all (a : α) : Reads text ts (.ok (a, ts)) := List.suffix_rfl

theorem reads_error (problem : Problem) :
    Reads text ts (.error (.atTokens text problem ts) : Except Error (α × List Token)) :=
  blame_atTokens text problem ts

theorem Reads.mono {x : Except Error (α × List Token)} (h : Reads text rest x)
    (hrest : rest <:+ ts) : Reads text ts x := by
  cases x with
  | ok out => exact List.IsSuffix.trans h hrest
  | error e => exact Blame.mono h hrest

theorem Reads.bind {x : Except Error (α × List Token)}
    {k : α × List Token → Except Error (β × List Token)} (hx : Reads text ts x)
    (hk : ∀ a rest, Reads text rest (k (a, rest))) : Reads text ts (x >>= k) := by
  cases x with
  | ok out => exact (hk out.1 out.2).mono hx
  | error e => exact hx

/-! ## Labels -/

theorem expect_reads (form : Form) (what : String) (ts : List Token) :
    Reads text ts (expect text form what ts) := by
  cases ts with
  | nil => exact reads_error _
  | cons t rest =>
      rw [expect]
      split
      · exact List.suffix_cons t rest
      · exact reads_error _

theorem readAtom_reads (ts : List Token) : Reads text ts (readAtom text ts) := by
  cases ts with
  | nil => exact reads_error _
  | cons t rest =>
      have hrest := List.suffix_cons t rest
      rw [readAtom]
      split
      · exact hrest
      · exact hrest
      · rename_i hform
        rw [readRegex]
        split
        · exact hrest
        · exact blame_atToken _ List.mem_cons_self
        · rename_i f hne hf
          exact Blame.regex List.mem_cons_self hform hf hne
      · refine Reads.mono ?_ hrest
        exact (expect_reads _ _ rest).bind fun _ _ => reads_all _
      · exact reads_error _

theorem readMoreAtoms_reads (fuel : Nat) (ts : List Token) :
    Reads text ts (readMoreAtoms text fuel ts) := by
  induction fuel generalizing ts with
  | zero => exact reads_all _
  | succ fuel ih =>
      match ts with
      | [] => exact reads_all _
      | [t] => exact reads_all _
      | t :: u :: rest =>
          rw [readMoreAtoms]
          split
          · refine Reads.mono ?_ (List.suffix_cons t (u :: rest))
            exact (readAtom_reads _).bind fun _ ts => (ih ts).bind fun _ _ => reads_all _
          · exact reads_all _

theorem readDescription_reads (ts : List Token) : Reads text ts (readDescription text ts) := by
  have hatoms (negated : Bool) (rest : List Token) : Reads text rest (do
      let first ← readAtom text rest
      let others ← readMoreAtoms text first.2.length first.2
      return ((⟨first.1 :: others.1, negated⟩ : Description), others.2)) :=
    (readAtom_reads rest).bind fun _ ts => (readMoreAtoms_reads ts.length ts).bind fun _ _ =>
      reads_all _
  cases ts with
  | nil => exact hatoms false []
  | cons t rest =>
      unfold readDescription
      by_cases hbang : t.form == .bang
      · simp only [hbang, if_true]
        exact (hatoms true rest).mono (List.suffix_cons t rest)
      · simp only [hbang]
        exact hatoms false (t :: rest)

theorem suffix_readName? (ts : List Token) : (readName? ts).2 <:+ ts := by
  cases ts with
  | nil => exact List.suffix_rfl
  | cons t rest =>
      rw [readName?]
      split
      · exact List.suffix_cons t rest
      · exact List.suffix_rfl

theorem readHead_reads (ts : List Token) : Reads text ts (readHead text ts) := by
  cases ts with
  | nil => exact reads_error _
  | cons t rest =>
      rw [readHead]
      split
      · exact List.suffix_cons t rest
      · exact (readDescription_reads _).bind fun _ rest => suffix_readName? rest

theorem readRelation_reads {found : Except Error (Relation × List Token)}
    (h : readRelation text t rest = some found) : Reads text (t :: rest) found := by
  have hrest := List.suffix_cons t rest
  rw [readRelation] at h
  split at h
  · rename_i down digits hform
    cases h
    split
    · rename_i f hf
      exact Blame.number List.mem_cons_self hform hf
    · split
      · exact blame_atToken _ List.mem_cons_self
      · exact hrest
  · cases h
    exact hrest
  · cases h
    refine ((expect_reads _ _ rest).bind fun _ _ => ?_).mono hrest
    exact (readDescription_reads _).bind fun _ _ => (expect_reads _ _ _).bind fun _ _ => reads_all _
  · cases h

/-! ## Nodes and relations -/

mutual
theorem readNode_reads : (fuel : Nat) → (ts : List Token) → Reads text ts (readNode text fuel ts)
  | 0, ts => reads_error _
  | fuel + 1, ts => by
      rw [readNode]
      split
      · refine Reads.mono ?_ ts.tail_suffix
        refine (readNode_reads fuel _).bind fun _ _ => (expect_reads _ _ _).bind fun _ _ => ?_
        exact (readRelations?_reads fuel _).bind fun _ _ => reads_all _
      · refine (readHead_reads _).bind fun _ _ => ?_
        exact (readRelations?_reads fuel _).bind fun _ _ => reads_all _
theorem readRelations?_reads : (fuel : Nat) → (ts : List Token) →
    Reads text ts (readRelations? text fuel ts)
  | 0, ts => reads_all _
  | fuel + 1, ts => by
      rw [readRelations?]
      split
      · exact (readRelations_reads fuel _).bind fun _ _ => reads_all _
      · exact reads_all _
theorem readRelations_reads : (fuel : Nat) → (ts : List Token) →
    Reads text ts (readRelations text fuel ts)
  | 0, ts => reads_error _
  | fuel + 1, ts => by
      rw [readRelations]
      refine (readJoined_reads fuel _).bind fun _ _ => ?_
      exact (readBranches_reads fuel _).bind fun _ _ => reads_all _
theorem readBranches_reads : (fuel : Nat) → (ts : List Token) →
    Reads text ts (readBranches text fuel ts)
  | 0, ts => reads_all _
  | fuel + 1, ts => by
      rw [readBranches]
      split
      · refine Reads.mono ?_ ts.tail_suffix
        refine (readJoined_reads fuel _).bind fun _ _ => ?_
        exact (readBranches_reads fuel _).bind fun _ _ => reads_all _
      · exact reads_all _
theorem readJoined_reads : (fuel : Nat) → (ts : List Token) →
    Reads text ts (readJoined text fuel ts)
  | 0, ts => reads_error _
  | fuel + 1, ts => by
      rw [readJoined]
      split
      · exact reads_error _
      · refine (readUnary_reads fuel _).bind fun _ _ => ?_
        exact (readMore_reads fuel _).bind fun _ _ => reads_all _
theorem readMore_reads : (fuel : Nat) → (ts : List Token) → Reads text ts (readMore text fuel ts)
  | 0, ts => reads_all _
  | fuel + 1, ts => by
      have hnext : (if nextIs .ampersand ts then ts.tail else ts) <:+ ts := by
        split
        · exact ts.tail_suffix
        · exact List.suffix_rfl
      rw [readMore]
      split
      · refine Reads.mono ?_ hnext
        refine (readUnary_reads fuel _).bind fun _ _ => ?_
        exact (readMore_reads fuel _).bind fun _ _ => reads_all _
      · exact reads_all _
theorem readUnary_reads : (fuel : Nat) → (ts : List Token) → Reads text ts (readUnary text fuel ts)
  | 0, ts => reads_error _
  | fuel + 1, [] => reads_error _
  | fuel + 1, t :: rest => by
      have hrest := List.suffix_cons t rest
      rw [readUnary]
      split
      · refine Reads.mono ?_ hrest
        exact (readUnary_reads fuel rest).bind fun _ _ => reads_all _
      · refine Reads.mono ?_ hrest
        exact (readUnary_reads fuel rest).bind fun _ _ => reads_all _
      · refine Reads.mono ?_ hrest
        refine (readRelations_reads fuel rest).bind fun _ _ => ?_
        exact (expect_reads _ _ _).bind fun _ _ => reads_all _
      · split
        · exact reads_error _
        · rename_i found hfound
          refine (readRelation_reads hfound).bind fun _ _ => ?_
          exact (readPartner_reads fuel _).bind fun _ _ => reads_all _
theorem readPartner_reads : (fuel : Nat) → (ts : List Token) →
    Reads text ts (readPartner text fuel ts)
  | 0, ts => reads_error _
  | fuel + 1, ts => by
      rw [readPartner]
      split
      · refine Reads.mono ?_ ts.tail_suffix
        refine (readNode_reads fuel _).bind fun _ _ => ?_
        exact (expect_reads _ _ _).bind fun _ _ => reads_all _
      · exact (readHead_reads _).bind fun _ _ => reads_all _
end

/-- What is no pattern has a fault of its tokens. -/
theorem readTokens_blames (h : readTokens text ts = .error e) : Blame text ts e := by
  have hread : Reads text ts (readNode text (callLimit ts.length) ts) := readNode_reads _ ts
  rw [readTokens] at h
  split at h
  · cases h
    exact .atEnd _
  · cases hnode : readNode text (callLimit ts.length) ts with
    | error e' =>
        rw [hnode] at h hread
        cases h
        exact hread
    | ok out =>
        obtain ⟨p, rest⟩ := out
        rw [hnode, ok_bind] at h
        rw [hnode] at hread
        simp only at h
        split at h
        · cases h
        · cases h
          exact (blame_atTokens text _ rest).mono hread

/-! ## Places -/

/-- The place is one of the characters, counted from an offset on. -/
def Within (offset : Nat) (cs : List Char) (place : Nat) : Prop :=
  ∃ k < cs.length, place = offset + k

theorem Within.of_drop {offset n place : Nat} {c : Char} {cs : List Char}
    (h : Within (offset + 1 + n) (cs.drop n) place) : Within offset (c :: cs) place := by
  obtain ⟨k, hk, rfl⟩ := h
  rw [List.length_drop] at hk
  refine ⟨1 + n + k, ?_, by omega⟩
  rw [List.length_cons]
  omega

/-- Every token, and what is no token, begins at one of the characters. -/
theorem within_scanFrom (offset : Nat) (spaced : Bool) (cs : List Char) :
    match scanFrom offset spaced cs with
    | .ok ts => ∀ t ∈ ts, Within offset cs t.offset
    | .error (_, place) => Within offset cs place := by
  fun_induction scanFrom offset spaced cs with
  | case1 => exact nofun
  | case2 offset spaced c cs hc ih =>
      have hmore {place : Nat} (h : Within (offset + 1) cs place) : Within offset (c :: cs) place :=
        @Within.of_drop offset 0 place c cs h
      split at ih
      · exact fun t ht => hmore (ih t ht)
      · exact hmore ih
  | case3 offset spaced c cs hc p hlexeme => exact ⟨0, Nat.zero_lt_succ _, rfl⟩
  | case4 offset spaced c cs hc l hlexeme ih =>
      split at ih
      · rename_i ts hts
        rw [hts]
        exact List.forall_mem_cons.mpr ⟨⟨0, Nat.zero_lt_succ _, rfl⟩, fun t ht => (ih t ht).of_drop⟩
      · rename_i p place hfault
        rw [hfault]
        exact Within.of_drop ih

theorem exists_of_mem_markSpaces (ht : t ∈ markSpaces ts) : ∃ u ∈ ts, t.offset = u.offset := by
  induction ts with
  | nil => cases ht
  | cons u ts ih =>
      rcases List.mem_cons.mp ht with rfl | ht
      · exact ⟨u, List.mem_cons_self, rfl⟩
      · obtain ⟨v, hv, hoffset⟩ := ih ht
        exact ⟨v, List.mem_cons_of_mem u hv, hoffset⟩

theorem offset_lt_of_tokens (h : tokens text = .ok ts) : ∀ t ∈ ts, t.offset < text.length := by
  have hscan := within_scanFrom 0 false text.toList
  rw [tokens] at h
  split at h
  · rename_i us hus
    cases h
    rw [hus] at hscan
    intro t ht
    obtain ⟨u, hu, hoffset⟩ := exists_of_mem_markSpaces ht
    obtain ⟨k, hk, hplace⟩ := hscan u hu
    rw [String.length_toList] at hk
    omega
  · cases h

theorem exists_of_tokens_error (h : tokens text = .error e) :
    ∃ problem offset near, e = .malformed problem offset near text ∧ offset < text.length := by
  have hscan := within_scanFrom 0 false text.toList
  rw [tokens] at h
  split at h
  · cases h
  · rename_i p place hfault
    cases h
    rw [hfault] at hscan
    obtain ⟨k, hk, rfl⟩ := hscan
    rw [String.length_toList] at hk
    simp only [Error.atPlace, String.ofList_toList]
    exact ⟨p, 0 + k, _, rfl, by omega⟩

/-! ## Outcomes -/

/-- The faults of the regular expressions of a text, if any, have a place in the expression. -/
def RegexesPlaced (text : String) : Prop :=
  ∀ ts, tokens text = .ok ts → ∀ t ∈ ts, t.form = .regex → Regex.Placed t.text

/-- A child number of the text has this fault. -/
def NumberFails (text : String) (f : Text.NumberFault) : Prop :=
  ∃ ts, tokens text = .ok ts ∧ ∃ t ∈ ts, ∃ down digits,
    t.form = .numbered down digits ∧ Text.readInt digits.toList = .error f

/-- What is no pattern has a fault at a place of the text, or a child number that cannot be read. -/
theorem read_error_cases (hregexes : RegexesPlaced text) (h : read text = .error e) :
    (∃ problem offset near, e = .malformed problem offset near text ∧ offset ≤ text.length) ∨
      ∃ f, e = .badNumber f ∧ NumberFails text f := by
  rw [read] at h
  cases hts : tokens text with
  | error e' =>
      rw [hts] at h
      cases h
      obtain ⟨problem, offset, near, he, hlt⟩ := exists_of_tokens_error hts
      exact Or.inl ⟨problem, offset, near, he, Nat.le_of_lt hlt⟩
  | ok ts =>
      rw [hts, ok_bind] at h
      cases readTokens_blames h with
      | atEnd problem => exact Or.inl ⟨problem, _, _, rfl, Nat.le_refl _⟩
      | atToken problem ht =>
          exact Or.inl ⟨problem, _, _, rfl, Nat.le_of_lt (offset_lt_of_tokens hts _ ht)⟩
      | number ht hform hf => exact Or.inr ⟨_, rfl, ts, hts, _, ht, _, _, hform, hf⟩
      | regex ht hform hf hne =>
          obtain ⟨problem, position, he⟩ := hregexes ts hts _ ht hform _ hf
          exact absurd he (hne problem position)

end Pattern

end Treebank
