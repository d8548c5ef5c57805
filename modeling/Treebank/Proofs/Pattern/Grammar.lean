import Treebank.Pattern.Reader

/-!
# The grammar of patterns

Derivation trees with tokens at their leaves. A tree writes its tokens from left to right and stands
for a pattern. Where a part of a pattern can end shows at the token after it, so that no tokens are
written by two trees.

    node         ::= "(" node ")" further | head further
    head         ::= NAME | alternatives NAME?
    alternatives ::= "!"? atom ("|" atom)*            -- bars without blanks beside them
    atom         ::= LABEL | QUOTED | REGEX | "@" LABEL
    further      ::= relations?
    relations    ::= joined ("|" joined)*
    joined       ::= unary ("&"? unary)*
    unary        ::= "!" unary | "?" unary | "[" relations "]" | sign partner
    partner      ::= "(" node ")" | head
    sign         ::= SIGN | NUMBERED | ("<" | ">") "(" alternatives ")"
-/

namespace Treebank.Pattern.Grammar

open Text (readNat?)

/-! ## Derivation trees -/

/-- A token of a form. -/
abbrev TokenOf (f : Form) : Type := { t : Token // t.form = f }

/-- A bar without blanks on either side. -/
abbrev TightBar : Type :=
  { t : Token // t.form = .pipe ∧ t.spacedBefore = false ∧ t.spacedAfter = false }

/-- The number of a child: decimal digits, with or without a minus sign before them. -/
def childIndex? : List Char → Option Int
  | '-' :: ds => (readNat? ds).map fun n : Nat => -(n : Int)
  | ds => (readNat? ds).map Int.ofNat

/-- A condition on a label. -/
inductive Atom where
  | label (t : TokenOf .label)
  | quoted (t : TokenOf .quoted)
  | regex (t : TokenOf .regex) (r : Regex) (h : Regex.parse t.val.text = .ok r)
  | category (sign : TokenOf .at) (name : TokenOf .label)

/-- One or more conditions with tight bars between them, negated or not. -/
structure Alternatives where
  bang : Option (TokenOf .bang)
  first : Atom
  others : List (TightBar × Atom)

/-- The beginning of a node pattern: a name, or a description with or without one. -/
inductive Head where
  | named (name : TokenOf .name)
  | described (label : Alternatives) (name : Option (TokenOf .name))

/-- A relation: a plain sign, one with a number other than zero, or one with a description of the
nodes in between. -/
inductive Sign where
  | plain (t : Token) (r : Relation) (h : t.form = .sign (.plain r))
  | numbered (t : Token) (down : Bool) (digits : String) (h : t.form = .numbered down digits)
      (i : Int) (hi : childIndex? digits.toList = some i) (hne : i ≠ 0)
  | via (t : Token) (down : Bool) (h : t.form = .sign (if down then .down else .up))
      (opening : TokenOf .leftParen) (d : Alternatives) (closing : TokenOf .rightParen)

mutual
/-- A node pattern in brackets or not, with the relations after it. -/
inductive Node where
  | bracketed (opening : TokenOf .leftParen) (inner : Node) (closing : TokenOf .rightParen)
      (further : Further)
  | headed (head : Head) (further : Further)
/-- Relations, or none. -/
inductive Further where
  | nothing
  | relations (rs : Relations)
/-- Relations with bars between alternatives. -/
inductive Relations where
  | mk (first : Joined) (others : Branches)
/-- The alternatives after the first. -/
inductive Branches where
  | nil
  | cons (bar : TokenOf .pipe) (branch : Joined) (others : Branches)
/-- Relations side by side, or with ampersands between them. -/
inductive Joined where
  | mk (first : Unary) (others : More)
/-- The relations after the first. -/
inductive More where
  | nil
  | beside (u : Unary) (others : More)
  | joined (ampersand : TokenOf .ampersand) (u : Unary) (others : More)
/-- One relation, negated, optional, or several in square brackets. -/
inductive Unary where
  | negated (bang : TokenOf .bang) (u : Unary)
  | maybe (question : TokenOf .question) (u : Unary)
  | grouped (opening : TokenOf .leftBracket) (rs : Relations) (closing : TokenOf .rightBracket)
  | related (sign : Sign) (partner : Partner)
/-- The partner in a relation. -/
inductive Partner where
  | bracketed (opening : TokenOf .leftParen) (inner : Node) (closing : TokenOf .rightParen)
  | headed (head : Head)
end

/-! ## What a derivation tree writes -/

def Atom.tokens : Atom → List Token
  | label t => [t.val]
  | quoted t => [t.val]
  | regex t _ _ => [t.val]
  | category sign name => [sign.val, name.val]

/-- The tokens of conditions after the first. -/
def tokensOfOthers (others : List (TightBar × Atom)) : List Token :=
  others.flatMap fun (bar, a) => bar.val :: a.tokens

def Alternatives.tokens (d : Alternatives) : List Token :=
  d.bang.toList.map (·.val) ++ (d.first.tokens ++ tokensOfOthers d.others)

def Head.tokens : Head → List Token
  | named name => [name.val]
  | described label name => label.tokens ++ name.toList.map (·.val)

def Sign.tokens : Sign → List Token
  | plain t _ _ => [t]
  | numbered t _ _ _ _ _ _ => [t]
  | via t _ _ opening d closing => t :: opening.val :: (d.tokens ++ [closing.val])

mutual
def Node.tokens : Node → List Token
  | .bracketed opening inner closing further =>
    opening.val :: (inner.tokens ++ closing.val :: further.tokens)
  | .headed head further => head.tokens ++ further.tokens
def Further.tokens : Further → List Token
  | .nothing => []
  | .relations rs => rs.tokens
def Relations.tokens : Relations → List Token
  | .mk first others => first.tokens ++ others.tokens
def Branches.tokens : Branches → List Token
  | .nil => []
  | .cons bar branch others => bar.val :: (branch.tokens ++ others.tokens)
def Joined.tokens : Joined → List Token
  | .mk first others => first.tokens ++ others.tokens
def More.tokens : More → List Token
  | .nil => []
  | .beside u others => u.tokens ++ others.tokens
  | .joined ampersand u others => ampersand.val :: (u.tokens ++ others.tokens)
def Unary.tokens : Unary → List Token
  | .negated bang u => bang.val :: u.tokens
  | .maybe question u => question.val :: u.tokens
  | .grouped opening rs closing => opening.val :: (rs.tokens ++ [closing.val])
  | .related sign partner => sign.tokens ++ partner.tokens
def Partner.tokens : Partner → List Token
  | .bracketed opening inner closing => opening.val :: (inner.tokens ++ [closing.val])
  | .headed head => head.tokens
end

/-! ## What a derivation tree stands for -/

def Atom.condition : Atom → LabelAtom
  | label t => if t.val.text == "__" then .any else .literal t.val.text
  | quoted t => .literal t.val.text
  | regex _ r _ => .regex r
  | category _ name => .category name.val.text

def Alternatives.description (d : Alternatives) : Description :=
  ⟨d.first.condition :: d.others.map (·.2.condition), d.bang.isSome⟩

def Head.label? : Head → Option Description
  | named _ => none
  | described label _ => some label.description

def Head.name? : Head → Option String
  | named name => some name.val.text
  | described _ name => name.map (·.val.text)

def Sign.relation : Sign → Relation
  | plain _ r _ => r
  | numbered _ down _ _ i _ _ => if down then .ithChild (some i) else .ithChildOf (some i)
  | via _ down _ _ d _ =>
    if down then .dominatesVia d.description else .dominatedByVia d.description

mutual
/-- Relations after the closing bracket hold together with those in the brackets. -/
def Node.pattern : Node → NodePattern
  | .bracketed _ inner _ further => addConstraint inner.pattern further.constraint?
  | .headed head further => .node head.label? head.name? further.constraint?
def Further.constraint? : Further → Option Constraint
  | .nothing => none
  | .relations rs => some rs.constraint
def Relations.constraint : Relations → Constraint
  | .mk first others => choose (first.constraint :: others.constraints)
def Branches.constraints : Branches → List Constraint
  | .nil => []
  | .cons _ branch others => branch.constraint :: others.constraints
def Joined.constraint : Joined → Constraint
  | .mk first others => conjoin (first.constraint :: others.constraints)
def More.constraints : More → List Constraint
  | .nil => []
  | .beside u others => u.constraint :: others.constraints
  | .joined _ u others => u.constraint :: others.constraints
def Unary.constraint : Unary → Constraint
  | .negated _ u => .not u.constraint
  | .maybe _ u => .maybe u.constraint
  | .grouped _ rs _ => rs.constraint
  | .related sign partner => .rel sign.relation partner.pattern
def Partner.pattern : Partner → NodePattern
  | .bracketed _ inner _ => inner.pattern
  | .headed head => .node head.label? head.name? none
end

/-! ## First tokens -/

/-- A token of the form begins a condition on a label. -/
def opensAtom : Form → Bool
  | .label | .quoted | .regex | .at => true
  | _ => false

/-- A token of the form begins a head. -/
def opensHead : Form → Bool
  | .name | .bang => true
  | f => opensAtom f

/-- A token of the form begins a relation. -/
def opensUnary : Form → Bool
  | .numbered .. | .sign _ | .bang | .question | .leftBracket => true
  | _ => false

/-- The tokens begin with one of such a form. -/
def BeginsWith (opens : Form → Bool) (ts : List Token) : Prop :=
  ∃ t us, ts = t :: us ∧ opens t.form = true

section

variable {opens : Form → Bool} {f : Form} {t : Token} {ts us : List Token}

theorem BeginsWith.append (h : BeginsWith opens ts) (us : List Token) :
    BeginsWith opens (ts ++ us) := by
  obtain ⟨t, vs, rfl, ht⟩ := h
  exact ⟨t, vs ++ us, rfl, ht⟩

theorem BeginsWith.mono {opens' : Form → Bool} (h : BeginsWith opens ts)
    (himp : ∀ f, opens f = true → opens' f = true) : BeginsWith opens' ts := by
  obtain ⟨t, us, rfl, ht⟩ := h
  exact ⟨t, us, rfl, himp _ ht⟩

theorem beginsWith_of (t : TokenOf f) (hf : opens f = true) : BeginsWith opens (t.val :: ts) :=
  ⟨t.val, ts, rfl, by rw [t.property, hf]⟩

theorem BeginsWith.nextIs_eq_false (h : BeginsWith opens ts) (hf : opens f = false) :
    nextIs f ts = false := by
  obtain ⟨t, us, rfl, ht⟩ := h
  rw [nextIs, beq_eq_false_iff_ne]
  rintro rfl
  rw [ht] at hf
  cases hf

theorem nextIs_of (t : TokenOf f) (ts : List Token) : nextIs f (t.val :: ts) = true := by
  simp [nextIs, t.property]

theorem nextIs_of_ne {g : Form} (t : TokenOf g) (h : g ≠ f) : nextIs f (t.val :: ts) = false := by
  simp [nextIs, t.property, h]

end

theorem opensAtom_eq (t : Token) : t.opensAtom = opensAtom t.form := by
  rw [Token.opensAtom]
  cases t.form <;> rfl

/-- The form of the first token. -/
def Atom.form : Atom → Form
  | label _ => .label
  | quoted _ => .quoted
  | regex _ _ _ => .regex
  | category _ _ => .at

theorem Atom.opensAtom_form (a : Atom) : opensAtom a.form = true := by
  cases a <;> rfl

theorem Atom.exists_cons (a : Atom) : ∃ t ts, a.tokens = t :: ts ∧ t.form = a.form := by
  cases a with
  | label t => exact ⟨t.val, [], rfl, t.property⟩
  | quoted t => exact ⟨t.val, [], rfl, t.property⟩
  | regex t r h => exact ⟨t.val, [], rfl, t.property⟩
  | category sign name => exact ⟨sign.val, [name.val], rfl, sign.property⟩

theorem Atom.beginsWith (a : Atom) : BeginsWith opensAtom a.tokens := by
  obtain ⟨t, ts, ha, ht⟩ := a.exists_cons
  exact ⟨t, ts, ha, by rw [ht, a.opensAtom_form]⟩

theorem Alternatives.beginsWith (d : Alternatives) :
    BeginsWith (fun f => f == .bang || opensAtom f) d.tokens := by
  obtain ⟨bang, first, others⟩ := d
  cases bang with
  | none =>
      exact (first.beginsWith.append _).mono fun f hf => by rw [hf, Bool.or_true]
  | some b => exact beginsWith_of b rfl

theorem Head.beginsWith (h : Head) : BeginsWith opensHead h.tokens := by
  cases h with
  | named name => exact beginsWith_of name rfl
  | described label name =>
      refine (label.beginsWith.append _).mono fun f hf => ?_
      cases f <;> first | rfl | cases hf

theorem Sign.beginsWith (s : Sign) :
    BeginsWith (fun f => match f with | .sign _ | .numbered .. => true | _ => false) s.tokens := by
  cases s with
  | plain t r h => exact ⟨t, [], rfl, by rw [h]⟩
  | numbered t down digits h i hi hne => exact ⟨t, [], rfl, by rw [h]⟩
  | via t down h opening d closing => exact ⟨t, _, rfl, by rw [h]⟩

theorem Unary.beginsWith (u : Unary) : BeginsWith opensUnary u.tokens := by
  cases u with
  | negated bang u => exact beginsWith_of bang rfl
  | maybe question u => exact beginsWith_of question rfl
  | grouped opening rs closing => exact beginsWith_of opening rfl
  | related sign partner =>
      refine (sign.beginsWith.append _).mono fun f hf => ?_
      cases f <;> first | rfl | cases hf

theorem Joined.beginsWith (j : Joined) : BeginsWith opensUnary j.tokens := by
  obtain ⟨first, others⟩ := j
  exact first.beginsWith.append _

theorem Relations.beginsWith (rs : Relations) : BeginsWith opensUnary rs.tokens := by
  obtain ⟨first, others⟩ := rs
  exact first.beginsWith.append _

/-! ## Where a part can end -/

/-- The tokens go on with a bar that joins labels. -/
def joinsAtom : List Token → Bool
  | t :: u :: _ => t.form == .pipe && !t.spacedBefore && !t.spacedAfter && u.opensAtom
  | _ => false

/-- A head can end before the tokens: they begin neither with a name nor with a bar that joins
labels. -/
structure EndsHead (ts : List Token) : Prop where
  unnamed : nextIs .name ts = false
  apart : joinsAtom ts = false

/-- Relations that hold together can end before the tokens: they begin no further one. -/
structure EndsJoined (ts : List Token) : Prop extends EndsHead ts where
  unrelated : opensRelation ts = false

/-- A node pattern can end before the tokens: they add no alternative either. -/
structure EndsNode (ts : List Token) : Prop extends EndsJoined ts where
  single : nextIs .pipe ts = false

theorem endsNode_nil : EndsNode [] := ⟨⟨⟨rfl, rfl⟩, rfl⟩, rfl⟩

section

variable {f : Form} {t : Token} {ts : List Token}

theorem joinsAtom_of_form (h : t.form ≠ .pipe) : joinsAtom (t :: ts) = false := by
  cases ts with
  | nil => rfl
  | cons u ts => simp [joinsAtom, h]

theorem joinsAtom_of_beginsWith (h : BeginsWith opensUnary ts) : joinsAtom (t :: ts) = false := by
  obtain ⟨u, us, rfl, hu⟩ := h
  have hatom : u.opensAtom = false := by
    rw [opensAtom_eq]
    generalize u.form = f at hu
    cases f <;> first | rfl | cases hu
  rw [joinsAtom, hatom, Bool.and_false]

theorem endsNode_rightParen (t : TokenOf .rightParen) (ts : List Token) :
    EndsNode (t.val :: ts) where
  unnamed := nextIs_of_ne t nofun
  apart := joinsAtom_of_form (by rw [t.property]; nofun)
  unrelated := by rw [opensRelation, t.property]
  single := nextIs_of_ne t nofun

theorem endsNode_rightBracket (t : TokenOf .rightBracket) (ts : List Token) :
    EndsNode (t.val :: ts) where
  unnamed := nextIs_of_ne t nofun
  apart := joinsAtom_of_form (by rw [t.property]; nofun)
  unrelated := by rw [opensRelation, t.property]
  single := nextIs_of_ne t nofun

theorem endsHead_of_beginsWith (h : BeginsWith opensUnary ts) : EndsHead ts where
  unnamed := h.nextIs_eq_false rfl
  apart := by
    obtain ⟨t, us, rfl, ht⟩ := h
    refine joinsAtom_of_form fun hform => ?_
    rw [hform] at ht
    cases ht

theorem opensRelation_of_beginsWith (h : BeginsWith opensUnary ts) : opensRelation ts = true := by
  obtain ⟨t, us, rfl, ht⟩ := h
  rw [opensRelation]
  generalize t.form = f at ht
  cases f <;> first | rfl | cases ht

theorem opensRelation_ampersand (t : TokenOf .ampersand) (ts : List Token) :
    opensRelation (t.val :: ts) = true := by
  rw [opensRelation, t.property]

theorem More.opensRelation_beside (u : Unary) (others : More) (ts : List Token) :
    opensRelation ((More.beside u others).tokens ++ ts) = true :=
  opensRelation_of_beginsWith ((u.beginsWith.append _).append _)

theorem More.endsHead (m : More) (h : EndsJoined ts) : EndsHead (m.tokens ++ ts) := by
  cases m with
  | nil => exact h.toEndsHead
  | beside u others =>
      exact endsHead_of_beginsWith ((u.beginsWith.append _).append _)
  | joined ampersand u others =>
      exact ⟨nextIs_of_ne ampersand nofun,
        joinsAtom_of_form (by rw [ampersand.property]; nofun)⟩

theorem Branches.endsJoined (b : Branches) (h : EndsNode ts) : EndsJoined (b.tokens ++ ts) := by
  cases b with
  | nil => exact h.toEndsJoined
  | cons bar branch others =>
      refine ⟨⟨nextIs_of_ne bar nofun, ?_⟩, by simp [tokens, opensRelation, bar.property]⟩
      exact joinsAtom_of_beginsWith ((branch.beginsWith.append _).append _)

theorem Further.endsHead (r : Further) (h : EndsNode ts) : EndsHead (r.tokens ++ ts) := by
  cases r with
  | nothing => exact h.toEndsHead
  | relations rs => exact endsHead_of_beginsWith (rs.beginsWith.append _)

end

end Treebank.Pattern.Grammar
