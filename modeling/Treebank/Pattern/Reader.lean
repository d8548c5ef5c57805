import Treebank.Pattern
import Treebank.Pattern.Token
import Treebank.Regex.Reader

/-!
# Reading patterns

A node pattern is a description or a name, followed by relations. Relations side by side, or joined
by an ampersand, hold together; a bar between them makes alternatives, which binds weaker. Square
brackets group relations, round brackets a partner with relations of its own.

Every function takes the tokens from a place on and gives back those it has left. The bound on the
number of calls in a row is never reached, since every few calls take a token.
-/

namespace Treebank.Pattern

/-- The fault that shows at the first of the remaining tokens, or at the end. -/
def Error.atTokens (text : String) (problem : Problem) : List Token → Error
  | [] => .malformed problem text.length endName text
  | t :: _ => .malformed problem t.offset t.text text

/-- Takes a token of a form. -/
def expect (text : String) (form : Form) (what : String) (ts : List Token) :
    Except Error (Token × List Token) :=
  match ts with
  | t :: rest => if t.form == form then .ok (t, rest) else .error (.atTokens text (.expected what) ts)
  | [] => .error (.atTokens text (.expected what) ts)

/-- The regular expression of a token. -/
def readRegex (text : String) (t : Token) : Except Error Regex :=
  match Regex.parse t.text with
  | .ok r => .ok r
  | .error (.malformed p q) =>
    .error (.atTokens text (.badRegex t.text (.malformed p q)) [t])
  | .error e => .error (.refusedRegex e)

/-- One condition on a label. -/
def readAtom (text : String) (ts : List Token) : Except Error (LabelAtom × List Token) :=
  match ts with
  | [] => .error (.atTokens text .nodeExpected ts)
  | t :: rest =>
    match t.form with
    | .label => .ok (if t.text == "__" then .any else .literal t.text, rest)
    | .quoted => .ok (.literal t.text, rest)
    | .regex => do return (.regex (← readRegex text t), rest)
    | .at => do
      let (name, rest) ← expect text .label "a category after '@'" rest
      return (.category name.text, rest)
    | _ => .error (.atTokens text .nodeExpected ts)

/-- The token may begin a condition on a label. -/
def Token.opensAtom (t : Token) : Bool :=
  t.form == .label || t.form == .regex || t.form == .quoted || t.form == .at

/-- Further conditions, each after a bar with no blanks around it. -/
def readMoreAtoms (text : String) : Nat → List Token → Except Error (List LabelAtom × List Token)
  | fuel + 1, t :: u :: rest =>
    if t.form == .pipe && !t.spacedBefore && !t.spacedAfter && u.opensAtom then do
      let (atom, ts) ← readAtom text (u :: rest)
      let (atoms, ts) ← readMoreAtoms text fuel ts
      return (atom :: atoms, ts)
    else .ok ([], t :: u :: rest)
  | _, ts => .ok ([], ts)

/-- A description of a label. -/
def readDescription (text : String) (ts : List Token) :
    Except Error (Description × List Token) := do
  let (negated, ts) :=
    match ts with
    | t :: rest => if t.form == .bang then (true, rest) else (false, ts)
    | [] => (false, ts)
  let (atom, ts) ← readAtom text ts
  let (atoms, ts) ← readMoreAtoms text ts.length ts
  return (⟨atom :: atoms, negated⟩, ts)

/-- A capture name, if one comes next. -/
def readName? (ts : List Token) : Option String × List Token :=
  match ts with
  | t :: rest => if t.form == .name then (some t.text, rest) else (none, ts)
  | [] => (none, ts)

/-- A description with or without a name, or a name alone. -/
def readHead (text : String) (ts : List Token) :
    Except Error ((Option Description × Option String) × List Token) :=
  match ts with
  | [] => .error (.atTokens text .nodeExpected ts)
  | t :: rest =>
    if t.form == .name then .ok ((none, some t.text), rest)
    else do
      let (d, ts) ← readDescription text ts
      let (name, ts) := readName? ts
      return ((some d, name), ts)

/-- The relation that a token begins; `none` if it begins none. -/
def readRelation (text : String) (t : Token) (rest : List Token) :
    Option (Except Error (Relation × List Token)) :=
  match t.form with
  | .numbered down digits =>
    some <|
      match Text.readInt digits.toList with
      | .error f => .error (.badNumber f)
      | .ok i =>
        if i == 0 then .error (.atTokens text .childZero [t])
        else .ok (if down then .ithChild (some i) else .ithChildOf (some i), rest)
  | .sign (.plain r) => some (.ok (r, rest))
  | .sign s =>
    some do
      let (_, ts) ← expect text .leftParen s!"'(' after {t.text}" rest
      let (via, ts) ← readDescription text ts
      let (_, ts) ← expect text .rightParen "')'" ts
      return (if s == .down then .dominatesVia via else .dominatedByVia via, ts)
  | _ => none

/-- The next token begins a relation or joins one. -/
def opensRelation : List Token → Bool
  | [] => false
  | t :: _ =>
    match t.form with
    | .numbered .. | .sign _ | .bang | .question | .leftBracket | .ampersand => true
    | _ => false

/-- The next token is of this form. -/
def nextIs (form : Form) : List Token → Bool
  | [] => false
  | t :: _ => t.form == form

/-- A list of one constraint is that constraint. -/
def conjoin : List Constraint → Constraint
  | [c] => c
  | cs => .all cs

/-- A choice of one constraint is that constraint. -/
def choose : List Constraint → Constraint
  | [c] => c
  | cs => .choice cs

/-- A node pattern with further relations after its closing bracket. -/
def addConstraint (p : NodePattern) (extra : Option Constraint) : NodePattern :=
  match p, extra with
  | .node l n (some c), some e => .node l n (some (.all [c, e]))
  | .node l n none, some e => .node l n (some e)
  | p, none => p

mutual
/-- A node pattern. -/
def readNode (text : String) : Nat → List Token → Except Error (NodePattern × List Token)
  | 0, ts => .error (.atTokens text .nodeExpected ts)
  | fuel + 1, ts =>
    if nextIs .leftParen ts then do
      let (inner, ts) ← readNode text fuel ts.tail
      let (_, ts) ← expect text .rightParen "')'" ts
      let (extra, ts) ← readRelations? text fuel ts
      return (addConstraint inner extra, ts)
    else do
      let ((label, name), ts) ← readHead text ts
      let (constraint, ts) ← readRelations? text fuel ts
      return (.node label name constraint, ts)
/-- Relations, if a token begins some. -/
def readRelations? (text : String) : Nat → List Token → Except Error (Option Constraint × List Token)
  | 0, ts => .ok (none, ts)
  | fuel + 1, ts =>
    if opensRelation ts then do
      let (c, ts) ← readRelations text fuel ts
      return (some c, ts)
    else .ok (none, ts)
/-- Alternatives between relations. -/
def readRelations (text : String) : Nat → List Token → Except Error (Constraint × List Token)
  | 0, ts => .error (.atTokens text .relationExpected ts)
  | fuel + 1, ts => do
    let (first, ts) ← readJoined text fuel ts
    let (others, ts) ← readBranches text fuel ts
    return (choose (first :: others), ts)
/-- The alternatives after the first. -/
def readBranches (text : String) : Nat → List Token → Except Error (List Constraint × List Token)
  | 0, ts => .ok ([], ts)
  | fuel + 1, ts =>
    if nextIs .pipe ts then do
      let (c, ts) ← readJoined text fuel ts.tail
      let (cs, ts) ← readBranches text fuel ts
      return (c :: cs, ts)
    else .ok ([], ts)
/-- Relations that hold together. -/
def readJoined (text : String) : Nat → List Token → Except Error (Constraint × List Token)
  | 0, ts => .error (.atTokens text .relationExpected ts)
  | fuel + 1, ts =>
    if nextIs .ampersand ts then .error (.atTokens text .strayAmpersand ts)
    else do
      let (first, ts) ← readUnary text fuel ts
      let (others, ts) ← readMore text fuel ts
      return (conjoin (first :: others), ts)
/-- The relations after the first. -/
def readMore (text : String) : Nat → List Token → Except Error (List Constraint × List Token)
  | 0, ts => .ok ([], ts)
  | fuel + 1, ts =>
    if opensRelation ts then do
      let (c, ts) ← readUnary text fuel (if nextIs .ampersand ts then ts.tail else ts)
      let (cs, ts) ← readMore text fuel ts
      return (c :: cs, ts)
    else .ok ([], ts)
/-- One relation, negated, optional, or several in square brackets. -/
def readUnary (text : String) : Nat → List Token → Except Error (Constraint × List Token)
  | 0, ts => .error (.atTokens text .relationExpected ts)
  | _ + 1, [] => .error (.atTokens text .relationExpected [])
  | fuel + 1, t :: rest =>
    match t.form with
    | .bang => do
      let (c, ts) ← readUnary text fuel rest
      return (.not c, ts)
    | .question => do
      let (c, ts) ← readUnary text fuel rest
      return (.maybe c, ts)
    | .leftBracket => do
      let (c, ts) ← readRelations text fuel rest
      let (_, ts) ← expect text .rightBracket "']'" ts
      return (c, ts)
    | _ =>
      match readRelation text t rest with
      | none => .error (.atTokens text .relationExpected (t :: rest))
      | some found => do
        let (r, ts) ← found
        let (partner, ts) ← readPartner text fuel ts
        return (.rel r partner, ts)
/-- The partner in a relation. -/
def readPartner (text : String) : Nat → List Token → Except Error (NodePattern × List Token)
  | 0, ts => .error (.atTokens text .nodeExpected ts)
  | fuel + 1, ts =>
    if nextIs .leftParen ts then do
      let (inner, ts) ← readNode text fuel ts.tail
      let (_, ts) ← expect text .rightParen "')'" ts
      return (inner, ts)
    else do
      let ((label, name), ts) ← readHead text ts
      return (.node label name none, ts)
end

/-- More calls in a row than any text with so many tokens asks for. -/
def callLimit (count : Nat) : Nat := 8 * count + 8

/-- The pattern that tokens write. -/
def readTokens (text : String) (ts : List Token) : Except Error NodePattern :=
  if ts.isEmpty then .error (.atTokens text .empty [])
  else do
    let (p, rest) ← readNode text (callLimit ts.length) ts
    if rest.isEmpty then return p else .error (.atTokens text .trailing rest)

/-- The pattern that a text writes. -/
def read (text : String) : Except Error NodePattern := do readTokens text (← tokens text)

end Treebank.Pattern
