import Treebank.Regex.CharTest

/-!
# Regular expressions

The syntax of regular expressions with captures, back references, looks ahead and behind,
conditions on captures, and greedy, lazy and possessive repetition.
-/

namespace Treebank.Regex

/-- A condition on a place between two characters. -/
inductive Anchor where
  | textStart
  | textEnd
  | lineStart
  | lineEnd
  /-- The end of the text, or before a line feed that ends it. -/
  | lastLineEnd
  | wordEdge (ascii : Bool)
  | noWordEdge (ascii : Bool)
deriving Repr, DecidableEq

/-- How a repetition chooses the number of turns. -/
inductive Mode where
  /-- As many as possible first. -/
  | greedy
  /-- As few as possible first. -/
  | lazy
  /-- As many as possible, and no other number. -/
  | possessive
deriving Repr, DecidableEq

/-- The least and the greatest number of characters that an expression matches. -/
structure Width where
  min : Nat
  max : Nat
deriving Repr, DecidableEq

namespace Width

/-- The greatest width that stands for this many characters or more. -/
def limit : Nat := 4294967295

/-- Widths are told apart up to a limit; a least width stays below it. -/
def capped (w : Width) : Width := ⟨Nat.min w.min (limit - 1), Nat.min w.max limit⟩

def zero : Width := ⟨0, 0⟩

def add (a b : Width) : Width := (⟨a.min + b.min, a.max + b.max⟩ : Width).capped

def either (a b : Width) : Width := ⟨Nat.min a.min b.min, Nat.max a.max b.max⟩

/-- The width of a number of turns. -/
def times (w : Width) (min : Nat) (max : Option Nat) : Width :=
  (⟨w.min * min, w.max * max.getD limit⟩ : Width).capped

end Width

inductive Expr where
  | empty
  | char (test : CharTest)
  | anchor (a : Anchor)
  | seq (first second : Expr)
  | alt (first second : Expr)
  /-- An expression in brackets with flags of its own. -/
  | group (body : Expr)
  | capture (number : Nat) (body : Expr)
  | backref (number : Nat) (fold : Fold)
  | ahead (negated : Bool) (body : Expr)
  /-- The characters before here, as many as the body is wide, match the body. -/
  | behind (negated : Bool) (width : Width) (body : Expr)
  /-- One of two expressions, depending on whether a group has captured. -/
  | cond (number : Nat) (yes no : Expr)
  | loop (mode : Mode) (min : Nat) (max : Option Nat) (body : Expr)
  /-- An expression whose first way of matching is final. -/
  | atomic (body : Expr)
deriving Repr, DecidableEq

/-- The width of an expression, given the widths of the groups it refers to. -/
def Expr.width (groups : Nat → Width) : Expr → Width
  | empty => .zero
  | char _ => ⟨1, 1⟩
  | anchor _ => .zero
  | seq a b => (a.width groups).add (b.width groups)
  | alt a b => (a.width groups).either (b.width groups)
  | group e => e.width groups
  | capture _ e => e.width groups
  | backref n _ => groups n
  | ahead _ _ => .zero
  | behind _ _ _ => .zero
  | cond _ yes no => (yes.width groups).either (no.width groups)
  | loop _ min max e => (e.width groups).times min max
  | atomic e => e.width groups

/-- The items of a sequence as one expression. -/
def Expr.ofItems : List Expr → Expr
  | [] => .empty
  | [e] => e
  | e :: es => .seq e (ofItems es)

/-- The alternatives of a choice as one expression. -/
def Expr.ofAlternatives : List Expr → Expr
  | [] => .empty
  | [e] => e
  | e :: es => .alt e (ofAlternatives es)

/-- The test of the character that an expression consists of. -/
def Expr.single? : Expr → Option CharTest
  | char test => some test
  | group e => e.single?
  | _ => none

/-- The test of the character that an expression begins with. -/
def Expr.first? : Expr → Option CharTest
  | char test => some test
  | seq a _ => a.first?
  | group e => e.first?
  | capture _ e => e.first?
  | _ => none

end Treebank.Regex

namespace Treebank

/-- A regular expression as written, what it means, and its groups. -/
structure Regex where
  source : String
  expr : Regex.Expr
  groupCount : Nat
  groupNames : List (String × Nat)
  /-- The least number of characters that it matches. -/
  least : Nat
  /-- The test of the characters at which a match is tried. -/
  candidate : Option Regex.CharTest
deriving Repr, DecidableEq

end Treebank
