import Treebank.Description

/-!
# Relations between nodes

The relations in which patterns put two nodes of a tree, and the signs that stand for them.
-/

namespace Treebank

inductive Relation where
  | parentOf
  | childOf
  | dominates
  | dominatedBy
  | sister
  | immediateLeftSister
  | immediateRightSister
  | leftSister
  | rightSister
  | immediatelyPrecedes
  | precedes
  | immediatelyFollows
  | follows
  | identity
  | immediatelyHeadedBy
  | immediateHeadOf
  | headedBy
  | headOf
  | firstChild
  | lastChild
  | onlyChild
  | firstChildOf
  | lastChildOf
  | onlyChildOf
  | leftmostDescendant
  | rightmostDescendant
  | leftmostDescendantOf
  | rightmostDescendantOf
  | unaryPathTo
  | unaryPathFrom
  /-- Child number `index`, counted from one, or from the right if negative. No child has number
  zero or none at all. -/
  | ithChild (index : Option Int)
  | ithChildOf (index : Option Int)
  /-- Dominance in which all nodes in between fit the description. -/
  | dominatesVia (via : Description)
  | dominatedByVia (via : Description)
deriving Repr, DecidableEq

namespace Relation

/-- A number of a child, as relations write it. -/
def indexText : Option Int → String
  | some i => toString i
  | none => "None"

/-- The sign of a relation, without what is put after it. -/
def sign : Relation → String
  | parentOf => "<"
  | childOf => ">"
  | dominates => "<<"
  | dominatedBy => ">>"
  | sister => "$"
  | immediateLeftSister => "$+"
  | immediateRightSister => "$-"
  | leftSister => "$++"
  | rightSister => "$--"
  | immediatelyPrecedes => "."
  | precedes => ".."
  | immediatelyFollows => ","
  | follows => ",,"
  | identity => "=="
  | immediatelyHeadedBy => "<#"
  | immediateHeadOf => ">#"
  | headedBy => "<<#"
  | headOf => ">>#"
  | firstChild => "<,"
  | lastChild => "<-"
  | onlyChild => "<:"
  | firstChildOf => ">,"
  | lastChildOf => ">-"
  | onlyChildOf => ">:"
  | leftmostDescendant => "<<,"
  | rightmostDescendant => "<<-"
  | leftmostDescendantOf => ">>,"
  | rightmostDescendantOf => ">>-"
  | unaryPathTo => "<<:"
  | unaryPathFrom => ">>:"
  | ithChild _ => "<"
  | ithChildOf _ => ">"
  | dominatesVia _ => "<+"
  | dominatedByVia _ => ">+"

/-- The relation as patterns write it. -/
def text (r : Relation) : String :=
  match r with
  | ithChild i => r.sign ++ indexText i
  | ithChildOf i => r.sign ++ indexText i
  | dominatesVia d => r.sign ++ "(" ++ d.text ++ ")"
  | dominatedByVia d => r.sign ++ "(" ++ d.text ++ ")"
  | _ => r.sign

/-- The relations that a sign alone determines. -/
def plain : List Relation := [
  parentOf, childOf, dominates, dominatedBy, sister, immediateLeftSister, immediateRightSister,
  leftSister, rightSister, immediatelyPrecedes, precedes, immediatelyFollows, follows, identity,
  immediatelyHeadedBy, immediateHeadOf, headedBy, headOf, firstChild, lastChild, onlyChild,
  firstChildOf, lastChildOf, onlyChildOf, leftmostDescendant, rightmostDescendant,
  leftmostDescendantOf, rightmostDescendantOf, unaryPathTo, unaryPathFrom]

end Relation

/-- A sign at the beginning of a relation: that of a plain relation, or one that takes a description
of the nodes in between. -/
inductive RelationSign where
  | plain (r : Relation)
  | down
  | up
deriving Repr, DecidableEq

namespace RelationSign

/-- Other spellings of the sister relations. -/
def aliases : List (String × Relation) := [
  ("$.", .immediateLeftSister), ("$,", .immediateRightSister), ("$..", .leftSister),
  ("$,,", .rightSister)]

/-- Every sign with what it stands for. -/
def all : List (String × RelationSign) :=
  Relation.plain.map (fun r => (r.sign, plain r))
    ++ [("<+", down), (">+", up)]
    ++ aliases.map fun (s, r) => (s, plain r)

/-- Every sign with what it stands for, longer signs before shorter ones. -/
def longestFirst : List (String × RelationSign) :=
  [3, 2, 1].flatMap fun n => all.filter fun (s, _) => s.length == n

/-- What a sign stands for. -/
def ofText? (s : String) : Option RelationSign := all.lookup s

end RelationSign

end Treebank
