import Treebank.Head.Category
import Treebank.Regex.Matching

/-!
# Descriptions of labels

A description is a choice between conditions on a label, and may be negated as a whole.
-/

namespace Treebank

/-- One condition on a label. -/
inductive LabelAtom where
  /-- Every label. -/
  | any
  /-- Exactly this label. -/
  | literal (label : String)
  /-- A label in which the expression occurs. -/
  | regex (r : Regex)
  /-- A label of this basic category. -/
  | category (name : String)
deriving Repr, DecidableEq

namespace LabelAtom

/-- The label meets the condition. -/
def accepts (category : BasicCategory) (label : String) : LabelAtom → Bool
  | any => true
  | literal l => label == l
  | regex r => r.occursIn label
  | .category name => category label == name

/-- A regular expression between slashes, with a backslash before each slash of its own. -/
def escapeSlashes (cs : List Char) : List Char :=
  cs.flatMap fun c => if c == '/' then ['\\', '/'] else [c]

/-- The condition as patterns write it; a literal label stands as it is. -/
def spell : LabelAtom → List Char
  | any => ['_', '_']
  | literal l => l.toList
  | regex r => '/' :: escapeSlashes r.source.toList ++ ['/']
  | category name => '@' :: name.toList

end LabelAtom

/-- A choice between conditions on a label, or the negation of one. -/
structure Description where
  atoms : List LabelAtom
  negated : Bool
deriving Repr, DecidableEq

namespace Description

/-- The description fits the label. -/
def accepts (d : Description) (category : BasicCategory) (label : String) : Bool :=
  d.atoms.any (LabelAtom.accepts category label) != d.negated

/-- The description as patterns write it. -/
def spell (d : Description) : List Char :=
  let choice := List.intercalate ['|'] (d.atoms.map LabelAtom.spell)
  if d.negated then '!' :: choice else choice

def text (d : Description) : String := String.ofList d.spell

end Description

end Treebank
