import Treebank.Relation

/-!
# Tree patterns

A pattern describes a node by its label and by the relations in which it stands to other described
nodes. A described node may have a capture name. A node described by a name alone is the node
captured earlier under that name.
-/

namespace Treebank

mutual
inductive NodePattern where
  | node (label : Option Description) (name : Option String) (constraint : Option Constraint)
inductive Constraint where
  /-- The node stands in the relation to a node of the given description. -/
  | rel (relation : Relation) (partner : NodePattern)
  | all (items : List Constraint)
  /-- One of the items, tried in their order. -/
  | choice (items : List Constraint)
  | not (item : Constraint)
  /-- The item if it can be had, nothing otherwise. -/
  | maybe (item : Constraint)
end

instance : Inhabited NodePattern := ⟨.node none none none⟩

namespace NodePattern

def label : NodePattern → Option Description
  | node l _ _ => l

def name : NodePattern → Option String
  | node _ n _ => n

def constraint : NodePattern → Option Constraint
  | node _ _ c => c

end NodePattern

/-! ## Capture names -/

mutual
/-- The capture names of a node pattern, in their order and as often as they occur. -/
def NodePattern.names : NodePattern → List String
  | .node _ name none => name.toList
  | .node _ name (some c) => name.toList ++ c.names
def Constraint.names : Constraint → List String
  | .rel _ partner => partner.names
  | .all items => Constraint.namesOf items
  | .choice items => Constraint.namesOf items
  | .not item => item.names
  | .maybe item => item.names
def Constraint.namesOf : List Constraint → List String
  | [] => []
  | c :: cs => c.names ++ Constraint.namesOf cs
end

mutual
/-- The names that a match can bind: what is negated binds none. -/
def NodePattern.bindable : NodePattern → List String
  | .node _ name none => name.toList
  | .node _ name (some c) => name.toList ++ c.bindable
def Constraint.bindable : Constraint → List String
  | .rel _ partner => partner.bindable
  | .all items => Constraint.bindableOf items
  | .choice items => Constraint.bindableOf items
  | .not _ => []
  | .maybe item => item.bindable
def Constraint.bindableOf : List Constraint → List String
  | [] => []
  | c :: cs => c.bindable ++ Constraint.bindableOf cs
end

/-- A list of names sorted and without repetitions. -/
def sortedNames (names : List String) : List String :=
  names.eraseDups.mergeSort fun a b => decide (a ≤ b)

/-! ## Writing patterns -/

/-- A text in square brackets. -/
def bracketText (s : String) : String := "[" ++ s ++ "]"

/-- The label and the name of a node pattern as a text. -/
def headText (label : Option Description) (name : Option String) : String :=
  let described := match label with
    | none => ""
    | some d => d.text
  match name with
  | none => described
  | some n => described ++ "=" ++ n

mutual
/-- A node pattern as a text. -/
def NodePattern.text : NodePattern → String
  | .node label name none => headText label name
  | .node label name (some c) => headText label name ++ " " ++ c.text
/-- The partner in a relation; brackets keep its own relations apart. -/
def NodePattern.partnerText : NodePattern → String
  | .node label name none => headText label name
  | .node label name (some c) => "(" ++ headText label name ++ " " ++ c.text ++ ")"
/-- A constraint as a text. -/
def Constraint.text : Constraint → String
  | .rel r partner => r.text ++ " " ++ partner.partnerText
  | .all items => String.intercalate " " (Constraint.groupedTexts items)
  | .choice items => String.intercalate " | " (Constraint.groupedTexts items)
  | .not item => "!" ++ item.groupedText
  | .maybe item => "?" ++ item.groupedText
/-- A constraint as a part of another one; lists are in square brackets. -/
def Constraint.groupedText : Constraint → String
  | .rel r partner => r.text ++ " " ++ partner.partnerText
  | .all items => bracketText (String.intercalate " " (Constraint.groupedTexts items))
  | .choice items => bracketText (String.intercalate " | " (Constraint.groupedTexts items))
  | .not item => "!" ++ item.groupedText
  | .maybe item => "?" ++ item.groupedText
def Constraint.groupedTexts : List Constraint → List String
  | [] => []
  | c :: cs => c.groupedText :: Constraint.groupedTexts cs
end

end Treebank
