import Treebank.Head.Finder

/-!
# The Collins head rules

The head table of Collins (1999) for the categories of the Penn Treebank, and the choice of a head
finder by name or by a written table.
-/

namespace Treebank

/-- The head rule of each category. -/
def collinsRules : List (String × HeadRule) := [
  ("ADJP", ⟨.left, ["NNS", "QP", "NN", "$", "ADVP", "JJ", "VBN", "VBG", "ADJP", "JJR", "NP",
    "JJS", "DT", "FW", "RBR", "RBS", "SBAR", "RB"]⟩),
  ("ADVP", ⟨.right, ["RB", "RBR", "RBS", "FW", "ADVP", "TO", "CD", "JJR", "JJ", "IN", "NP", "JJS",
    "NN"]⟩),
  ("CONJP", ⟨.right, ["CC", "RB", "IN"]⟩),
  ("FRAG", ⟨.right, []⟩),
  ("INTJ", ⟨.left, []⟩),
  ("LST", ⟨.right, ["LS", ":"]⟩),
  ("NAC", ⟨.left, ["NN", "NNS", "NNP", "NNPS", "NP", "NAC", "EX", "$", "CD", "QP", "PRP", "VBG",
    "JJ", "JJS", "JJR", "ADJP", "FW"]⟩),
  ("PP", ⟨.right, ["IN", "TO", "VBG", "VBN", "RP", "FW"]⟩),
  ("PRN", ⟨.left, []⟩),
  ("PRT", ⟨.right, ["RP"]⟩),
  ("QP", ⟨.left, ["$", "IN", "NNS", "NN", "JJ", "RB", "DT", "CD", "NCD", "QP", "JJR", "JJS"]⟩),
  ("RRC", ⟨.right, ["VP", "NP", "ADVP", "ADJP", "PP"]⟩),
  ("S", ⟨.left, ["TO", "IN", "VP", "S", "SBAR", "ADJP", "UCP", "NP"]⟩),
  ("SBAR", ⟨.left, ["WHNP", "WHPP", "WHADVP", "WHADJP", "IN", "DT", "S", "SQ", "SINV", "SBAR",
    "FRAG"]⟩),
  ("SBARQ", ⟨.left, ["SQ", "S", "SINV", "SBARQ", "FRAG"]⟩),
  ("SINV", ⟨.left, ["VBZ", "VBD", "VBP", "VB", "MD", "VP", "S", "SINV", "ADJP", "NP"]⟩),
  ("SQ", ⟨.left, ["VBZ", "VBD", "VBP", "VB", "MD", "VP", "SQ"]⟩),
  ("UCP", ⟨.right, []⟩),
  ("VP", ⟨.left, ["TO", "VBD", "VBN", "MD", "VBZ", "VB", "VBG", "VBP", "VP", "ADJP", "NN", "NNS",
    "NP"]⟩),
  ("WHADJP", ⟨.left, ["CC", "WRB", "JJ", "ADJP"]⟩),
  ("WHADVP", ⟨.right, ["CC", "WRB"]⟩),
  ("WHNP", ⟨.left, ["WDT", "WP", "WP$", "WHADJP", "WHPP", "WHNP"]⟩),
  ("WHPP", ⟨.right, ["IN", "TO", "FW"]⟩),
  ("X", ⟨.right, []⟩)]

namespace HeadTable

/-- The Collins rules over a notion of category. -/
def collins (category : BasicCategory) : HeadTable := ⟨collinsRules, category, .left⟩

end HeadTable

/-- Why there is no head finder as asked for. -/
inductive HeadError where
  | unknownFinder (name : String)
  | badDefault (direction : String)
  | badRule (category direction : String)
deriving Repr, DecidableEq

/-- The wording of a fault. -/
def HeadError.message : HeadError → String
  | unknownFinder name => s!"Unknown head finder '{name}' (known: collins, left, right)"
  | badDefault d => s!"direction must be 'left' or 'right', got {Text.quoted d}"
  | badRule c d => s!"head rule for {c} has invalid direction {Text.quoted d}"

/-- The names of the head finders, sorted. -/
def HeadFinder.names : List String := ["collins", "left", "right"]

/-- The head finder of this name. -/
def HeadFinder.ofName (name : String) : Except HeadError HeadFinder :=
  match name with
  | "collins" => .ok (HeadTable.collins .stripped).finder
  | "left" => .ok firstChild
  | "right" => .ok lastChild
  | _ => .error (.unknownFinder name)

/-- A head rule whose direction is given by name. -/
structure WrittenRule where
  category : String
  direction : String
  priorities : List String

/-- The rule, if its direction is one. -/
def WrittenRule.toRule (w : WrittenRule) : Except HeadError (String × HeadRule) :=
  match Direction.ofName? w.direction with
  | some d => .ok (w.category, ⟨d, w.priorities⟩)
  | none => .error (.badRule w.category w.direction)

/-- The table of written rules; the Collins rules where none are given. The default direction is
looked at first, then the rules in their order. -/
def HeadTable.ofWritten (rules : Option (List WrittenRule)) (category : BasicCategory)
    (default : String) : Except HeadError HeadTable :=
  match Direction.ofName? default with
  | none => .error (.badDefault default)
  | some d =>
    match rules with
    | none => .ok ⟨collinsRules, category, d⟩
    | some ws => ws.mapM WrittenRule.toRule >>= fun rs => .ok ⟨rs, category, d⟩

end Treebank
