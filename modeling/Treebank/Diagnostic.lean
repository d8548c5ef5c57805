import Treebank.Statement.Captures
import Treebank.Surgery

/-!
# Diagnostics

A fault together with where it was found: the source of the text and the line in it. The faults
of numbers, of groups that there are not and of the primitive edits are not placed in a source.
-/

namespace Treebank

/-- What can go wrong with trees, patterns, statements and rules. -/
inductive Fault where
  | tree (e : Tree.ReadError)
  | pattern (e : Pattern.Error)
  | statement (e : Statement.Error)
  | surgery (e : Surgery.Error)
  | ruleWithoutPattern
  | ruleWithoutStatements
deriving Repr, DecidableEq

namespace Fault

def message : Fault → String
  | tree e => e.message
  | pattern e => e.message
  | statement e => e.message
  | surgery e => e.message
  | ruleWithoutPattern => "rule file has no pattern"
  | ruleWithoutStatements => "rule file has no surgery statements"

/-- The fault is reported with its place, and spoils no more than the rule or tree it is found in. -/
def isPlaced : Fault → Bool
  | pattern (.malformed ..) => true
  | pattern _ => false
  | statement (.malformed ..) => true
  | statement (.unboundCapture ..) => true
  | statement _ => false
  | surgery (.refused _) => false
  | surgery .footless => false
  | surgery (.badIndex _) => false
  | surgery (.unknownGroup _) => false
  | surgery .endless => false
  | _ => true

end Fault

/-- A fault and its place, as far as it is known. -/
structure Diagnostic where
  fault : Fault
  source : Option String
  line : Option Nat
deriving Repr, DecidableEq

namespace Diagnostic

/-- A fault at no known place. -/
def bare (fault : Fault) : Diagnostic := ⟨fault, none, none⟩

/-- A fault in a source. -/
def within (source : Option String) (fault : Fault) : Diagnostic := ⟨fault, source, none⟩

/-- A fault in a line of a source. -/
def atLine (source : String) (line : Nat) (fault : Fault) : Diagnostic :=
  ⟨fault, some source, some line⟩

/-- The wording, with the place before it. -/
def message (d : Diagnostic) : String :=
  let bare := d.fault.message
  if d.fault.isPlaced then
    match d.source, d.line with
    | none, _ => bare
    | some s, none => s!"{s}: {bare}"
    | some s, some l => s!"{s}:{l}: {bare}"
  else bare

end Diagnostic

end Treebank
