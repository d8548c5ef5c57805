import Treebank.Diagnostic

/-!
# Rules

A rule carries out statements wherever its pattern matches.
-/

namespace Treebank

structure Rule where
  name : String
  pattern : CompiledPattern
  statements : List Statement
  /-- Where the rule was written, for messages. -/
  source : Option String

namespace Rule

/-- The pattern of a text, its fault being one of a rule. -/
def compilePattern (strategies : Strategies) (text : String) : Except Fault CompiledPattern :=
  (CompiledPattern.compile strategies text).mapError .pattern

/-- The rule of a pattern and statements written separately. -/
def compile (strategies : Strategies) (name pattern : String) (statements : List String)
    (source : Option String) : Except Fault Rule := do
  let p ← compilePattern strategies pattern
  let ss ← (Statement.compile statements (some p)).mapError .statement
  return ⟨name, p, ss, source⟩

end Rule

end Treebank
