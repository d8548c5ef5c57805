import Treebank.Search.Cursor
import Treebank.Statement.Reader

/-!
# Names known to statements

A statement may use the names that the pattern can bind and those that earlier statements introduce.
-/

namespace Treebank.Statement

/-- The first name used that is not known, with the statement that uses it. Each statement comes with
its text. -/
def firstUnknown? (known : List String) : List (String × Statement) → Option (String × String)
  | [] => none
  | (text, s) :: rest =>
    match s.referenced.find? fun n => !known.contains n with
    | some n => some (n, text)
    | none => firstUnknown? (known ++ s.introduced) rest

/-- Every name used is declared, or introduced by an earlier statement. -/
def checkCaptures (declared : List String) (statements : List (String × Statement)) :
    Except Error Unit :=
  match firstUnknown? declared statements with
  | none => .ok ()
  | some (name, text) => .error (.unboundCapture name (sortedNames declared) text)

/-- The statements that texts write. Where a pattern is given, they use only known names. -/
def compile (texts : List String) (pattern : Option CompiledPattern) :
    Except Error (List Statement) := do
  let statements ← texts.mapM fun t => return (Text.trim t, ← read t)
  if statements.isEmpty then throw (.malformed .noStatements "")
  match pattern with
  | none => pure ()
  | some p => checkCaptures p.captures statements
  return statements.map (·.2)

end Treebank.Statement
