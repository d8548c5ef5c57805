import Treebank.Rule
import Treebank.Text.Lines

/-!
# Reading rules

The text of a rule is a block of lines with the pattern, a blank line, and then a statement on each
line. A percent sign begins a comment, unless a backslash stands before it.
-/

namespace Treebank.Rule

open Text

/-! ## Comments -/

/-- A line up to its comment; `guarded` tells that a backslash stands before it. -/
def cutComment (guarded : Bool) : List Char → List Char
  | [] => []
  | '%' :: cs => if guarded then '%' :: cutComment false cs else []
  | c :: cs => c :: cutComment (c == '\\') cs

/-- The percent signs without the backslashes before them. -/
def unguard : List Char → List Char
  | [] => []
  | '\\' :: '%' :: cs => '%' :: unguard cs
  | c :: cs => c :: unguard cs

/-- A text without the comment of its last line. -/
def cutLastComment (cs : List Char) : List Char :=
  let rev := cs.reverse
  let body := if rev.head? == some '\n' then rev.drop 1 else rev
  let last := (body.takeWhile (· != '\n')).reverse
  (body.dropWhile (· != '\n')).reverse ++ cutComment false last

/-- A line without its comment and the blanks around it. -/
def stripComment (line : String) : String :=
  String.ofList (trimChars (unguard (cutLastComment line.toList)))

/-! ## Rules -/

/-- A line that holds nothing but blanks and a comment. -/
def isEmptyLine (line : String) : Bool := (stripComment line).isEmpty

/-- A line that holds nothing but blanks. -/
def isBlankLine (line : String) : Bool := (trim line).isEmpty

/-- Lines with their numbers, from a number on. -/
def numbered (first : Nat) (lines : List String) : List (Nat × String) :=
  (lines.zipIdx first).map fun (l, n) => (n, l)

/-- The statements on numbered lines, after others with their texts. -/
def readStatements (source : String) (p : CompiledPattern) (before : List (String × Statement)) :
    List (Nat × String) → Except Diagnostic (List (String × Statement))
  | [] => .ok before
  | (n, line) :: rest =>
    let text := stripComment line
    if text.isEmpty then readStatements source p before rest
    else
      let outcome : Except Statement.Error (List (String × Statement)) := do
        let all := before ++ [(text, ← Statement.read text)]
        Statement.checkCaptures p.captures all
        return all
      match outcome with
      | .error e => .error (.atLine source n (.statement e))
      | .ok all => readStatements source p all rest

/-- The rule that a text writes; its name is also the source that messages name. -/
def read (strategies : Strategies) (name text : String) : Except Diagnostic Rule := do
  let all := lines text
  let start := (all.takeWhile isEmptyLine).length
  let block := (all.drop start).takeWhile fun l => !isBlankLine l
  let parts := (block.map stripComment).filter fun l => !l.isEmpty
  let fault {α : Type} (line : Nat) (f : Fault) : Except Diagnostic α :=
    .error (.atLine name line f)
  if parts.isEmpty then fault (start + 1) .ruleWithoutPattern
  match compilePattern strategies (String.intercalate " " parts) with
  | .error f => fault (start + 1) f
  | .ok p => do
    let first := start + block.length
    let statements ← readStatements name p [] (numbered (first + 1) (all.drop first))
    if statements.isEmpty then fault (max all.length 1) .ruleWithoutStatements
    return ⟨name, p, statements.map (·.2), some name⟩

end Treebank.Rule
