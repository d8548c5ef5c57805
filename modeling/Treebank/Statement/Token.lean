import Treebank.Regex.Error
import Treebank.Text.Blank

/-!
# Words of a statement

A statement is split at blanks; a literal tree, a quoted label and a substitution between slashes are
one word each, whatever blanks are in them.
-/

namespace Treebank.Statement

/-- What can be wrong with a statement. -/
inductive Problem where
  | unbalancedTree
  | unterminatedLabel
  | notThreeSlashes
  | badRegex (source : String) (e : Regex.Error)
  | loneBackslash
  | unknownGroupName (name : String)
  | unknownGroupNumber (digits : String)
  | badEscape (c : Char)
  | malformedTree (message : String)
  | notOneTree (count : Nat)
  | footOutsideAdjoin
  | footNotLeaf (label : String)
  | notOneFoot (count : Nat)
  | nameExpected (token : String)
  | unknownPlace (token : String)
  | placeZero
  | empty
  | usage (form : String)
  | treeAsLabel
  | adjoinWithoutTree
  | unknownOperation (keyword : String)
  | noStatements
deriving Repr, DecidableEq

open Text in
/-- The wording of a problem. -/
def Problem.message : Problem → String
  | unbalancedTree => "unbalanced parentheses in literal tree"
  | unterminatedLabel => "unterminated quoted label"
  | notThreeSlashes => "expected /regex/replacement/"
  | badRegex source e => s!"invalid regular expression: {e.message source}"
  | loneBackslash => "replacement ends with a lone backslash"
  | unknownGroupName name => s!"replacement refers to unknown group '{name}'"
  | unknownGroupNumber digits => s!"replacement refers to unknown group {digits}"
  | badEscape c => "bad escape '\\" ++ c.toString ++ "' in replacement"
  | malformedTree message => s!"malformed literal tree: {message}"
  | notOneTree count => s!"expected one literal tree, found {count}"
  | footOutsideAdjoin => "a foot node ('@') is only allowed in adjoin"
  | footNotLeaf label => s!"foot node {quoted label} must be a leaf"
  | notOneFoot count => s!"auxiliary tree needs exactly one foot node, found {count}"
  | nameExpected token => s!"expected a capture name, found {quoted token}"
  | unknownPlace token => s!"unknown position {quoted token}"
  | placeZero => "child positions start at 1"
  | empty => "empty statement"
  | usage form => s!"expected '{form}'"
  | treeAsLabel => "relabel takes a label, not a tree"
  | adjoinWithoutTree => "adjoin needs a literal auxiliary tree"
  | unknownOperation keyword => s!"unknown operation {quoted keyword}"
  | noStatements => "no surgery statements"

/-- Why a text is no statement, or statements cannot be carried out after a pattern. -/
inductive Error where
  | malformed (problem : Problem) (statement : String)
  /-- A name is used that nothing makes known; the names of the pattern are given sorted. -/
  | unboundCapture (name : String) (declared : List String) (statement : String)
  /-- A number that cannot be read. -/
  | badNumber (f : Text.NumberFault)
  /-- A regular expression that is refused without a place in it. -/
  | refusedRegex (e : Regex.Error)
deriving Repr, DecidableEq

/-- A message with the statement it is about, if that has a text. -/
def inStatement (message statement : String) : String :=
  if statement.isEmpty then message else s!"{message} in operation {Text.quoted statement}"

/-- The wording of a fault. -/
def Error.message : Error → String
  | malformed p statement => inStatement p.message statement
  | unboundCapture name declared statement =>
    let known := if declared.isEmpty then "none" else String.intercalate ", " declared
    inStatement s!"capture '{name}' is not declared by the pattern (declared: {known})" statement
  | badNumber f => f.message
  | refusedRegex e => e.message ""

/-- The number of characters up to the bracket that closes `depth` open ones, itself included. -/
def bracketLength : (depth : Nat) → List Char → Option Nat
  | _, [] => none
  | depth, '(' :: cs => (bracketLength (depth + 1) cs).map (· + 1)
  | depth, ')' :: cs => if depth ≤ 1 then some 1 else (bracketLength (depth - 1) cs).map (· + 1)
  | depth, _ :: cs => (bracketLength depth cs).map (· + 1)

/-- The number of characters up to the last of so many marks, itself included. A backslash takes
away the meaning of the character after it. -/
def markedLength (mark : Char) : (marks : Nat) → List Char → Option Nat
  | 0, _ => some 0
  | _ + 1, [] => none
  | _ + 1, ['\\'] => none
  | n + 1, '\\' :: _ :: cs => (markedLength mark (n + 1) cs).map (· + 2)
  | n + 1, c :: cs => (markedLength mark (if c == mark then n else n + 1) cs).map (· + 1)

/-- The number of characters after the first that belong to a word. -/
def furtherLength (c : Char) (cs : List Char) : Except Problem Nat :=
  if c == '(' then (bracketLength 1 cs).elim (.error .unbalancedTree) .ok
  else if c == '"' then (markedLength '"' 1 cs).elim (.error .unterminatedLabel) .ok
  else if c == '/' then (markedLength '/' 2 cs).elim (.error .notThreeSlashes) .ok
  else .ok (cs.takeWhile fun d => !Text.isBlank d).length

/-- The words of a text. -/
def scan : List Char → Except Problem (List (List Char))
  | [] => .ok []
  | c :: cs =>
    if Text.isBlank c then scan cs
    else
      match furtherLength c cs with
      | .error p => .error p
      | .ok n => ((c :: cs.take n) :: ·) <$> scan (cs.drop n)
termination_by cs => cs.length
decreasing_by all_goals simp; try omega

/-- The words of a statement. -/
def tokens (statement : String) : Except Error (List String) :=
  match scan statement.toList with
  | .ok ts => .ok (ts.map String.ofList)
  | .error p => .error (.malformed p statement)

end Treebank.Statement
