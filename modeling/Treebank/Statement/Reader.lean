import Treebank.Statement.Replacement
import Treebank.Statement.Template
import Treebank.Text.Lowercase

/-!
# Reading statements

A statement is a keyword, in which case does not count, and the words that it asks for.
-/

namespace Treebank.Statement

open Text

/-- A fault of a statement. -/
def fault {α : Type} (statement : String) (p : Problem) : Except Error α :=
  .error (.malformed p statement)

/-- A capture name. -/
def readName (statement token : String) : Except Error String :=
  let cs := token.toList
  if !cs.isEmpty && cs.all isWordChar then .ok token else fault statement (.nameExpected token)

/-- The body of a quoted label without the backslashes that protect a character; one before a line
feed stays. -/
def unprotect : List Char → List Char
  | [] => []
  | ['\\'] => ['\\']
  | '\\' :: '\n' :: cs => '\\' :: '\n' :: unprotect cs
  | '\\' :: c :: cs => c :: unprotect cs
  | c :: cs => c :: unprotect cs

/-- The label within quotes. -/
def unquote (token : List Char) : List Char := unprotect (token.drop 1).dropLast

/-- The parts between unprotected slashes, the one under way given in reverse. A protected slash
loses its backslash; all other escapes stay. -/
def splitSlashes (current : List Char) : List Char → List (List Char)
  | [] => [current.reverse]
  | '\\' :: '/' :: cs => splitSlashes ('/' :: current) cs
  | '\\' :: c :: cs => splitSlashes (c :: '\\' :: current) cs
  | '/' :: cs => current.reverse :: splitSlashes [] cs
  | c :: cs => splitSlashes (c :: current) cs

/-- The expression and the replacement between slashes. -/
def readSubstitution (statement token : String) : Except Error Relabeling :=
  match splitSlashes [] (token.toList.drop 1) with
  | [pattern, replacement, []] =>
    let source := String.ofList pattern
    match Regex.parse source with
    | .error (.malformed p q) => fault statement (.badRegex source (.malformed p q))
    | .error e => .error (.refusedRegex e)
    | .ok r => do
      checkReplacement statement r replacement
      return .substitution r (String.ofList replacement)
  | _ => fault statement .notThreeSlashes

/-- A new label, or the change of the old one. -/
def readRelabeling (statement token : String) : Except Error Relabeling :=
  match token.toList with
  | '/' :: _ => readSubstitution statement token
  | '"' :: _ => .ok (.literal (String.ofList (unquote token.toList)))
  | '(' :: _ => fault statement .treeAsLabel
  | _ => .ok (.literal token)

/-- A literal tree or a name. -/
def readSource (statement token : String) : Except Error Source :=
  match token.toList with
  | '(' :: _ => Source.template <$> Template.read token statement false
  | _ => Source.node <$> readName statement token

/-- The characters after the sign of a child place are digits, with or without a minus sign. -/
def isChildNumber (cs : List Char) : Bool :=
  let digits := if cs.head? == some '-' then cs.drop 1 else cs
  !digits.isEmpty && digits.all isDecimal

/-- A place relative to a named node. -/
def readPlace (statement relation target : String) : Except Error Place :=
  match relation.toList with
  | ['$', '+'] => Place.leftOf <$> readName statement target
  | ['$', '-'] => Place.rightOf <$> readName statement target
  | '>' :: digits =>
    if !isChildNumber digits then fault statement (.unknownPlace relation)
    else do
      let i ← (readInt digits).mapError .badNumber
      if i == 0 then throw (.malformed .placeZero statement)
      return .childOf (← readName statement target) i
  | _ => fault statement (.unknownPlace relation)

/-- Names for an operation on any number of nodes. -/
def readNames (statement keyword : String) (args : List String) : Except Error (List String) :=
  if args.isEmpty then fault statement (.usage (keyword ++ " name ..."))
  else args.mapM (readName statement)

/-- The statement that a keyword and further words make. -/
def readWords (statement keyword : String) (args : List String) : Except Error Statement :=
  match keyword, args with
  | "delete", _ => delete <$> readNames statement keyword args
  | "prune", _ => prune <$> readNames statement keyword args
  | "coindex", _ => coindex <$> readNames statement keyword args
  | "excise", [outer, inner] => do
    return excise (← readName statement outer) (← readName statement inner)
  | "excise", _ => fault statement (.usage "excise outer inner")
  | "relabel", [name, label] => do
    return relabel (← readName statement name) (← readRelabeling statement label)
  | "relabel", _ => fault statement (.usage "relabel name label")
  | "rename", [name, label] => do
    return relabel (← readName statement name) (← readRelabeling statement label)
  | "rename", _ => fault statement (.usage "rename name label")
  | "insert", [source, relation, target] => do
    return insert (← readSource statement source) (← readPlace statement relation target)
  | "insert", _ => fault statement (.usage "insert tree-or-name position name")
  | "move", [name, relation, target] => do
    return move (← readName statement name) (← readPlace statement relation target)
  | "move", _ => fault statement (.usage "move name position name")
  | "replace", [target, source] => do
    return replace (← readName statement target) (← readSource statement source)
  | "replace", _ => fault statement (.usage "replace name tree-or-name")
  | "adjoin", [aux, name] => do
    if aux.toList.head? != some '(' then throw (.malformed .adjoinWithoutTree statement)
    return adjoin (← Template.read aux statement true) (← readName statement name)
  | "adjoin", _ => fault statement (.usage "adjoin auxiliary-tree name")
  | _, _ => fault statement (.unknownOperation keyword)

/-- The statement that a text writes. -/
def read (text : String) : Except Error Statement := do
  let statement := trim text
  match ← tokens statement with
  | [] => fault statement .empty
  | keyword :: args => readWords statement (String.ofList (lower keyword.toList)) args

end Treebank.Statement
