import Treebank.Regex.Expr
import Treebank.Tree.Bracketed

/-!
# Statements of tree surgery

A statement names nodes that a pattern has captured, or that an earlier statement has introduced,
and tells what is to be done with them. A statement may carry a literal tree, of which a fresh copy
is used at every application.
-/

namespace Treebank

/-- A literal tree: its plain form, the names of nodes in it with their addresses, the address of
the foot under which the children of an adjunction site come to stand, and the text. -/
structure Template where
  tree : Tree
  names : List (String × List Nat)
  foot : Option (List Nat)
  text : String
deriving DecidableEq

namespace Template

/-- The names that a use of the tree makes known. -/
def introduced (t : Template) : List String := t.names.map (·.1)

/-- The tree as it was written. -/
def shown (t : Template) : String := if t.text.isEmpty then t.tree.bracketed else t.text

end Template

/-- Where the node to put into a tree comes from. -/
inductive Source where
  /-- A copy of the node of this name. -/
  | node (name : String)
  /-- A copy of a literal tree. -/
  | template (t : Template)
deriving DecidableEq

namespace Source

/-- The names that must be known. -/
def referenced : Source → List String
  | node name => [name]
  | template _ => []

/-- The names that become known. -/
def introduced : Source → List String
  | node _ => []
  | template t => t.introduced

def text : Source → String
  | node name => name
  | template t => t.shown

end Source

/-- A place for a node relative to another one. -/
inductive Place where
  /-- Directly before the other node. -/
  | leftOf (target : String)
  /-- Directly after the other node. -/
  | rightOf (target : String)
  /-- Child number `index` of the other node, counted from one, or from the right if negative. -/
  | childOf (target : String) (index : Int)
deriving DecidableEq

namespace Place

/-- The name of the other node. -/
def target : Place → String
  | leftOf t => t
  | rightOf t => t
  | childOf t _ => t

/-- The sign for the kind of place. -/
def sign : Place → String
  | leftOf _ => "$+"
  | rightOf _ => "$-"
  | childOf .. => ">"

def index? : Place → Option Int
  | childOf _ i => some i
  | _ => none

def text : Place → String
  | leftOf t => "$+ " ++ t
  | rightOf t => "$- " ++ t
  | childOf t i => ">" ++ toString i ++ " " ++ t

end Place

/-- How a label is changed. -/
inductive Relabeling where
  /-- To this label. -/
  | literal (label : String)
  /-- By replacing the matches of an expression in it. -/
  | substitution (regex : Regex) (replacement : String)
deriving DecidableEq

inductive Statement where
  /-- Takes nodes out with all below them. -/
  | delete (names : List String)
  /-- Takes nodes out, and then nodes above them that are left without children. -/
  | prune (names : List String)
  /-- Cuts out everything from the outer node down to the inner one, which takes its place. -/
  | excise (outer inner : String)
  | relabel (name : String) (change : Relabeling)
  | insert (source : Source) (place : Place)
  | move (name : String) (place : Place)
  | replace (target : String) (source : Source)
  /-- Puts a tree in the place of a node, whose children come to stand under the tree's foot. -/
  | adjoin (aux : Template) (name : String)
  /-- Attaches a number not used so far to the labels of the nodes. -/
  | coindex (names : List String)
deriving DecidableEq

namespace Statement

/-- The names that must be known, in the order of the text. -/
def referenced : Statement → List String
  | delete names => names
  | prune names => names
  | excise outer inner => [outer, inner]
  | relabel name _ => [name]
  | insert source place => source.referenced ++ [place.target]
  | move name place => [name, place.target]
  | replace target source => target :: source.referenced
  | adjoin _ name => [name]
  | coindex names => names

/-- The names that later statements may use. -/
def introduced : Statement → List String
  | insert source _ => source.introduced
  | replace _ source => source.introduced
  | adjoin aux _ => aux.introduced
  | _ => []

/-- The statement as a text. -/
def text : Statement → String
  | delete names => "delete " ++ String.intercalate " " names
  | prune names => "prune " ++ String.intercalate " " names
  | excise outer inner => "excise " ++ outer ++ " " ++ inner
  | relabel name (.literal label) => "relabel " ++ name ++ " " ++ label
  | relabel name (.substitution r replacement) =>
    "relabel " ++ name ++ " /" ++ r.source ++ "/" ++ replacement ++ "/"
  | insert source place => "insert " ++ source.text ++ " " ++ place.text
  | move name place => "move " ++ name ++ " " ++ place.text
  | replace target source => "replace " ++ target ++ " " ++ source.text
  | adjoin aux name => "adjoin " ++ aux.shown ++ " " ++ name
  | coindex names => "coindex " ++ String.intercalate " " names

/-- Statements one below the other. -/
def sequenceText (ss : List Statement) : String := String.intercalate "\n" (ss.map text)

end Statement

end Treebank
