import Treebank.Tree

/-!
# Bracketed trees

A tree is written as its label and its children between brackets, a word below another node as its
bare label. The indented form starts a line for each child, except below nodes that dominate
nothing larger than preterminals.
-/

namespace Treebank.Tree

/-- A label before the text of what is below it; nothing below leaves the label alone. -/
def enclose (label : String) (inside : List Char) : List Char :=
  if inside.isEmpty then '(' :: label.toList ++ [')']
  else '(' :: label.toList ++ ' ' :: inside ++ [')']

mutual
/-- A node below another one: a word is its bare label. -/
def spellInner : Tree → List Char
  | node l [] => l.toList
  | node l (c :: cs) => enclose l (spellInners (c :: cs))
/-- Neighbouring nodes with blanks between them. -/
def spellInners : List Tree → List Char
  | [] => []
  | [c] => spellInner c
  | c :: d :: ds => spellInner c ++ ' ' :: spellInners (d :: ds)
end

/-- A topmost node: it has brackets even when it is childless. -/
def spell : Tree → List Char
  | node l [] => enclose l []
  | t => t.spellInner

/-- The node on one line, where `top` tells whether it stands below no other node. -/
def spellAt (top : Bool) (t : Tree) : List Char := if top then t.spell else t.spellInner

/-- A node that the indented form keeps on one line. -/
def isCompact (t : Tree) : Bool := t.children.all fun c => c.isLeaf || c.isPreterminal

mutual
/-- The indented form of a node in the given column. -/
def layout (top : Bool) (indent : Int) : Tree → List Char
  | node l cs =>
    if (node l cs).isCompact then (node l cs).spellAt top
    else '(' :: l.toList ++ layouts (indent + 2) cs ++ [')']
/-- Each node on a line of its own in the given column. -/
def layouts (indent : Int) : List Tree → List Char
  | [] => []
  | c :: cs => '\n' :: List.replicate indent.toNat ' ' ++ layout false indent c ++ layouts indent cs
end

/-- The tree on one line. -/
def bracketed (t : Tree) : String := String.ofList t.spell

/-- The indented form of the tree. -/
def pretty (t : Tree) (indent : Int) : String := String.ofList (t.layout true indent)

end Treebank.Tree
