import Treebank.Statement
import Treebank.Statement.Token
import Treebank.Text.Letter
import Treebank.Tree.Reader

/-!
# Reading literal trees

In a literal tree a label may be followed by an equals sign and a name for the node, and then by an
at sign, which marks the foot of a tree that is to be adjoined.
-/

namespace Treebank.Template

open Statement (Problem Error)

/-- A label without the name after its last equals sign, and that name. The name consists of word
characters, and something must stand before it. -/
def splitName (label : List Char) : List Char × Option (List Char) :=
  let rev := label.reverse
  let name := (rev.takeWhile (· != '=')).reverse
  let before := ((rev.dropWhile (· != '=')).drop 1).reverse
  if !before.isEmpty && !name.isEmpty && name.all Text.isWordChar then (before, some name)
  else (label, none)

/-- A label without the at sign of a foot, and whether it had one. -/
def splitFoot (label : List Char) : List Char × Bool :=
  if label.getLast? == some '@' && label.length > 1 then (label.dropLast, true) else (label, false)

/-- What the labels of a tree tell: the plain tree, the names, and the feet. -/
structure Marks where
  trees : List Tree
  names : List (String × List Nat)
  feet : List (List Nat)

/-- What the label of a node tells, given its address in reverse and whether it has children. -/
def readLabel (statement : String) (allowFoot : Bool) (path : List Nat) (isLeaf : Bool)
    (label : String) : Except Error (String × List (String × List Nat) × List (List Nat)) :=
  let (plain, isFoot) := splitFoot label.toList
  if isFoot && !allowFoot then .error (.malformed .footOutsideAdjoin statement)
  else if isFoot && !isLeaf then .error (.malformed (.footNotLeaf label) statement)
  else
    let (plain, name) := splitName plain
    let address := path.reverse
    .ok (String.ofList plain,
      name.toList.map fun n => (String.ofList n, address),
      if isFoot then [address] else [])

mutual
/-- What the labels of a tree tell, the node itself before its children. -/
def readMarks (statement : String) (allowFoot : Bool) (path : List Nat) :
    Tree → Except Error Marks
  | .node l cs => do
    let (label, names, feet) ← readLabel statement allowFoot path cs.isEmpty l
    let below ← readAllMarks statement allowFoot path 0 cs
    return ⟨[.node label below.trees], names ++ below.names, feet ++ below.feet⟩
def readAllMarks (statement : String) (allowFoot : Bool) (path : List Nat) (i : Nat) :
    List Tree → Except Error Marks
  | [] => .ok ⟨[], [], []⟩
  | c :: cs => do
    let first ← readMarks statement allowFoot (i :: path) c
    let others ← readAllMarks statement allowFoot path (i + 1) cs
    return ⟨first.trees ++ others.trees, first.names ++ others.names, first.feet ++ others.feet⟩
end

/-- The literal tree that a text writes; exactly one foot is asked for where feet are allowed. -/
def read (text statement : String) (allowFoot : Bool) : Except Error Template :=
  match Tree.readAll text with
  | .error e => .error (.malformed (.malformedTree e.message) statement)
  | .ok [t] => do
    let marks ← readMarks statement allowFoot [] t
    if allowFoot && marks.feet.length != 1 then
      throw (.malformed (.notOneFoot marks.feet.length) statement)
    return ⟨marks.trees.headD t, marks.names, marks.feet.head?, text⟩
  | .ok ts => .error (.malformed (.notOneTree ts.length) statement)

end Treebank.Template
