import Treebank.Json
import Treebank.Tree.Bracketed

/-!
# Events

An event records one application of a rule: where the rule was applied, and the tree before and
after.
-/

namespace Treebank

structure Event where
  rule : String
  /-- The number of the application among those to its tree, counted from one. -/
  step : Nat
  /-- The number of the tree. -/
  index : Int
  /-- The label of the node that matched. -/
  anchor : String
  /-- The names bound and the labels of their nodes, in the order of binding. -/
  bindings : List (String × String)
  before : Tree
  /-- The tree afterwards, unless it was removed. -/
  after : Option Tree
deriving DecidableEq

namespace Event

/-- The event as a record. -/
def toJson (e : Event) : Json := .obj [
  ("rule", .str e.rule),
  ("step", .num e.step),
  ("tree", .num e.index),
  ("anchor", .str e.anchor),
  ("bindings", .obj (e.bindings.map fun (n, l) => (n, .str l))),
  ("before", .str e.before.bracketed),
  ("after", e.after.elim .null fun t => .str t.bracketed),
  ("before_tree", e.before.toJson),
  ("after_tree", e.after.elim .null Tree.toJson)]

/-- The event as a line of a trace. -/
def line (e : Event) : String := e.toJson.text

end Event

end Treebank
