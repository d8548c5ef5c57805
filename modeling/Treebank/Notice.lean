import Treebank.Json

/-!
# Notices

What a run has to report beside its results, in order of time.
-/

namespace Treebank

/-- How much a notice matters. -/
inductive Level where
  | debug
  | info
  | warning
  | error
deriving Repr, DecidableEq

namespace Level

def name : Level → String
  | debug => "DEBUG"
  | info => "INFO"
  | warning => "WARNING"
  | error => "ERROR"

/-- The levels from the least to the greatest. -/
def rank : Level → Nat
  | debug => 0
  | info => 1
  | warning => 2
  | error => 3

end Level

inductive Notice where
  /-- A rule was applied to a tree. -/
  | applied (tree : Int) (rule anchor : String)
  /-- The budget of a tree is used up although a rule still matches. -/
  | budgetExhausted (tree : Int) (budget : Nat) (rule : String)
  /-- A tree is left as it was, since its surgery failed. -/
  | surgeryFailed (tree : Int) (message : String)
  /-- A rule file is left out. -/
  | ruleSkipped (path message : String)
  /-- A rule is in use. -/
  | ruleInUse (name pattern statements : String)
  /-- The totals of a run. -/
  | summary (totals : Json)

namespace Notice

def level : Notice → Level
  | applied .. => .debug
  | budgetExhausted .. => .warning
  | surgeryFailed .. => .warning
  | ruleSkipped .. => .error
  | ruleInUse .. => .debug
  | summary .. => .info

/-- The part of the program that gives the notice. -/
def channel : Notice → String
  | applied .. => "treesurgery.runtime"
  | budgetExhausted .. => "treesurgery.runtime"
  | surgeryFailed .. => "treesurgery.runtime"
  | ruleSkipped .. => "treesurgery.rulefile"
  | ruleInUse .. => "treesurgery.cli"
  | summary .. => "treesurgery.cli"

def message : Notice → String
  | applied t r a => s!"tree {t}: applied {r} at {a}"
  | budgetExhausted t b r => s!"tree {t}: step budget of {b} exhausted while rule {r} still matches"
  | surgeryFailed t m => s!"tree {t}: surgery failed, leaving it unchanged: {m}"
  | ruleSkipped p m => s!"skipping rule file {p}: {m}"
  | ruleInUse n p ss => s!"rule {n}: {p}\n{ss}"
  | summary totals => s!"summary: {totals.text}"

/-- The notice as it is written to a log. -/
def text (n : Notice) : String := s!"{n.level.name} {n.channel}: {n.message}"

end Notice

end Treebank
