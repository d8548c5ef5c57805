import Treebank.Pattern
import Treebank.Search.Answers
import Treebank.Search.Bindings

/-!
# The search for a pattern at a node

The bindings under which a node fits a pattern are found by trying, for every relation, the related
nodes in their order, and the alternatives of a choice in theirs. Where a part of the pattern fits a
node under no bindings, this is noted. It depends only on the place of the part in the pattern, on
the node, and on the bindings of the names that the part uses.
-/

namespace Treebank

/-- The question whether a part of a pattern fits a node. -/
structure Question where
  /-- Where the part stands in the pattern. -/
  part : List Nat
  /-- Where the node stands in the tree. -/
  node : List Nat
  /-- The bindings of the names that the part uses. -/
  bound : List (String × List Nat)
deriving DecidableEq, Hashable

/-- The question whether a pattern, which is a certain part of a larger one, fits a node under
bindings. -/
def NodePattern.question (p : NodePattern) (part : List Nat) (s : Site) (b : Bindings) : Question :=
  ⟨part, s.steps, (b.restrict p.names).sortedPlaces⟩

/-- The label of a node fits a description; one that is missing fits every label. -/
def Grounds.admits (g : Grounds) (label : Option Description) (s : Site) : Bool :=
  match label with
  | none => true
  | some d => d.accepts g.category s.label

/-- The bindings found by a search, with the questions that it has answered with no. -/
abbrev Found := Answers Question Bindings

mutual
/-- The bindings that make a node fit a node pattern. -/
def NodePattern.search (g : Grounds) (part : List Nat) : NodePattern → Site → Bindings → Found
  | .node label name constraint, s, b =>
    let question := (NodePattern.node label name constraint).question part s b
    .consult question (fun _ => .done) fun _ =>
      Answers.orElse
        (if g.admits label s then
          match b.capture? name s with
          | none => .done
          | some b => Constraint.searchOption g (0 :: part) constraint s b
        else .done)
        fun _ => .record question fun _ => .done
/-- The bindings that make a constraint hold, if there is one. -/
def Constraint.searchOption (g : Grounds) (part : List Nat) :
    Option Constraint → Site → Bindings → Found
  | none, _, b => .one b
  | some c, s, b => c.search g part s b
/-- The bindings that make a constraint hold at a node. -/
def Constraint.search (g : Grounds) (part : List Nat) : Constraint → Site → Bindings → Found
  | .rel r partner, s, b =>
    Answers.flatMap (fun c => partner.search g (0 :: part) c b) (r.candidates g s)
  | .all items, s, b => Constraint.searchAll g part 0 items s b
  | .choice items, s, b => Constraint.searchEach g part 0 items s b
  | .not item, s, b => (item.search g (0 :: part) s b).ifNone fun _ => .one b
  | .maybe item, s, b => (item.search g (0 :: part) s b).orElse fun _ => .one b
/-- The bindings that make all constraints of a list hold. -/
def Constraint.searchAll (g : Grounds) (part : List Nat) (i : Nat) :
    List Constraint → Site → Bindings → Found
  | [], _, b => .one b
  | c :: cs, s, b =>
    (c.search g (i :: part) s b).bind fun b => Constraint.searchAll g part (i + 1) cs s b
/-- The bindings that make the first constraint of a list hold, then the second, and so on. -/
def Constraint.searchEach (g : Grounds) (part : List Nat) (i : Nat) :
    List Constraint → Site → Bindings → Found
  | [], _, _ => .done
  | c :: cs, s, b =>
    (c.search g (i :: part) s b).append fun _ => Constraint.searchEach g part (i + 1) cs s b
end

end Treebank
