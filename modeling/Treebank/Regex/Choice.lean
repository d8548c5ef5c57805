import Treebank.Regex.Expr

/-!
# Choices

A choice between sequences is brought into a simpler form when it is read. What all alternatives
begin with stands before the choice, and a choice between single characters is a set. This is more
than a saving: a set ignores case only in the first plane, a choice in all.
-/

namespace Treebank.Regex

/-- An item that is nothing but what is written, so that it can be told to be the same as another. -/
def Expr.isPlain : Expr → Bool
  | .char _ => true
  | .anchor _ => true
  | .backref .. => true
  | _ => false

/-- The plain items with which a sequence and all others begin. -/
def commonStart : List Expr → List (List Expr) → List Expr
  | [], _ => []
  | e :: es, others =>
    if e.isPlain && others.all (fun o => o.head? == some e) then
      e :: commonStart es (others.map List.tail)
    else []

/-- The members of the set of characters that a sequence stands for. -/
def setMembers? : List Expr → Option (List SetItem)
  | [.char (.code false n _)] => some [.code n]
  | [.char (.set false items _)] => some items
  | _ => none

/-- The members of a list without repetitions, in the order of their first places. -/
def distinct (items : List SetItem) : List SetItem :=
  items.foldl (fun seen x => if seen.contains x then seen else seen ++ [x]) []

/-- What a choice between sequences amounts to after their common start. -/
def joined (fold : Fold) (alternatives : List (List Expr)) : Expr :=
  match alternatives.mapM setMembers? with
  | some members => .char (.ofSet false (distinct members.flatten) fold)
  | none => .ofAlternatives (alternatives.map Expr.ofItems)

/-- The items of a choice between sequences, of which there is at least one. -/
def choice (fold : Fold) : List (List Expr) → List Expr
  | [] => []
  | [items] => items
  | first :: others =>
    let start := commonStart first others
    start ++ [joined fold ((first :: others).map (List.drop start.length))]

end Treebank.Regex
