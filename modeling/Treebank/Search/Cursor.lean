import Treebank.Pattern.Reader
import Treebank.Search.Matching
import Treebank.Text.Blank

/-!
# Cursors over the matches of a pattern

A pattern that is to be searched for brings its notions of head and category along. A cursor goes
through the matches of such a pattern in a tree: through the nodes in preorder, and at each node
through the different bindings in the order of the search. What a search has found to be hopeless is
kept by the cursor for later searches.
-/

namespace Treebank

/-- How heads and categories are determined. -/
structure Strategies where
  head : HeadFinder
  category : BasicCategory

/-- A pattern with its text and its notions of head and category. -/
structure CompiledPattern where
  text : String
  root : NodePattern
  strategies : Strategies

namespace CompiledPattern

/-- The pattern of a text. -/
def compile (strategies : Strategies) (text : String) : Except Pattern.Error CompiledPattern := do
  return ⟨Text.trim text, ← Pattern.read text, strategies⟩

/-- The names that a match can bind, sorted. -/
def captures (p : CompiledPattern) : List String := sortedNames p.root.bindable

/-- Where the pattern is looked up in a tree. -/
def grounds (p : CompiledPattern) (t : Tree) : Grounds :=
  .ofTree t p.strategies.head p.strategies.category

end CompiledPattern

/-- A node that fits a pattern, and the bindings under which it does. -/
structure Match where
  anchor : Site
  bindings : Bindings

/-- A search under way at one node: the answers to come, and the bindings already given. -/
structure Pending where
  answers : Found
  seen : Std.HashSet (List (String × List Nat))

/-- A place among the matches of a pattern in a tree. -/
structure Cursor where
  pattern : NodePattern
  grounds : Grounds
  root : Site
  /-- The questions known to have no answer. -/
  hopeless : Std.HashSet Question
  /-- The node at which bindings are searched for. -/
  anchor : Option Site
  /-- The search at that node, once it has begun. -/
  pending : Option Pending
  /-- The match that the cursor stands at. -/
  found : Option Match
  /-- The nodes still to be tried, once the walk through the tree has begun. -/
  ahead : Option (List Site)
  /-- The walk has come to a node and has not come to its end. -/
  walking : Bool

namespace Cursor

/-- The cursor before the first match. -/
def start (p : CompiledPattern) (t : Tree) : Cursor where
  pattern := p.root
  grounds := p.grounds t
  root := .top t
  hopeless := ∅
  anchor := none
  pending := none
  found := none
  ahead := none
  walking := false

/-- The cursor before the first match again. -/
def reset (c : Cursor) : Cursor :=
  { c with anchor := none, pending := none, found := none, ahead := none, walking := false }

/-- The search at a node from its beginning. -/
def searchAt (c : Cursor) (s : Site) : Pending := ⟨c.pattern.search c.grounds [] s [], ∅⟩

/-- Goes to the next bindings at the current node, at first the top of the tree. The outcome tells
whether there were any. -/
def nextHere (c : Cursor) : Bool × Cursor :=
  let anchor := c.anchor.getD c.root
  let pending := c.pending.getD (c.searchAt anchor)
  let isNew (b : Bindings) : Bool := !pending.seen.contains b.sortedPlaces
  match pending.answers.next? isNew c.hopeless with
  | (none, hopeless) =>
    (false, { c with
      anchor := some anchor, pending := some ⟨.done, pending.seen⟩, found := none, hopeless })
  | (some (b, rest), hopeless) =>
    (true, { c with
      anchor := some anchor, pending := some ⟨rest (), pending.seen.insert b.sortedPlaces⟩,
      found := some ⟨anchor, b⟩, hopeless })

/-- Goes to the first bindings at a node. -/
def matchFrom (c : Cursor) (s : Site) : Bool × Cursor :=
  { c with anchor := some s, pending := none }.nextHere

/-- Goes to the first bindings at a node; the walk through the tree starts anew after that. -/
def matchesAt (c : Cursor) (s : Site) : Bool × Cursor := c.reset.matchFrom s

/-- Gives up the bindings that are left at the current node. -/
def abandon (c : Cursor) : Cursor := { c with pending := some ⟨.done, ∅⟩, found := none }

/-- A node is the one of an earlier match. -/
def isAnchorOf (last : Option Match) (s : Site) : Bool := last.any (·.anchor.same s)

/-- Goes to the first match at one of the nodes, other than that of an earlier match. -/
def seek (last : Option Match) : List Site → Cursor → Bool × Cursor
  | [], c => (false, { c with ahead := some [], walking := false })
  | s :: rest, c =>
    let (hit, c) := { c with ahead := some rest, walking := true }.matchFrom s
    if isAnchorOf last s then seek last rest c.abandon
    else if hit then (true, c)
    else seek last rest c

/-- The nodes still to be tried. -/
def remaining (c : Cursor) : List Site := c.ahead.getD (c.grounds.nodes.map (·.1))

/-- Goes to the next match. -/
def find (c : Cursor) : Bool × Cursor :=
  if c.walking then
    let (hit, c) := c.nextHere
    if hit then (true, c) else seek none c.remaining c
  else seek none c.remaining c

/-- Goes to the next match at a node other than that of the current match. -/
def findNext (c : Cursor) : Bool × Cursor :=
  let last := c.found
  if c.walking then
    if c.anchor.any (isAnchorOf last) then seek last c.remaining c.abandon
    else
      let (hit, c) := c.nextHere
      if hit then (true, c) else seek last c.remaining c
  else seek last c.remaining c

/-- The bindings of the current match; none without one. -/
def bindings (c : Cursor) : Bindings := (c.found.map Match.bindings).getD []

/-- Finds so many times in a row; the outcome tells whether each time there was a match. -/
def findTimes : Nat → Cursor → Bool × Cursor
  | 0, c => (true, c)
  | n + 1, c =>
    let (hit, c) := c.find
    if hit then findTimes n c else (false, c)

end Cursor

namespace CompiledPattern

/-- The bindings of a list of answers that differ from all before them, and from those seen. -/
def distinctBindings (seen : Std.HashSet (List (String × List Nat))) :
    List Bindings → List Bindings
  | [] => []
  | b :: bs =>
    if seen.contains b.sortedPlaces then distinctBindings seen bs
    else b :: distinctBindings (seen.insert b.sortedPlaces) bs

/-- The matches at nodes one after the other. -/
def matchesAtEach (p : NodePattern) (g : Grounds) :
    List Site → Std.HashSet Question → List Match
  | [], _ => []
  | s :: rest, notes =>
    let (bs, notes) := (p.search g [] s []).toList notes
    (distinctBindings ∅ bs).map (⟨s, ·⟩) ++ matchesAtEach p g rest notes

/-- All matches of a pattern in a tree. -/
def allMatches (p : CompiledPattern) (t : Tree) : List Match :=
  let g := p.grounds t
  matchesAtEach p.root g (g.nodes.map (·.1)) ∅

/-- The first match of a pattern in a tree. -/
def firstMatch? (p : CompiledPattern) (t : Tree) : Option Match :=
  ((Cursor.start p t).find).2.found

/-- The pattern matches somewhere in a tree. -/
def matchesIn (p : CompiledPattern) (t : Tree) : Bool := ((Cursor.start p t).find).1

end CompiledPattern

end Treebank
