import Treebank.Regex.Expr
import Treebank.Regex.Scanner

/-!
# Reading step by step

Regular expressions are read from left to right. What has been read so far decides what later signs
mean: the flags in force, the names of groups, and which groups are closed.
-/

namespace Treebank.Regex

/-- What the flags in force ask for. -/
structure Flags where
  ignoreCase : Bool
  multiline : Bool
  dotAll : Bool
  verbose : Bool
  ascii : Bool
  allScripts : Bool
  noRepeat : Bool
deriving Repr, DecidableEq

namespace Flags

def none : Flags := ⟨false, false, false, false, false, false, false⟩

/-- The letters that stand for flags. -/
def letters : List Char := ['i', 'L', 'm', 's', 'x', 'a', 't', 'u']

/-- The flag of a letter, turned on or off. -/
def set (f : Flags) (value : Bool) (letter : Char) : Flags :=
  match letter with
  | 'i' => { f with ignoreCase := value }
  | 'm' => { f with multiline := value }
  | 's' => { f with dotAll := value }
  | 'x' => { f with verbose := value }
  | 'a' => { f with ascii := value }
  | 'u' => { f with allScripts := value }
  | 't' => { f with noRepeat := value }
  | _ => f

/-- The flags within a group that turns some on and some off. A choice of alphabet replaces the one
before. -/
def within (f : Flags) (on off : List Char) : Flags :=
  let f := if on.any ['a', 'u'].contains then { f with ascii := false, allScripts := false } else f
  off.foldl (set · false) (on.foldl (set · true) f)

/-- How far case is ignored. -/
def fold (f : Flags) : Fold :=
  if f.ignoreCase then (if f.ascii then .ascii else .full) else .exact

end Flags

/-- What is known while a text is being read: the place, the flags for the whole text, the group
names, the width of each group that is closed, the number of groups before the look behind under
way, and the groups that conditions ask for, with the places where they do. -/
structure Reading where
  scanner : Scanner
  flags : Flags
  names : List (String × Nat)
  widths : Array (Option Width)
  groupsBefore : Option Nat
  asked : List (Nat × Nat)

/-- Reading, which may end with a fault. -/
abbrev ReadM := StateT Reading (Except Error)

namespace ReadM

/-- The next element. -/
def peek : ReadM (Option Element) := do return (← get).scanner.next

/-- The number of characters before the next element. -/
def tell : ReadM Nat := do return (← get).scanner.tell

/-- The fault at a place so many characters before the next element. -/
def fail {α : Type} (problem : Problem) (back : Nat) : ReadM α := do
  throw ((← get).scanner.fault problem back)

/-- Goes to another place. -/
def moveTo (scanner : Scanner) : ReadM Unit := modify ({ · with scanner })

/-- Takes the next element. -/
def take : ReadM (Option Element) := do
  let s := (← get).scanner
  moveTo (← s.advance)
  return s.next

/-- Takes the next element if it is this character. -/
def accept (c : Char) : ReadM Bool := do
  match ← (← get).scanner.accept? c with
  | some s => moveTo s; return true
  | none => return false

/-- Takes at most so many characters that pass a test. -/
def takeUpTo (n : Nat) (test : Char → Bool) : ReadM (List Char) := do
  let (cs, s) ← (← get).scanner.takeUpTo test n
  moveTo s
  return cs

/-- Takes a name and the character that closes it. -/
def takeName (closer : Char) (what : String) : ReadM (List Char) := do
  let (cs, s) ← (← get).scanner.takeName closer what
  moveTo s
  return cs

/-- The number of groups opened so far. -/
def openedGroups : ReadM Nat := do return (← get).widths.size

/-- The group is closed. -/
def isClosed (number : Nat) : ReadM Bool := do
  return (number == 0 || ((← get).widths[number - 1]?.join).isSome) && number != 0

/-- Within a look behind, only groups closed before it can be referred to. -/
def checkLookbehind (number : Nat) : ReadM Unit := do
  match (← get).groupsBefore with
  | none => return
  | some before =>
    if !(← isClosed number) then fail .openGroup 0
    if number > before then fail .sameLookbehind 0

/-- The width of a group, as far as it is closed. -/
def groupWidth : ReadM (Nat → Width) := do
  let widths := (← get).widths
  return fun n => (widths[n - 1]?.join).getD .zero

end ReadM

open ReadM

/-- The plain character of an element passes a test. -/
def nextPasses (test : Char → Bool) : ReadM Bool := do
  match ← peek with
  | some (.plain c) => return test c
  | _ => return false

end Treebank.Regex
