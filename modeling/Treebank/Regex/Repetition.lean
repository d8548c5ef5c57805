import Treebank.Regex.Reading

/-!
# Repetitions

The number of turns asked for by a sign or in braces, and the part of a sequence that is repeated.
-/

namespace Treebank.Regex

open ReadM Text

/-- A number of turns beyond what can be counted. -/
def turnLimit : Nat := 4294967295

/-- The number of turns that digits write. -/
def turnCount (digits : List Char) : ReadM Nat := do
  match readNat digits digits with
  | .error f => throw (.badTurnCount f)
  | .ok n =>
    if n ≥ turnLimit then throw .repetitionTooLarge
    return n

/-- The least and the greatest number of turns after an opening brace; nothing if what stands there
asks for no repetition. -/
def readTurns : ReadM (Option (Nat × Option Nat)) := do
  let start := (← get).scanner
  let here ← tell
  if (← peek) == some (.plain '\x7d') then return none
  let many := start.rest.length + 1
  let lo ← takeUpTo many Char.isDigit
  let hi ← if ← accept ',' then takeUpTo many Char.isDigit else pure lo
  if !(← accept '\x7d') then
    moveTo start
    return none
  let min ← if lo.isEmpty then pure 0 else turnCount lo
  if hi.isEmpty then return some (min, none)
  let max ← turnCount hi
  if max < min then fail .minAboveMax ((← tell) - here)
  return some (min, some max)

/-- The sign after a repetition that tells how it chooses the number of turns. -/
def readMode : ReadM Mode := do
  if ← accept '?' then return .lazy
  if ← accept '+' then return .possessive
  return .greedy

/-- A part of a sequence as it is read. -/
inductive Part where
  | item (e : Expr)
  /-- The items between brackets that do nothing but hold them together. -/
  | bracketed (items : List Expr)

namespace Part

def items : Part → List Expr
  | item e => [e]
  | bracketed es => es

/-- A place condition cannot be repeated without brackets. -/
def isAnchor : Part → Bool
  | item (.anchor _) => true
  | _ => false

/-- A repetition cannot be repeated without brackets. -/
def isLoop : Part → Bool
  | item (.loop ..) => true
  | _ => false

end Part

/-- The parts with the last one, which is given first, repeated; `here` is the place after the sign
that asks for it. -/
def readLoop (here : Nat) (turns : Nat × Option Nat) (parts : List Part) : ReadM (List Part) := do
  match parts with
  | [] => fail .nothingToRepeat ((← tell) - here + 1)
  | part :: before =>
    if part.isAnchor then fail .nothingToRepeat ((← tell) - here + 1)
    if part.isLoop then fail .multipleRepeat ((← tell) - here + 1)
    let mode ← readMode
    return .item (.loop mode turns.1 turns.2 (.ofItems part.items)) :: before

end Treebank.Regex
