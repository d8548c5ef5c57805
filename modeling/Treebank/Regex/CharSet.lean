import Treebank.Regex.Choice
import Treebank.Regex.Escape

/-!
# Character sets

The members between square brackets: characters, ranges and classes. A closing bracket that comes
first is a member.
-/

namespace Treebank.Regex

open ReadM Text

/-- One side of a range, or a single member, of a character set. -/
def readSetMember (ascii : Bool) : Element → ReadM SetItem
  | .escape c => readSetEscape ascii c
  | .plain c => return .code c.toNat

/-- The members of a character set up to its closing bracket, the last first. -/
def readSetItems (ascii : Bool) (start : Nat) : Nat → List SetItem → ReadM (List SetItem)
  | 0, _ => fail .unterminatedSet 0
  | fuel + 1, items => do
    let some this ← take | fail .unterminatedSet ((← tell) - start)
    if this == .plain ']' && !items.isEmpty then return items
    let first ← readSetMember ascii this
    if !(← accept '-') then return ← readSetItems ascii start fuel (first :: items)
    let some that ← take | fail .unterminatedSet ((← tell) - start)
    if that == .plain ']' then return .code 45 :: first :: items
    let last ← readSetMember ascii that
    let bad := fail (.badRange this.text that.text) (this.length + 1 + that.length)
    match first, last with
    | .code lo, .code hi =>
      if hi < lo then bad else readSetItems ascii start fuel (.range lo hi :: items)
    | _, _ => bad

/-- A character set, whose opening bracket has been taken. -/
def readSet (flags : Flags) : ReadM Expr := do
  let start := (← tell) - 1
  let negated ← accept '^'
  let fuel := (← get).scanner.rest.length + 2
  let items := distinct (← readSetItems flags.ascii start fuel []).reverse
  match items with
  | [.code n] => return .char (.code negated n flags.fold)
  | _ => return .char (.ofSet negated items flags.fold)

end Treebank.Regex
