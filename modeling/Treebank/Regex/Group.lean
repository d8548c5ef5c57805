import Treebank.Regex.Reading
import Treebank.Text.Identifier

/-!
# Groups

What may follow the opening bracket of a group: flags, names, references and conditions. Groups are
numbered by their opening brackets.
-/

namespace Treebank.Regex

open ReadM Text

/-- An unknown flag is told from a missing sign by being a letter. -/
def flagFault {α : Type} (e : Element) (what : String) : ReadM α :=
  match e with
  | .plain c => fail (if isLetter c then .unknownFlag else .missing what) 1
  | .escape _ => fail (.missing what) 2

/-- The flags turned on, up to the sign after them. -/
def readFlagsOn : Nat → Char → List Char → ReadM (List Char × Char)
  | 0, _, _ => fail (.missing "-, : or )") 0
  | fuel + 1, letter, on => do
    if letter == 'L' then fail .localeFlag 0
    let on := letter :: on
    if ['a', 'u'].contains letter && on.contains 'a' && on.contains 'u' then fail .mixedAlphabets 0
    let some e ← take | fail (.missing "-, : or )") 0
    match e with
    | .plain c =>
      if [')', '-', ':'].contains c then return (on, c)
      if Flags.letters.contains c then return ← readFlagsOn fuel c on
      flagFault e "-, : or )"
    | _ => flagFault e "-, : or )"

/-- The flags turned off, up to the colon after them. -/
def readFlagsOff : Nat → Char → List Char → ReadM (List Char)
  | 0, _, _ => fail (.missing ":") 0
  | fuel + 1, letter, off => do
    if ['a', 'u', 'L'].contains letter then fail .alphabetOff 0
    let off := letter :: off
    let some e ← take | fail (.missing ":") 0
    match e with
    | .plain c =>
      if c == ':' then return off
      if Flags.letters.contains c then return ← readFlagsOff fuel c off
      flagFault e ":"
    | _ => flagFault e ":"

/-- The flags that begin with a letter or a minus sign, which has been taken: those turned on and
those turned off within a group, or nothing if they were for the whole text. -/
def readFlags (first : Char) : ReadM (Option (List Char × List Char)) := do
  let fuel := (← get).scanner.rest.length + 2
  let (on, sign) ← if first == '-' then pure ([], '-') else readFlagsOn fuel first []
  if sign == ')' then
    modify fun st => { st with flags := on.foldl (Flags.set · true) st.flags }
    return none
  if on.contains 't' then fail .globalFlagOn 1
  if sign == ':' then return some (on, [])
  let some e ← take | fail (.missing "flag") 0
  let off ←
    match e with
    | .plain c =>
      if Flags.letters.contains c then readFlagsOff fuel c [] else flagFault e "flag"
    | _ => flagFault e "flag"
  if off.contains 't' then fail .globalFlagOff 1
  if on.any off.contains then fail .flagOnAndOff 1
  return some (on, off)

/-- The name of a group that is referred to or opened is an identifier. -/
def checkGroupName (name : List Char) : ReadM Unit := do
  if !isIdentifier name then fail (.badGroupName (String.ofList name)) (name.length + 1)

/-- The group of this name. -/
def namedGroup (name : List Char) : ReadM Nat := do
  match (← get).names.lookup (String.ofList name) with
  | some n => return n
  | none => fail (.unknownName (String.ofList name)) (name.length + 1)

/-- The group that a reference by name speaks of; the letter that begins it has been taken. -/
def readNamedReference : ReadM Nat := do
  if ← accept '=' then
    let name ← takeName ')' "group name"
    checkGroupName name
    let number ← namedGroup name
    if !(← isClosed number) then fail .openGroup (name.length + 1)
    checkLookbehind number
    return number
  else
    let some e ← take | fail .unexpectedEnd 0
    fail (.unknownExtension ("P" ++ e.text)) (e.length + 2)

/-- The greatest number of groups. -/
def groupLimit : Nat := 1073741823

/-- The group that a condition asks for, by name or by number. -/
def readCondGroup : ReadM Nat := do
  let name ← takeName ')' "group name"
  let group ←
    if isIdentifier name then namedGroup name
    else
      match Text.readLooseInt? name with
      | some (.ofNat n) =>
        if n == 0 then fail .badGroupNumber (name.length + 1)
        if n ≥ groupLimit then fail (.invalidGroup n) (name.length + 1)
        let place := (← tell) - name.length - 1
        modify fun st =>
          if (st.asked.lookup n).isSome then st else { st with asked := st.asked ++ [(n, place)] }
        pure n
      | _ => fail (.badGroupName (String.ofList name)) (name.length + 1)
  checkLookbehind group
  return group

/-- Opens a capturing group. Past the greatest number, only that of a group with a name can be told
with a place. -/
def openCapture (name : Option (List Char)) : ReadM Nat := do
  let number := (← openedGroups) + 1
  modify fun st => { st with widths := st.widths.push none }
  match name with
  | none =>
    if number ≥ groupLimit then throw .tooManyNameless
    return number
  | some cs =>
    if number ≥ groupLimit then fail .tooManyGroups (cs.length + 1)
    let n := String.ofList cs
    match (← get).names.lookup n with
    | some before => fail (.redefinedName n number before) (cs.length + 1)
    | none =>
      modify fun st => { st with names := st.names ++ [(n, number)] }
      return number

/-- The characters of a comment group. -/
def skipComment (start : Nat) : Nat → ReadM Unit
  | 0 => return
  | fuel + 1 => do
    if (← peek).isNone then fail .unterminatedComment ((← tell) - start)
    match ← take with
    | some (.plain ')') => return
    | _ => skipComment start fuel

/-- The closing bracket of a group that began at a place. -/
def closeBracket (start : Nat) : ReadM Unit := do
  if !(← accept ')') then fail .unterminatedGroup ((← tell) - start)

end Treebank.Regex
