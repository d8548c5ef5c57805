import Treebank.Regex.Reader
import Treebank.Statement.Token

/-!
# Checking replacement texts

A replacement text is checked when its statement is read: the groups it refers to must be there, and
its escapes must mean something. Only the size of an octal escape is left to the application.
-/

namespace Treebank.Statement

open Text

/-- An escape in a replacement text. -/
inductive Escape where
  /-- Three octal digits. -/
  | octal
  /-- A group by its name or number in angle brackets. -/
  | named (name : List Char)
  /-- A group by one or two digits. -/
  | numbered (digits : List Char)
  | other (c : Char)
deriving Repr, DecidableEq

/-- The name up to a closing angle bracket, and what follows that. -/
def angleName : List Char → Option (List Char × List Char)
  | [] => none
  | '>' :: cs => some ([], cs)
  | c :: cs => (angleName cs).map fun (n, r) => (c :: n, r)

/-- The escape after a backslash, and the number of characters it takes after the first. -/
def escapeAfter (c : Char) (cs : List Char) : Escape × Nat :=
  let octalNext := (cs.take 2).length == 2 && (cs.take 2).all Regex.isOctal
  if Regex.isOctal c && octalNext then (.octal, 2)
  else
    match c, cs with
    | 'g', '<' :: rest =>
      match angleName rest with
      | some (name, _) => (.named name, name.length + 2)
      | none => (.other c, 0)
    | _, _ =>
      if isDecimal c then
        match cs with
        | d :: _ => if isDecimal d then (.numbered [c, d], 1) else (.numbered [c], 0)
        | [] => (.numbered [c], 0)
      else (.other c, 0)

/-- The escapes of a replacement text. -/
def escapes : List Char → List Escape
  | [] => []
  | '\\' :: c :: cs =>
    let (e, n) := escapeAfter c cs
    e :: escapes (cs.drop n)
  | _ :: cs => escapes cs
termination_by cs => cs.length
decreasing_by all_goals simp; try omega

/-- The last character, a line feed that ends the text left aside, is a backslash without a partner. -/
def endsAlone (cs : List Char) : Bool :=
  let odd (rs : List Char) : Bool := (rs.takeWhile (· == '\\')).length % 2 == 1
  match cs.reverse with
  | '\n' :: rs => odd rs
  | rs => odd rs

/-- The number written by digits. -/
def groupNumber (digits : List Char) : Except Error Nat :=
  (readNat digits digits).mapError .badNumber

/-- The escape can be applied whenever the expression matches. -/
def Escape.check (statement : String) (r : Regex) : Escape → Except Error Unit
  | octal => .ok ()
  | named name =>
    let unknown : Except Error Unit :=
      .error (.malformed (.unknownGroupName (String.ofList name)) statement)
    if !name.isEmpty && name.all isDigitChar then do
      if (← groupNumber name) ≤ r.groupCount then return else unknown
    else if (r.groupNames.lookup (String.ofList name)).isSome then .ok () else unknown
  | numbered digits =>
    if digits.head? == some '0' then .ok ()
    else do
      if (← groupNumber digits) ≤ r.groupCount then return
      else .error (.malformed (.unknownGroupNumber (String.ofList digits)) statement)
  | other c =>
    if c.isAlpha && !(['a', 'b', 'f', 'n', 'r', 't', 'v'].contains c) then
      .error (.malformed (.badEscape c) statement)
    else .ok ()

/-- The replacement text fits the expression. -/
def checkReplacement (statement : String) (r : Regex) (replacement : List Char) :
    Except Error Unit := do
  if endsAlone replacement then throw (.malformed .loneBackslash statement)
  for e in escapes replacement do
    e.check statement r

end Treebank.Statement
