import Treebank.Regex.Reading
import Treebank.Text.Name

/-!
# Escapes

What a backslash and the characters after it stand for: a character, a class of characters, a place,
or an earlier group.
-/

namespace Treebank.Regex

open ReadM Text

def isOctal (c : Char) : Bool := (octalValue? c).isSome

def isHex (c : Char) : Bool := (hexValue? c).isSome

def isAsciiLetter (c : Char) : Bool := c.isAlpha

/-- The character that a letter escape stands for. -/
def letterEscape? : Char → Option Nat
  | 'a' => some 7
  | 'b' => some 8
  | 'f' => some 12
  | 'n' => some 10
  | 'r' => some 13
  | 't' => some 9
  | 'v' => some 11
  | '\\' => some 92
  | _ => none

/-- The character class that an escape stands for. -/
def classEscape? (ascii : Bool) : Char → Option SetItem
  | 'd' => some (.cls .digit false ascii)
  | 'D' => some (.cls .digit true ascii)
  | 's' => some (.cls .blank false ascii)
  | 'S' => some (.cls .blank true ascii)
  | 'w' => some (.cls .word false ascii)
  | 'W' => some (.cls .word true ascii)
  | _ => none

/-- The place condition that an escape stands for. -/
def anchorEscape? (ascii : Bool) : Char → Option Anchor
  | 'A' => some .textStart
  | 'Z' => some .textEnd
  | 'b' => some (.wordEdge ascii)
  | 'B' => some (.noWordEdge ascii)
  | _ => none

/-- The code point written by exactly so many hexadecimal digits after an escape letter. -/
def readHexEscape (letter : Char) (width : Nat) : ReadM Nat := do
  let digits ← takeUpTo width isHex
  let text := '\\' :: letter :: digits
  if digits.length != width then fail (.incompleteEscape (String.ofList text)) text.length
  let n := readDigits 16 hexValue? digits
  if n > 0x7fffffff then throw .codeTooLarge
  if n > 0x10ffff then fail (.badEscape (String.ofList text)) text.length
  return n

/-- The code point of a character whose name is enclosed in braces. -/
def readNamedEscape : ReadM Nat := do
  if !(← accept '\x7b') then fail (.missing "\x7b") 0
  let name ← takeName '\x7d' "character name"
  match characterNamed? name with
  | some n => return n
  | none => fail (.undefinedCharacter (String.ofList name)) (name.length + 4)

/-- The code point of an octal escape, written by digits after the backslash. -/
def octalCode (digits : List Char) : ReadM Nat := do
  let n := readDigits 8 octalValue? digits
  let text := '\\' :: digits
  if n > 0o377 then fail (.octalTooLarge (String.ofList text)) text.length
  return n

/-- An escape that stands for itself, unless it is a letter. -/
def readOtherEscape (c : Char) : ReadM Nat := do
  if isAsciiLetter c then fail (.badEscape (String.ofList ['\\', c])) 2
  return c.toNat

/-- An escape within a character set. -/
def readSetEscape (ascii : Bool) (c : Char) : ReadM SetItem := do
  if let some n := letterEscape? c then return .code n
  if let some k := classEscape? ascii c then return k
  if c == 'x' then return .code (← readHexEscape 'x' 2)
  if c == 'u' then return .code (← readHexEscape 'u' 4)
  if c == 'U' then return .code (← readHexEscape 'U' 8)
  if c == 'N' then return .code (← readNamedEscape)
  if isOctal c then
    let more ← takeUpTo 2 isOctal
    return .code (← octalCode (c :: more))
  if c.isDigit then fail (.badEscape (String.ofList ['\\', c])) 2
  return .code (← readOtherEscape c)

/-- One literal code point. -/
def literal (flags : Flags) (n : Nat) : Expr := .char (.code false n flags.fold)

/-- A back reference, or an octal escape if three octal digits stand there. -/
def readNumberEscape (flags : Flags) (c : Char) : ReadM Expr := do
  let second ← takeUpTo 1 Char.isDigit
  match second with
  | [d] =>
    if isOctal c && isOctal d && (← nextPasses isOctal) then
      let third ← takeUpTo 1 isOctal
      return literal flags (← octalCode (c :: d :: third))
  | _ => pure ()
  let digits := c :: second
  let number := readDigits 10 decimalValue? digits
  if number ≤ (← openedGroups) then
    if !(← isClosed number) then fail .openGroup (digits.length + 1)
    checkLookbehind number
    return .backref number flags.fold
  fail (.invalidGroup number) digits.length

/-- An escape outside character sets. -/
def readEscape (flags : Flags) (c : Char) : ReadM Expr := do
  if let some a := anchorEscape? flags.ascii c then return .anchor a
  if let some k := classEscape? flags.ascii c then return .char (.ofSet false [k] flags.fold)
  if let some n := letterEscape? c then return literal flags n
  if c == 'x' then return literal flags (← readHexEscape 'x' 2)
  if c == 'u' then return literal flags (← readHexEscape 'u' 4)
  if c == 'U' then return literal flags (← readHexEscape 'U' 8)
  if c == 'N' then return literal flags (← readNamedEscape)
  if c == '0' then
    let more ← takeUpTo 2 isOctal
    return literal flags (readDigits 8 octalValue? (c :: more))
  if c.isDigit then readNumberEscape flags c
  else return literal flags (← readOtherEscape c)

end Treebank.Regex
