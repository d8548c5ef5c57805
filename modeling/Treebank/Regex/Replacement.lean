import Treebank.Regex.Matching
import Treebank.Regex.Reader

/-!
# Replacement texts

A replacement text is written in place of every match. It may refer to the groups of the match and
name characters by escapes; an escape of anything but a letter or a digit stands for itself, with
its backslash.
-/

namespace Treebank.Regex

/-- A part of a replacement text. -/
inductive Piece where
  | text (cs : List Char)
  | group (number : Nat)
deriving Repr, DecidableEq

/-- A reference to a group that there must be; `back` locates the fault. -/
def pieceOfGroup (r : Regex) (s : Scanner) (number back : Nat) : Except Error Piece :=
  if number > r.groupCount then .error (s.fault (.invalidGroup number) back)
  else .ok (.group number)

/-- The reference in angle brackets after `\g`. -/
def readNamedPiece (r : Regex) (s : Scanner) : Except Error (Piece × Scanner) := do
  match ← s.accept? '<' with
  | none => .error (s.fault (.missing "<") 0)
  | some s =>
    let (name, s) ← s.takeName '>' "group name"
    let back := name.length + 1
    let text := String.ofList name
    if Text.isIdentifier name then
      match r.groupNames.lookup text with
      | some n => return (← pieceOfGroup r s n back, s)
      | none => .error (.malformed (.unknownName text) none)
    else
      match Text.readLooseInt? name with
      | some (.ofNat n) =>
        if n ≥ groupLimit then .error (s.fault (.invalidGroup n) back)
        else return (← pieceOfGroup r s n back, s)
      | _ => .error (s.fault (.badGroupName text) back)

/-- A reference of one or two digits, or a character by three octal digits. -/
def readNumberPiece (r : Regex) (c : Char) (s : Scanner) : Except Error (Piece × Scanner) := do
  let (second, s) ← s.takeUpTo Char.isDigit 1
  let octalPair := isOctal c && second.length == 1 && second.all isOctal
  let (third, s) ← if octalPair then s.takeUpTo isOctal 1 else .ok ([], s)
  let digits := c :: second ++ third
  if third.isEmpty then
    return (← pieceOfGroup r s (Text.readDigits 10 Text.decimalValue? digits) digits.length, s)
  else
    let n := Text.readDigits 8 Text.octalValue? digits
    let text := '\\' :: digits
    if n > 0o377 then .error (s.fault (.octalTooLarge (String.ofList text)) text.length)
    else return (.text [Char.ofNat n], s)

/-- The part that an escape begins. -/
def readEscapedPiece (r : Regex) (c : Char) (s : Scanner) : Except Error (Piece × Scanner) := do
  if c == 'g' then readNamedPiece r s
  else if c == '0' then
    let (digits, s) ← s.takeUpTo isOctal 2
    return (.text [Char.ofNat (Text.readDigits 8 Text.octalValue? digits)], s)
  else if c.isDigit then readNumberPiece r c s
  else
    match letterEscape? c with
    | some n => return (.text [Char.ofNat n], s)
    | none =>
      if isAsciiLetter c then .error (s.fault (.badEscape (String.ofList ['\\', c])) 2)
      else return (.text ['\\', c], s)

/-- The parts of a replacement text. -/
def readPieces (r : Regex) : Nat → Scanner → Except Error (List Piece)
  | 0, _ => .ok []
  | fuel + 1, s =>
    match s.next with
    | none => .ok []
    | some (.plain c) => do
      let pieces ← readPieces r fuel (← s.advance)
      return .text [c] :: pieces
    | some (.escape c) => do
      let (piece, s) ← readEscapedPiece r c (← s.advance)
      let pieces ← readPieces r fuel s
      return piece :: pieces

/-- The parts of a replacement text for an expression. Without a backslash it is one part. -/
def pieces (r : Regex) (replacement : String) : Except Error (List Piece) :=
  let cs := replacement.toList
  if cs.contains '\\' then do readPieces r (cs.length + 1) (← Scanner.start cs)
  else .ok [.text cs]

/-- The characters of a text between two places. -/
def slice (text : Array Char) (b e : Nat) : List Char := (text.extract b e).toList

/-- A part of a replacement for one match; a group without a capture is empty. -/
def Piece.expand (text : Array Char) (start : Nat) (t : Trail) : Piece → List Char
  | .text cs => cs
  | .group 0 => slice text start t.pos
  | .group (n + 1) =>
    match t.captured? (n + 1) with
    | some (b, e) => slice text b e
    | none => []

/-- The text from the place `copied` on, with every match from the place `start` on replaced. An
empty match is not followed by an empty match at the same place. -/
def substituteFrom (r : Regex) (pieces : List Piece) (text : Array Char) :
    (fuel : Nat) → (start copied : Nat) → (advance : Bool) → List Char
  | 0, _, copied, _ => slice text copied text.size
  | fuel + 1, start, copied, advance =>
    match r.searchFrom text advance (text.size + 1 - start) start with
    | none => slice text copied text.size
    | some (b, t) =>
      slice text copied b ++ pieces.flatMap (Piece.expand text b t)
        ++ substituteFrom r pieces text fuel t.pos t.pos (t.pos == b)

/-- A text with every match replaced. -/
def substitute (r : Regex) (replacement : String) (s : String) : Except Error String := do
  let pieces ← r.pieces replacement
  let text := s.toList.toArray
  return String.ofList (r.substituteFrom pieces text (2 * text.size + 2) 0 0 false)

end Treebank.Regex
