import Treebank.Regex.CharSet
import Treebank.Regex.Choice
import Treebank.Regex.Group
import Treebank.Regex.Repetition

/-!
# Reading regular expressions

A text is a choice between sequences of items, each of which may be repeated. Flags at the beginning
hold for the whole text, flags in a group for that group. What can only be judged of the whole
expression, such as the width of a look behind, is judged at the end.
-/

namespace Treebank.Regex

open ReadM Text

/-- The characters of a comment in an expression with blanks, up to the end of the line. -/
def skipLine : Nat → ReadM Unit
  | 0 => return
  | fuel + 1 => do
    match ← take with
    | none => return
    | some (.plain '\n') => return
    | some _ => skipLine fuel

mutual
/-- A choice between sequences, up to a closing bracket or the end. At the top, flags given at the
beginning of the text are in force from there on. -/
def readAlternatives (top : Bool) : (fuel : Nat) → Flags → ReadM (List Expr)
  | 0, _ => fail .unexpectedEnd 0
  | fuel + 1, flags => do
    let first ← readItems top fuel flags []
    let others ← readBranches top fuel flags
    let whole := (← get).flags
    let flags := if top then whole else flags
    return choice flags.fold (first :: others)
/-- The alternatives after the first. -/
def readBranches (top : Bool) : (fuel : Nat) → Flags → ReadM (List (List Expr))
  | 0, _ => fail .unexpectedEnd 0
  | fuel + 1, flags => do
    if !(← accept '|') then return []
    let whole := (← get).flags
    let flags := if top then whole else flags
    let items ← readItems false fuel flags []
    let more ← readBranches top fuel flags
    return items :: more
/-- A sequence after the parts read so far, which are given the last first. -/
def readItems (atStart : Bool) : (fuel : Nat) → Flags → List Part → ReadM (List Expr)
  | 0, _, _ => fail .unexpectedEnd 0
  | fuel + 1, flags, parts => do
    let done := parts.reverse.flatMap Part.items
    let some this ← peek | return done
    if this == .plain '|' || this == .plain ')' then return done
    let _ ← take
    match this with
    | .escape c => readItems atStart fuel flags (.item (← readEscape flags c) :: parts)
    | .plain c =>
      let size := (← get).scanner.rest.length + 2
      if flags.verbose && isAsciiBlank c then readItems atStart fuel flags parts
      else if flags.verbose && c == '#' then
        skipLine size
        readItems atStart fuel flags parts
      else
        match c with
        | '[' => readItems atStart fuel flags (.item (← readSet flags) :: parts)
        | '.' =>
          let test := if flags.dotAll then CharTest.any else CharTest.notLineFeed
          readItems atStart fuel flags (.item (.char test) :: parts)
        | '^' =>
          let a := if flags.multiline then Anchor.lineStart else Anchor.textStart
          readItems atStart fuel flags (.item (.anchor a) :: parts)
        | '$' =>
          let a := if flags.multiline then Anchor.lineEnd else Anchor.lastLineEnd
          readItems atStart fuel flags (.item (.anchor a) :: parts)
        | '?' => readItems atStart fuel flags (← readLoop (← tell) (0, some 1) parts)
        | '*' => readItems atStart fuel flags (← readLoop (← tell) (0, none) parts)
        | '+' => readItems atStart fuel flags (← readLoop (← tell) (1, none) parts)
        | '\x7b' =>
          let here ← tell
          match ← readTurns with
          | some turns => readItems atStart fuel flags (← readLoop here turns parts)
          | none => readItems atStart fuel flags (.item (literal flags c.toNat) :: parts)
        | '(' =>
          let start := (← tell) - 1
          if ← accept '?' then
            let some sign ← take | fail .unexpectedEnd 0
            match sign with
            | .plain ':' =>
              let items ← readGroup start fuel flags
              readItems atStart fuel flags (.bracketed items :: parts)
            | .plain '>' =>
              let e := Expr.ofItems (← readGroup start fuel flags)
              readItems atStart fuel flags (.item (.atomic e) :: parts)
            | .plain 'P' =>
              if ← accept '<' then
                let name ← takeName '>' "group name"
                checkGroupName name
                let e ← readCapture start fuel flags (some name)
                readItems atStart fuel flags (.item e :: parts)
              else
                let number ← readNamedReference
                readItems atStart fuel flags (.item (.backref number flags.fold) :: parts)
            | .plain '#' =>
              skipComment start size
              readItems atStart fuel flags parts
            | .plain '=' =>
              let e := Expr.ofItems (← readGroup start fuel flags)
              readItems atStart fuel flags (.item (.ahead false e) :: parts)
            | .plain '!' =>
              let e := Expr.ofItems (← readGroup start fuel flags)
              readItems atStart fuel flags (.item (.ahead true e) :: parts)
            | .plain '<' =>
              let some kind ← take | fail .unexpectedEnd 0
              if kind != .plain '=' && kind != .plain '!' then
                fail (.unknownExtension ("<" ++ kind.text)) (kind.length + 2)
              let outer := (← get).groupsBefore
              let count ← openedGroups
              modify fun st => { st with groupsBefore := some (outer.getD count) }
              let e := Expr.ofItems (← readAlternatives false fuel flags)
              modify fun st => { st with groupsBefore := outer }
              closeBracket start
              let width := e.width (← groupWidth)
              readItems atStart fuel flags (.item (.behind (kind == .plain '!') width e) :: parts)
            | .plain '(' =>
              let group ← readCondGroup
              let yes := Expr.ofItems (← readItems false fuel flags [])
              let no ← if ← accept '|' then readItems false fuel flags [] else pure []
              if (← peek) == some (.plain '|') then fail .tooManyBranches 0
              closeBracket start
              readItems atStart fuel flags (.item (.cond group yes (.ofItems no)) :: parts)
            | .plain d =>
              if Flags.letters.contains d || d == '-' then
                match ← readFlags d with
                | none =>
                  if !atStart || !parts.isEmpty then fail .lateGlobalFlags ((← tell) - start)
                  readItems atStart fuel (← get).flags parts
                | some (on, off) =>
                  let e := Expr.ofItems (← readGroup start fuel (flags.within on off))
                  readItems atStart fuel flags (.item (.group e) :: parts)
              else fail (.unknownExtension sign.text) (sign.length + 1)
            | .escape _ => fail (.unknownExtension sign.text) (sign.length + 1)
          else
            let e ← readCapture start fuel flags none
            readItems atStart fuel flags (.item e :: parts)
        | _ => readItems atStart fuel flags (.item (literal flags c.toNat) :: parts)
/-- The rest of a group that began at a place, with its closing bracket. -/
def readGroup (start : Nat) : (fuel : Nat) → Flags → ReadM (List Expr)
  | 0, _ => fail .unexpectedEnd 0
  | fuel + 1, flags => do
    let items ← readAlternatives false fuel flags
    closeBracket start
    return items
/-- The rest of a capturing group that began at a place. -/
def readCapture (start : Nat) : (fuel : Nat) → Flags → Option (List Char) → ReadM Expr
  | 0, _, _ => fail .unexpectedEnd 0
  | fuel + 1, flags, name => do
    let number ← openCapture name
    let e := Expr.ofItems (← readAlternatives false fuel flags)
    closeBracket start
    let width := e.width (← groupWidth)
    modify fun st => { st with widths := st.widths.setIfInBounds (number - 1) (some width) }
    return .capture number e
end

/-- The name of a repetition in messages. -/
def Mode.operator : Mode → String
  | greedy => "MAX_REPEAT"
  | lazy => "MIN_REPEAT"
  | possessive => "POSSESSIVE_REPEAT"

/-- The first fault that only shows in the whole expression. -/
def Expr.fault? (noRepeat : Bool) : Expr → Option Problem
  | empty => none
  | char _ => none
  | anchor _ => none
  | seq a b => (a.fault? noRepeat).or (b.fault? noRepeat)
  | alt a b => (a.fault? noRepeat).or (b.fault? noRepeat)
  | group e => e.fault? noRepeat
  | capture _ e => e.fault? noRepeat
  | backref _ _ => none
  | ahead _ e => e.fault? noRepeat
  | behind _ w e =>
    if w.min != w.max then some .variableLookbehind
    else e.fault? noRepeat
  | cond _ yes no => (yes.fault? noRepeat).or (no.fault? noRepeat)
  | loop mode _ _ e =>
    if noRepeat then some (.unsupportedRepeat mode.operator) else e.fault? noRepeat
  | atomic e => e.fault? noRepeat

/-- The greatest number of characters that a look behind can go back. -/
def behindLimit : Nat := 2147483647

/-- All looks behind stay within what they can go back. -/
def Expr.keepsLimit : Expr → Bool
  | seq a b => a.keepsLimit && b.keepsLimit
  | alt a b => a.keepsLimit && b.keepsLimit
  | group e => e.keepsLimit
  | capture _ e => e.keepsLimit
  | ahead _ e => e.keepsLimit
  | behind _ w e => w.min ≤ behindLimit && e.keepsLimit
  | cond _ yes no => yes.keepsLimit && no.keepsLimit
  | loop _ _ _ e => e.keepsLimit
  | atomic e => e.keepsLimit
  | _ => true

/-- The whole of a text. -/
def readWhole (fuel : Nat) : ReadM Expr := do
  let e := Expr.ofItems (← readAlternatives true fuel .none)
  let st ← get
  if st.flags.ascii && st.flags.allScripts then throw .twoAlphabets
  if st.scanner.next.isSome then fail .unbalanced 0
  match st.asked.find? fun (n, _) => st.widths.size < n with
  | some (n, place) => throw (.malformed (.invalidGroup n) (some place))
  | none => pure ()
  match e.fault? st.flags.noRepeat with
  | some p => throw (.malformed p none)
  | none =>
    if !e.keepsLimit then throw .lookbehindTooWide
    return e

/-- The regular expression that a text writes. -/
def parse (source : String) : Except Error Regex := do
  let text := source.toList
  let scanner ← Scanner.start text
  let (e, st) ← (readWhole (4 * text.length + 8)).run ⟨scanner, .none, [], #[], none, []⟩
  let width := e.width fun n => (st.widths[n - 1]?.join).getD .zero
  return {
    source, expr := e, groupCount := st.widths.size, groupNames := st.names, least := width.min
    candidate := e.first?.bind (CharTest.candidate? st.flags.ascii) }

end Treebank.Regex
