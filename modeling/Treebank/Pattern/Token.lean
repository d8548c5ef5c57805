import Treebank.Regex.Error
import Treebank.Relation
import Treebank.Text.Number
import Treebank.Text.Letter

/-!
# Words of the pattern language

A pattern text is split into brackets, operators, relation signs, capture names, labels, quoted
labels and regular expressions. Every token knows where it stands and whether blanks surround it: a
bar without blanks joins labels, one with blanks joins relations.
-/

namespace Treebank.Pattern

/-- What a token is. -/
inductive Form where
  | leftParen
  | rightParen
  | leftBracket
  | rightBracket
  | bang
  | question
  | ampersand
  | pipe
  | at
  /-- A capture name after an equals sign. -/
  | name
  /-- A relation sign. -/
  | sign (s : RelationSign)
  /-- A relation to or from a child by its number. -/
  | numbered (down : Bool) (digits : String)
  | label
  | quoted
  | regex
deriving Repr, DecidableEq

structure Token where
  form : Form
  text : String
  offset : Nat
  spacedBefore : Bool
  spacedAfter : Bool
deriving Repr, DecidableEq

/-- What can be wrong with a pattern text. -/
inductive Problem where
  | nameExpected
  | unknownRelation (c : Char)
  | unterminatedRegex
  | unterminatedLabel
  | empty
  | trailing
  | expected (what : String)
  | nodeExpected
  | relationExpected
  | strayAmpersand
  | childZero
  | badRegex (source : String) (e : Regex.Error)
deriving Repr, DecidableEq

/-- The wording of a problem. -/
def Problem.message : Problem → String
  | nameExpected => "expected a capture name after '='"
  | unknownRelation c => s!"unknown relation starting with {Text.quoted c.toString}"
  | unterminatedRegex => "unterminated regular expression"
  | unterminatedLabel => "unterminated quoted label"
  | empty => "empty pattern"
  | trailing => "unexpected token after pattern"
  | expected what => s!"expected {what}"
  | nodeExpected => "expected a node description"
  | relationExpected => "expected a relation"
  | strayAmpersand => "'&' must join two relations"
  | childZero => "child indices start at 1"
  | badRegex source e => s!"invalid regular expression: {e.message source}"

/-- Why a text is no pattern. -/
inductive Error where
  /-- A fault of the text, the place where it shows, and what stands near it. -/
  | malformed (problem : Problem) (offset : Nat) (near : String) (pattern : String)
  /-- The number of a child cannot be read. -/
  | badNumber (f : Text.NumberFault)
  /-- A regular expression that is refused without a place in it. -/
  | refusedRegex (e : Regex.Error)
deriving Repr, DecidableEq

open Text in
/-- The wording of a fault. -/
def Error.message : Error → String
  | malformed p offset near pattern =>
    s!"{p.message} at offset {offset} (near {quoted near}) in pattern {quoted pattern}"
  | badNumber f => f.message
  | refusedRegex e => e.message ""

/-- What errors say they are near to when the text has come to its end. -/
def endName : String := "end of pattern"

/-- The fault of a text at a place, near what stands there. -/
def Error.atPlace (text : List Char) (problem : Problem) (offset : Nat) : Error :=
  let near := (text.drop offset).take 10
  .malformed problem offset (if near.isEmpty then endName else String.ofList near)
    (String.ofList text)

open Text

/-- The characters with a meaning of their own, which end a bare label. -/
def isReserved (c : Char) : Bool := "()[]<>$.,=!|&/@\"?".toList.contains c

/-- The form of a token of one character. -/
def bracketForm? : Char → Option Form
  | '(' => some .leftParen
  | ')' => some .rightParen
  | '[' => some .leftBracket
  | ']' => some .rightBracket
  | '!' => some .bang
  | '?' => some .question
  | '&' => some .ampersand
  | '|' => some .pipe
  | _ => none

/-- The body of a regular expression, in which a backslash before a slash is dropped, and the number
of characters up to and including the closing slash. -/
def regexBody : List Char → Option (List Char × Nat)
  | [] => none
  | '/' :: _ => some ([], 1)
  | '\\' :: '/' :: cs => (regexBody cs).map fun (b, n) => ('/' :: b, n + 2)
  | c :: cs => (regexBody cs).map fun (b, n) => (c :: b, n + 1)

/-- The body of a quoted label, in which a backslash makes the next character part of the label, and
the number of characters up to and including the closing quote. -/
def quotedBody : List Char → Option (List Char × Nat)
  | [] => none
  | '"' :: _ => some ([], 1)
  | '\\' :: c :: cs => (quotedBody cs).map fun (b, n) => (c :: b, n + 2)
  | c :: cs => (quotedBody cs).map fun (b, n) => (c :: b, n + 1)

/-- The digits of a child number, with the minus sign before them. -/
def childNumber? : List Char → Option (List Char)
  | '-' :: cs =>
    let ds := cs.takeWhile isDigitChar
    if ds.isEmpty then none else some ('-' :: ds)
  | cs =>
    let ds := cs.takeWhile isDigitChar
    if ds.isEmpty then none else some ds

/-- The longest relation sign at the beginning of a text. -/
def longestSign? (cs : List Char) : Option (String × RelationSign) :=
  RelationSign.longestFirst.find? fun (s, _) => s.toList.isPrefixOf cs

/-- A token without its place: its form, its text, and the number of characters after the first that
it takes. -/
structure Lexeme where
  form : Form
  text : List Char
  further : Nat

/-- The token that begins with a character that is not blank. -/
def lexeme (c : Char) (cs : List Char) : Except Problem Lexeme :=
  if let some form := bracketForm? c then .ok ⟨form, [c], 0⟩
  else if c == '=' && cs.head? != some '=' then
    let name := cs.takeWhile isWordChar
    if name.isEmpty then .error .nameExpected else .ok ⟨.name, name, name.length⟩
  else if c == '<' || c == '>' || c == '$' || c == '.' || c == ',' || c == '=' then
    match if c == '<' || c == '>' then childNumber? cs else none with
    | some ds => .ok ⟨.numbered (c == '<') (String.ofList ds), c :: ds, ds.length⟩
    | none =>
      match longestSign? (c :: cs) with
      | some (s, sign) => .ok ⟨.sign sign, s.toList, s.length - 1⟩
      | none => .error (.unknownRelation c)
  else if c == '/' then
    match regexBody cs with
    | some (body, n) => .ok ⟨.regex, body, n⟩
    | none => .error .unterminatedRegex
  else if c == '"' then
    match quotedBody cs with
    | some (body, n) => .ok ⟨.quoted, body, n⟩
    | none => .error .unterminatedLabel
  else if c == '@' then .ok ⟨.at, [c], 0⟩
  else
    let more := cs.takeWhile fun d => !isBlank d && !isReserved d
    .ok ⟨.label, c :: more, more.length⟩

/-- The tokens of the text from a place on, with nothing known yet of what follows them, and the
place of the first fault. -/
def scanFrom (offset : Nat) (spaced : Bool) : List Char → Except (Problem × Nat) (List Token)
  | [] => .ok []
  | c :: cs =>
    if isBlank c then scanFrom (offset + 1) true cs
    else
      match lexeme c cs with
      | .error p => .error (p, offset)
      | .ok l =>
        (⟨l.form, String.ofList l.text, offset, spaced, false⟩ :: ·)
          <$> scanFrom (offset + 1 + l.further) false (cs.drop l.further)
termination_by cs => cs.length
decreasing_by all_goals simp; try omega

/-- A token ends, as far as its text tells, before the next one begins. -/
def standsApart (t : Token) : List Token → Bool
  | [] => true
  | u :: _ => u.spacedBefore || u.offset > t.offset + t.text.length

/-- The tokens with what is known of the ones after them. -/
def markSpaces : List Token → List Token
  | [] => []
  | t :: ts => { t with spacedAfter := standsApart t ts } :: markSpaces ts

/-- The tokens of a pattern text. -/
def tokens (text : String) : Except Error (List Token) :=
  match scanFrom 0 false text.toList with
  | .ok ts => .ok (markSpaces ts)
  | .error (p, offset) => .error (.atPlace text.toList p offset)

end Treebank.Pattern
