import Treebank.Text.Number

/-!
# Faults of regular expressions

What can be wrong with a written regular expression, and how messages locate it.
-/

namespace Treebank.Regex

/-- What is wrong with a regular expression or a replacement text. -/
inductive Problem where
  | escapeAtEnd
  | badEscape (text : String)
  | incompleteEscape (text : String)
  | octalTooLarge (text : String)
  | undefinedCharacter (name : String)
  | openGroup
  | sameLookbehind
  | invalidGroup (number : Nat)
  | unterminatedSet
  | badRange (first last : String)
  | minAboveMax
  | nothingToRepeat
  | multipleRepeat
  | unexpectedEnd
  | missing (what : String)
  | unterminatedName (closer : Char)
  | badGroupName (name : String)
  | unknownName (name : String)
  | unknownExtension (text : String)
  | unterminatedComment
  | unterminatedGroup
  | badGroupNumber
  | tooManyBranches
  | lateGlobalFlags
  | redefinedName (name : String) (now before : Nat)
  | tooManyGroups
  | unbalanced
  | unknownFlag
  | localeFlag
  | mixedAlphabets
  | globalFlagOn
  | globalFlagOff
  | alphabetOff
  | flagOnAndOff
  | unsupportedRepeat (operator : String)
  | variableLookbehind
deriving Repr, DecidableEq

open Text in
/-- The wording of a problem. -/
def Problem.message : Problem → String
  | escapeAtEnd => "bad escape (end of pattern)"
  | badEscape t => s!"bad escape {t}"
  | incompleteEscape t => s!"incomplete escape {t}"
  | octalTooLarge t => s!"octal escape value {t} outside of range 0-0o377"
  | undefinedCharacter n => s!"undefined character name {quoted n}"
  | openGroup => "cannot refer to an open group"
  | sameLookbehind => "cannot refer to group defined in the same lookbehind subpattern"
  | invalidGroup n => s!"invalid group reference {n}"
  | unterminatedSet => "unterminated character set"
  | badRange a b => s!"bad character range {a}-{b}"
  | minAboveMax => "min repeat greater than max repeat"
  | nothingToRepeat => "nothing to repeat"
  | multipleRepeat => "multiple repeat"
  | unexpectedEnd => "unexpected end of pattern"
  | missing what => s!"missing {what}"
  | unterminatedName c => s!"missing {c}, unterminated name"
  | badGroupName n => s!"bad character in group name {quoted n}"
  | unknownName n => s!"unknown group name {quoted n}"
  | unknownExtension t => s!"unknown extension ?{t}"
  | unterminatedComment => "missing ), unterminated comment"
  | unterminatedGroup => "missing ), unterminated subpattern"
  | badGroupNumber => "bad group number"
  | tooManyBranches => "conditional backref with more than two branches"
  | lateGlobalFlags => "global flags not at the start of the expression"
  | redefinedName n a b => s!"redefinition of group name {quoted n} as group {a}; was group {b}"
  | tooManyGroups => "too many groups"
  | unbalanced => "unbalanced parenthesis"
  | unknownFlag => "unknown flag"
  | localeFlag => "bad inline flags: cannot use 'L' flag with a str pattern"
  | mixedAlphabets => "bad inline flags: flags 'a', 'u' and 'L' are incompatible"
  | globalFlagOn => "bad inline flags: cannot turn on global flag"
  | globalFlagOff => "bad inline flags: cannot turn off global flag"
  | alphabetOff => "bad inline flags: cannot turn off flags 'a', 'u' and 'L'"
  | flagOnAndOff => "bad inline flags: flag turned on and off"
  | unsupportedRepeat o => s!"internal: unsupported template operator {o}"
  | variableLookbehind => "look-behind requires fixed-width pattern"

/-- Why a text is no regular expression. -/
inductive Error where
  /-- A fault of the text, at a place in it if it can be pointed at. -/
  | malformed (problem : Problem) (position : Option Nat)
  /-- The whole expression is asked to keep to ASCII and to all scripts. -/
  | twoAlphabets
  /-- A number of turns beyond what can be counted. -/
  | repetitionTooLarge
  /-- A number of turns that cannot be read. -/
  | badTurnCount (f : Text.NumberFault)
  /-- A code point that is no 32-bit number. -/
  | codeTooLarge
  /-- A look behind over more characters than can be gone back. -/
  | lookbehindTooWide
  /-- A group without a name beyond those that can be counted. -/
  | tooManyNameless
deriving Repr, DecidableEq

/-- The place of a character in a text of several lines: the line, counted from one, and the column. -/
def lineAndColumn (text : List Char) (position : Nat) : Nat × Nat :=
  let before := text.take position
  (before.count '\n' + 1, (before.reverse.takeWhile (· != '\n')).length + 1)

/-- The wording of a fault of a text. -/
def Problem.located (problem : Problem) (text : List Char) (position : Option Nat) : String :=
  match position with
  | none => problem.message
  | some p =>
    let plain := s!"{problem.message} at position {p}"
    if text.contains '\n' then
      let (line, column) := lineAndColumn text p
      s!"{plain} (line {line}, column {column})"
    else plain

/-- The wording of a fault. -/
def Error.message (source : String) : Error → String
  | malformed problem position => problem.located source.toList position
  | twoAlphabets => "ASCII and UNICODE flags are incompatible"
  | repetitionTooLarge => "the repetition number is too large"
  | badTurnCount f => f.message
  | codeTooLarge => "Python int too large to convert to C int"
  | lookbehindTooWide => "invalid SRE code"
  | tooManyNameless => "object of type 'NoneType' has no len()"

end Treebank.Regex
