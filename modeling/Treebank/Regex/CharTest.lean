import Treebank.Text.Blank
import Treebank.Text.Case
import Treebank.Text.Digit
import Treebank.Text.Letter

/-!
# Tests of one character

What a regular expression asks of a single character: to be a given one, to be in a set, or to be
any. Case may count, or be ignored among the ASCII letters or among the letters of all scripts.
-/

namespace Treebank.Regex

/-- How far case is ignored. -/
inductive Fold where
  | exact
  | ascii
  | full
deriving Repr, DecidableEq

/-- The character classes with an escape of their own. -/
inductive CharClass where
  | digit
  | blank
  | word
deriving Repr, DecidableEq

/-- A member of a character set. -/
inductive SetItem where
  | code (n : Nat)
  | range (lo hi : Nat)
  | cls (cls : CharClass) (negated ascii : Bool)
deriving Repr, DecidableEq

/-- What is asked of a character. -/
inductive CharTest where
  | any
  | notLineFeed
  | code (negated : Bool) (n : Nat) (fold : Fold)
  | set (negated : Bool) (items : List SetItem) (fold : Fold)
deriving Repr, DecidableEq

open Text

/-- The characters of a class, in ASCII or in all scripts. -/
def CharClass.contains (cls : CharClass) (ascii : Bool) (c : Char) : Bool :=
  match cls, ascii with
  | digit, false => isDecimal c
  | digit, true => c.isDigit
  | blank, false => isBlank c
  | blank, true => isAsciiBlank c
  | word, false => isWordChar c
  | word, true => isAsciiWordChar c

/-- A code point as it is compared when case is ignored. -/
def Fold.apply : Fold → Nat → Nat
  | exact, n => n
  | ascii, n => lowerAscii n
  | full, n => lowerCode n

/-- A code point that is told from others only by case. -/
def Fold.cased : Fold → Nat → Bool
  | exact, _ => false
  | ascii, n => (65 ≤ n && n ≤ 90) || (97 ≤ n && n ≤ 122)
  | full, n => hasCase n

/-- Some code point between two others, these included, is told from others only by case. -/
def Fold.casedBetween : Fold → (lo hi : Nat) → Bool
  | exact, _, _ => false
  | ascii, lo, hi => (lo ≤ 90 && 65 ≤ hi) || (lo ≤ 122 && 97 ≤ hi)
  | full, lo, hi => caseBetween lo hi

/-- The code point `n` of an expression stands for the character `c`. -/
def Fold.same (fold : Fold) (n : Nat) (c : Char) : Bool :=
  match fold with
  | exact => c.toNat == n
  | ascii => lowerAscii c.toNat == lowerAscii n
  | full =>
    if hasCase n then
      let x := lowerCode c.toNat
      let l := lowerCode n
      x == l || (twinsOf l).contains x
    else c.toNat == n

/-- The first code point beyond the plane for which sets take case into account. -/
def planeEnd : Nat := 0x10000

/-- A set with this member compares characters in lower case. A member beyond the first plane makes a
set do so whenever case is ignored. -/
def SetItem.folds (fold : Fold) : SetItem → Bool
  | .cls .. => false
  | .code n => fold != .exact && (planeEnd ≤ n || fold.cased n)
  | .range lo hi => fold != .exact && (planeEnd ≤ hi || fold.casedBetween lo hi)

/-- A set member holds a code point, given as it is compared. Case is ignored only for members in the
first plane: one beyond it is compared as it stands, and a range that goes beyond it holds a code
point also by its capital. -/
def SetItem.holds (fold : Fold) (x : Nat) : SetItem → Bool
  | .cls k negated ascii => k.contains ascii (Char.ofNat x) != negated
  | .code n =>
    if n < planeEnd then
      match fold with
      | .full =>
        let l := lowerCode n
        x == l || (twinsOf l).contains x
      | _ => x == fold.apply n
    else x == n
  | .range lo hi =>
    let within (n : Nat) : Bool := lo ≤ n && n ≤ hi
    let low (n : Nat) : Bool := within n && n < planeEnd
    let beyond : Bool := planeEnd ≤ hi && (within x || within (upperCode x))
    match fold with
    | .exact => within x
    | .ascii => low x || (97 ≤ x && x ≤ 122 && low (x - 32)) || beyond
    | .full => (x :: twinsOf x).any (fun l => (lowerSources l).any low) || beyond

/-- The test of a set. Where no member has case the characters are compared as they stand. -/
def CharTest.ofSet (negated : Bool) (items : List SetItem) (fold : Fold) : CharTest :=
  .set negated items (if items.any (SetItem.folds fold) then fold else .exact)

/-- The test on a character. -/
def CharTest.accepts : CharTest → Char → Bool
  | any, _ => true
  | notLineFeed, c => c != '\n'
  | code negated n fold, c => fold.same n c != negated
  | set negated items fold, c => (items.any (SetItem.holds fold (fold.apply c.toNat))) != negated

/-! ## Tests of candidates -/

/-- A member without case, by which a set can be looked for as it stands. -/
def SetItem.isCaseless (fold : Fold) : SetItem → Bool
  | .cls .. => true
  | .code n => !fold.cased n
  | .range lo hi => fold == .exact || (hi < planeEnd && !fold.casedBetween lo hi)

/-- A set member with its class taken in the alphabet of the whole expression. -/
def SetItem.inAlphabet (ascii : Bool) : SetItem → SetItem
  | .cls k negated _ => .cls k negated ascii
  | item => item

/-- The test by which places are looked for where an expression that begins with a set may match; it
is taken in the alphabet of the whole expression, even if the set stands in a group with another. -/
def CharTest.candidate? (ascii : Bool) : CharTest → Option CharTest
  | set negated items fold =>
    if items.all (SetItem.isCaseless fold) then
      some (.set negated (items.map (SetItem.inAlphabet ascii)) .exact)
    else none
  | _ => none

end Treebank.Regex
