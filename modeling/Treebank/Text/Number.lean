import Treebank.Text.Blank
import Treebank.Text.Digit
import Treebank.Text.Quoted

/-!
# Whole numbers in texts

Numbers are written with decimal digits of any script. There is a greatest number of digits, leading
zeros included: longer numbers are neither read nor written.
-/

namespace Treebank.Text

/-- The greatest number of digits. -/
def digitLimit : Nat := 4300

/-- Why a text gives no number, or a number no text. -/
inductive NumberFault where
  | noNumber (text : String)
  /-- A text that begins with so many digits. -/
  | tooManyDigits (count : Nat)
  /-- A number that takes too many digits to write. -/
  | tooLarge
deriving Repr, DecidableEq

/-- The wording of a fault; of a long text only the beginning is quoted. -/
def NumberFault.message : NumberFault → String
  | noNumber text =>
    "invalid literal for int() with base 10: "
      ++ String.ofList ((quoteChars text.toList).take 200)
  | tooManyDigits count =>
    s!"Exceeds the limit ({digitLimit} digits) for integer string conversion: value has "
      ++ s!"{count} digits; use sys.set_int_max_str_digits() to increase the limit"
  | tooLarge =>
    s!"Exceeds the limit ({digitLimit} digits) for integer string conversion; "
      ++ "use sys.set_int_max_str_digits() to increase the limit"

/-- The number that digits write; `text` is what messages quote. A text with too many digits at its
beginning is refused for that, whatever follows them. -/
def readNat (text digits : List Char) : Except NumberFault Nat :=
  let count := (digits.takeWhile isDecimal).length
  if count > digitLimit then .error (.tooManyDigits count)
  else
    match readNat? digits with
    | some n => .ok n
    | none => .error (.noNumber (String.ofList text))

/-- A number with or without a minus sign before its digits. -/
def readInt (text : List Char) : Except NumberFault Int :=
  match text with
  | '-' :: digits => (readNat text digits).map fun n => -(n : Int)
  | digits => (readNat text digits).map Int.ofNat

/-- A number written with blanks around it, a sign before it and low lines between its digits. -/
def readLooseInt? (cs : List Char) : Option Int :=
  let cs := trimChars cs
  let (negative, digits) :=
    match cs with
    | '-' :: r => (true, r)
    | '+' :: r => (false, r)
    | r => (false, r)
  let groups := digits.splitOnP (· == '_')
  let all := groups.flatten
  if groups.any List.isEmpty || all.length > digitLimit then none
  else (readNat? all).map fun n => if negative then -(n : Int) else n

/-- The digits that write a number. -/
def writeNat (n : Nat) : Except NumberFault String :=
  let s := toString n
  if s.length > digitLimit then .error .tooLarge else .ok s

end Treebank.Text
