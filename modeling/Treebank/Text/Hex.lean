/-!
# Hexadecimal digits

Code points written with a fixed number of lower-case hexadecimal digits, and digits read back.
-/

namespace Treebank.Text

/-- The lower-case hexadecimal digit of a value below sixteen. -/
def hexDigit (n : Nat) : Char :=
  if n < 10 then Char.ofNat (48 + n) else Char.ofNat (87 + n)

/-- The last `width` hexadecimal digits of a number, the most significant first. -/
def hexDigits : (width n : Nat) → List Char
  | 0, _ => []
  | width + 1, n => hexDigits width (n / 16) ++ [hexDigit (n % 16)]

/-- The value of a hexadecimal digit of either case. -/
def hexValue? (c : Char) : Option Nat :=
  let n := c.toNat
  if 48 ≤ n && n ≤ 57 then some (n - 48)
  else if 97 ≤ n && n ≤ 102 then some (n - 87)
  else if 65 ≤ n && n ≤ 70 then some (n - 55)
  else none

/-- The value of an octal digit. -/
def octalValue? (c : Char) : Option Nat :=
  let n := c.toNat
  if 48 ≤ n && n ≤ 55 then some (n - 48) else none

/-- The number written by digits of a base; other characters count as zero. -/
def readDigits (base : Nat) (value? : Char → Option Nat) (cs : List Char) : Nat :=
  cs.foldl (fun n c => base * n + (value? c).getD 0) 0

end Treebank.Text
