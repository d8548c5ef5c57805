import Treebank.Text.CutSet

/-!
# Blanks

White space of every script, and the trimming of text.
-/

namespace Treebank.Text

/-- Code points of white space, the four information separators included. -/
def blanks : CutSet := ⟨#[
  9, 14, 28, 33, 133, 134, 160, 161, 5760, 5761, 8192, 8203, 8232, 8234,
  8239, 8240, 8287, 8288, 12288, 12289]⟩

/-- White space. -/
def isBlank (c : Char) : Bool := blanks.contains c

/-- White space among the first 128 code points, without the information separators. -/
def isAsciiBlank (c : Char) : Bool :=
  c == ' ' || (9 ≤ c.toNat && c.toNat ≤ 13)

/-- The text without the blanks at both ends. -/
def trimChars (cs : List Char) : List Char :=
  ((cs.dropWhile isBlank).reverse.dropWhile isBlank).reverse

/-- The text without the blanks at both ends. -/
def trim (s : String) : String := String.ofList (trimChars s.toList)

end Treebank.Text
