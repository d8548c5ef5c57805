import Treebank.Text.Hex

/-!
# Tables of names

Most names of characters begin with words of the name before. A table lists names in the order of
their code points and writes only how many words are kept and what follows them.
-/

namespace Treebank.Text

/-- Names of characters, as words between blanks and line feeds. A word such as `@41` begins the name
of the character with that hexadecimal code point. A lower-case letter in front of a word begins the
name of the next character, which keeps as many words of the name before as the letter comes after
`a`. Every other word carries on the name under way. -/
structure NameTable where
  text : String

namespace NameTable

/-- A place in a table: a code point and the words of its name, as far as they are read. -/
structure Place where
  code : Nat
  words : List (List Char)

/-- The word begins a name. -/
def opensName : List Char → Bool
  | [] => false
  | c :: _ => c == '@' || c.isLower

/-- The place after one more word. -/
def Place.after (p : Place) : List Char → Place
  | [] => p
  | '@' :: digits => ⟨readDigits 16 hexValue? digits, []⟩
  | c :: cs =>
    if c.isLower then ⟨p.code + 1, p.words.take (c.toNat - 'a'.toNat) ++ [cs]⟩
    else { p with words := p.words ++ [c :: cs] }

/-- The code point that the words of a name have in the rest of a table. A name is whole when the next
one begins. -/
def findFrom? (name : List (List Char)) (p : Place) : List (List Char) → Option Nat
  | [] => if p.words == name then some p.code else none
  | w :: ws =>
    if opensName w && p.words == name then some p.code else findFrom? name (p.after w) ws

/-- The code point that the words of a name have in a table. -/
def find? (t : NameTable) (name : List (List Char)) : Option Nat :=
  findFrom? name ⟨0, []⟩ (t.text.toList.splitOnP fun c => c == ' ' || c == '\n')

end NameTable

end Treebank.Text
