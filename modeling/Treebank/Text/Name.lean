import Treebank.Text.CutSet
import Treebank.Text.Name.Alias
import Treebank.Text.Name.Alphabet
import Treebank.Text.Name.EastAsian
import Treebank.Text.Name.Historic
import Treebank.Text.Name.Pictograph
import Treebank.Text.Name.Symbol

/-!
# Characters by name

The code point of a character whose name is written out. Korean syllables are named by the sounds they
are made of and ideographs by their code points; all other names stand in tables, where upper and
lower case are one.
-/

namespace Treebank.Text

/-! ## Korean syllables -/

/-- The sounds that begin a syllable; one of them is silent. -/
def initialSounds : List String :=
  ["G", "GG", "N", "D", "DD", "R", "M", "B", "BB", "S", "SS", "", "J", "JJ", "C", "K", "T", "P", "H"]

/-- The vowels of syllables. -/
def vowelSounds : List String :=
  ["A", "AE", "YA", "YAE", "EO", "E", "YEO", "YE", "O", "WA", "WAE", "OE", "YO", "U", "WEO", "WE",
   "WI", "YU", "EU", "YI", "I"]

/-- The sounds that end a syllable, none being the first of them. -/
def finalSounds : List String :=
  ["", "G", "GG", "GS", "N", "NJ", "NH", "D", "L", "LG", "LM", "LB", "LS", "LT", "LP", "LH", "M", "B",
   "BS", "S", "SS", "NG", "J", "C", "K", "T", "P", "H"]

/-- The code point of a syllable made of sounds given by their places in the three lists. -/
def syllableCode (initialPlace vowelPlace finalPlace : Nat) : Nat :=
  0xac00 + (initialPlace * vowelSounds.length + vowelPlace) * finalSounds.length + finalPlace

/-- The code point of the syllable with these sounds. -/
def syllable? (sounds : List Char) : Option Nat :=
  initialSounds.zipIdx.findSome? fun (first, i) => do
    let rest ← first.toList.isPrefixOf? sounds
    vowelSounds.zipIdx.findSome? fun (vowel, v) => do
      let last ← vowel.toList.isPrefixOf? rest
      let f ← finalSounds.idxOf? (String.ofList last)
      return syllableCode i v f

/-! ## Ideographs and other characters named by their code points -/

/-- Ideographs that several scripts share. -/
def sharedIdeographs : CutSet := ⟨#[
  0x3400, 0x4dc0, 0x4e00, 0xa000, 0x20000, 0x2a6e0, 0x2a700, 0x2b739, 0x2b740, 0x2b81e, 0x2b820,
  0x2cea2, 0x2ceb0, 0x2ebe1, 0x30000, 0x3134b]⟩

/-- An upper-case hexadecimal digit. -/
def isUpperHex (c : Char) : Bool := (hexValue? c).isSome && !c.isLower

/-- The shared ideograph whose code point is written by four or five upper-case digits. -/
def ideograph? (digits : List Char) : Option Nat :=
  let n := readDigits 16 hexValue? digits
  let few := digits.length == 4 || digits.length == 5
  if few && digits.all isUpperHex && sharedIdeographs.containsCode n then some n else none

/-- What the names of characters begin with that go on with the code point, and these characters. -/
def codedNames : List (String × CutSet) := [
  ("CJK COMPATIBILITY IDEOGRAPH-", ⟨#[0xf900, 0xfa6e, 0xfa70, 0xfada, 0x2f800, 0x2fa1e]⟩),
  ("KHITAN SMALL SCRIPT CHARACTER-", ⟨#[0x18b00, 0x18cd6]⟩),
  ("NUSHU CHARACTER-", ⟨#[0x1b170, 0x1b2fc]⟩)]

/-- The code point at the end of an upper-case name, written with no more digits than it needs. -/
def codedName? (name : List Char) : Option Nat :=
  codedNames.findSome? fun (stem, codes) => do
    let digits ← stem.toList.isPrefixOf? name
    let n := readDigits 16 hexValue? digits
    let needed := if n < 0x10000 then 4 else 5
    if digits.all isUpperHex && digits.length == needed && codes.containsCode n then some n else none

/-! ## All characters -/

/-- The tables of names. -/
def nameTables : List NameTable :=
  [alphabetNames, symbolNames, eastAsianNames, historicNames, pictographNames, aliases]

/-- The code point of the character with a name. -/
def characterNamed? (name : List Char) : Option Nat :=
  if let some sounds := "HANGUL SYLLABLE ".toList.isPrefixOf? name then syllable? sounds
  else if let some digits := "CJK UNIFIED IDEOGRAPH-".toList.isPrefixOf? name then ideograph? digits
  else
    let upper := name.map Char.toUpper
    codedName? upper <|> nameTables.findSome? (·.find? (upper.splitOnP (· == ' ')))

end Treebank.Text
