import Treebank.Text.Hex
import Treebank.Text.Printable

/-!
# Quoted text in messages

Messages quote the text they speak of. Single quotes enclose it, unless it holds a single quote and
no double one. The backslash and the enclosing quote are escaped, and so is every character that is
not printable.
-/

namespace Treebank.Text

/-- The escape of a character that cannot be shown, with as many digits as its code point needs. -/
def escapeCode (n : Nat) : List Char :=
  if n < 0x100 then '\\' :: 'x' :: hexDigits 2 n
  else if n < 0x10000 then '\\' :: 'u' :: hexDigits 4 n
  else '\\' :: 'U' :: hexDigits 8 n

/-- One character between quotes of the given kind. -/
def quoteChar (quote c : Char) : List Char :=
  if c == quote || c == '\\' then ['\\', c]
  else if c == '\n' then ['\\', 'n']
  else if c == '\r' then ['\\', 'r']
  else if c == '\t' then ['\\', 't']
  else if isPrintable c then [c]
  else escapeCode c.toNat

/-- The quote that encloses a text. -/
def quoteFor (cs : List Char) : Char :=
  if cs.contains '\'' && !cs.contains '"' then '"' else '\''

/-- The text as messages quote it. -/
def quoteChars (cs : List Char) : List Char :=
  let q := quoteFor cs
  q :: cs.flatMap (quoteChar q) ++ [q]

/-- The text as messages quote it. -/
def quoted (s : String) : String := String.ofList (quoteChars s.toList)

end Treebank.Text
