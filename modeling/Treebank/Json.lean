import Treebank.Text.Hex

/-!
# JSON values

Values as they are written into records of a run: one line, a blank after every comma and colon,
all characters outside printable ASCII as escapes of UTF-16 units, fields in the order given.
-/

namespace Treebank

inductive Json where
  | null
  | bool (b : Bool)
  | num (n : Int)
  | str (s : String)
  | arr (items : List Json)
  | obj (fields : List (String × Json))
deriving Inhabited

namespace Json

open Text in
/-- The escape of one UTF-16 unit. -/
def escapeUnit (n : Nat) : List Char := '\\' :: 'u' :: hexDigits 4 n

/-- One character inside a JSON string. -/
def escapeChar (c : Char) : List Char :=
  let n := c.toNat
  if c == '"' then ['\\', '"']
  else if c == '\\' then ['\\', '\\']
  else if c == '\n' then ['\\', 'n']
  else if c == '\r' then ['\\', 'r']
  else if c == '\t' then ['\\', 't']
  else if n == 8 then ['\\', 'b']
  else if n == 12 then ['\\', 'f']
  else if 32 ≤ n && n ≤ 126 then [c]
  else if n < 0x10000 then escapeUnit n
  else
    let m := n - 0x10000
    escapeUnit (0xd800 + m / 0x400) ++ escapeUnit (0xdc00 + m % 0x400)

/-- A JSON string. -/
def stringText (s : String) : String :=
  "\"" ++ String.ofList (s.toList.flatMap escapeChar) ++ "\""

mutual
/-- The one line that writes a value. -/
def text : Json → String
  | null => "null"
  | bool true => "true"
  | bool false => "false"
  | num n => toString n
  | str s => stringText s
  | arr items => "[" ++ String.intercalate ", " (itemTexts items) ++ "]"
  | obj fields => "\x7b" ++ String.intercalate ", " (fieldTexts fields) ++ "\x7d"
def itemTexts : List Json → List String
  | [] => []
  | v :: vs => text v :: itemTexts vs
def fieldTexts : List (String × Json) → List String
  | [] => []
  | (k, v) :: fs => (stringText k ++ ": " ++ text v) :: fieldTexts fs
end

end Json

end Treebank
