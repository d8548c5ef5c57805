import Treebank.Regex.Error
import Treebank.Text.Hex

/-!
# Scanning the text of a regular expression

The text is taken one element at a time: a character, or a backslash with the character after it.
The next element is always known, so a lone backslash at the end is found when what stands before it
is taken.
-/

namespace Treebank.Regex

/-- An element of the text. -/
inductive Element where
  | plain (c : Char)
  | escape (c : Char)
deriving Repr, DecidableEq

namespace Element

/-- The characters of an element. -/
def chars : Element → List Char
  | plain c => [c]
  | escape c => ['\\', c]

def text (e : Element) : String := String.ofList e.chars

def length (e : Element) : Nat := e.chars.length

end Element

/-- A place in the text: the next element, what comes after it, and how many characters have been
taken, the next element included. -/
structure Scanner where
  next : Option Element
  rest : List Char
  index : Nat
deriving Repr, DecidableEq

namespace Scanner

/-- Takes the next element. -/
def advance (s : Scanner) : Except Error Scanner :=
  match s.rest with
  | [] => .ok { s with next := none }
  | ['\\'] => .error (.malformed .escapeAtEnd (some s.index))
  | '\\' :: c :: rest => .ok ⟨some (.escape c), rest, s.index + 2⟩
  | c :: rest => .ok ⟨some (.plain c), rest, s.index + 1⟩

/-- The beginning of a text. -/
def start (text : List Char) : Except Error Scanner := advance ⟨none, text, 0⟩

/-- The number of characters before the next element. -/
def tell (s : Scanner) : Nat := s.index - (s.next.map Element.length).getD 0

/-- The fault at a place so many characters before the next element. -/
def fault (s : Scanner) (problem : Problem) (back : Nat) : Error :=
  .malformed problem (some (s.tell - back))

/-- Takes the next element if it is this character. -/
def accept? (s : Scanner) (c : Char) : Except Error (Option Scanner) :=
  if s.next == some (.plain c) then some <$> s.advance else .ok none

/-- At most so many plain characters that pass a test, and what follows them. -/
def takeUpTo (test : Char → Bool) : Nat → Scanner → Except Error (List Char × Scanner)
  | 0, s => .ok ([], s)
  | n + 1, s =>
    match s.next with
    | some (.plain c) =>
      if test c then do
        let (cs, s) ← takeUpTo test n (← s.advance)
        return (c :: cs, s)
      else .ok ([], s)
    | _ => .ok ([], s)

/-- The characters up to a closing one, which is taken too. They must not be none at all. -/
def takeUntil (closer : Char) (what : String) (taken : List Char) :
    Nat → Scanner → Except Error (List Char × Scanner)
  | 0, s => .error (s.fault (.missing what) 0)
  | fuel + 1, s =>
    match s.next with
    | none =>
      if taken.isEmpty then .error (s.fault (.missing what) 0)
      else .error (s.fault (.unterminatedName closer) taken.length)
    | some e => do
      let s ← s.advance
      if e == .plain closer then
        if taken.isEmpty then .error (s.fault (.missing what) 1) else .ok (taken, s)
      else takeUntil closer what (taken ++ e.chars) fuel s

/-- The name up to a closing character, which is taken too. -/
def takeName (s : Scanner) (closer : Char) (what : String) : Except Error (List Char × Scanner) :=
  takeUntil closer what [] (s.rest.length + 2) s

end Scanner

end Treebank.Regex
