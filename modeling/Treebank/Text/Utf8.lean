import Treebank.Text.Hex

/-!
# UTF-8

Bytes are decoded strictly: overlong forms, surrogates and values past the last code point are
refused at the first byte that rules the sequence out.
-/

namespace Treebank.Text.Utf8

/-- Why bytes are no UTF-8. -/
inductive Reason where
  | invalidStart
  | invalidContinuation
  | endOfData
deriving Repr, DecidableEq

/-- The first fault of a text: the bytes `first`, …, `last` begin a sequence that cannot be. -/
structure Fault where
  byte : Nat
  first : Nat
  last : Nat
  reason : Reason
deriving Repr, DecidableEq

/-- The wording of a reason. -/
def Reason.message : Reason → String
  | .invalidStart => "invalid start byte"
  | .invalidContinuation => "invalid continuation byte"
  | .endOfData => "unexpected end of data"

/-- The wording of a fault; a single byte is shown, several are only located. -/
def Fault.message (f : Fault) : String :=
  let place :=
    if f.first == f.last then
      s!"byte 0x{String.ofList (hexDigits 2 f.byte)} in position {f.first}"
    else s!"bytes in position {f.first}-{f.last}"
  s!"'utf-8' codec can't decode {place}: {f.reason.message}"

/-- The number of continuation bytes after a first byte, the bits it carries, and the least and the
greatest value of the byte that follows it. -/
def lead? (b : Nat) : Option (Nat × Nat × Nat × Nat) :=
  if b < 0x80 then some (0, b, 0x80, 0xbf)
  else if 0xc2 ≤ b && b ≤ 0xdf then some (1, b - 0xc0, 0x80, 0xbf)
  else if b == 0xe0 then some (2, 0, 0xa0, 0xbf)
  else if b == 0xed then some (2, 0xd, 0x80, 0x9f)
  else if 0xe1 ≤ b && b ≤ 0xef then some (2, b - 0xe0, 0x80, 0xbf)
  else if b == 0xf0 then some (3, 0, 0x90, 0xbf)
  else if 0xf1 ≤ b && b ≤ 0xf3 then some (3, b - 0xf0, 0x80, 0xbf)
  else if b == 0xf4 then some (3, 4, 0x80, 0x8f)
  else none

/-- What has been read of the sequence under way: its first byte, how many bytes of it were read
and are still owed, the value so far, and the bounds on the next byte. -/
structure Partial where
  byte : Nat
  read : Nat
  owed : Nat
  value : Nat
  low : Nat
  high : Nat

/-- The characters of the bytes from position `pos` on. -/
def decodeFrom (pos : Nat) : Option Partial → List Nat → Except Fault (List Char)
  | none, [] => .ok []
  | some p, [] => .error ⟨p.byte, pos - p.read, pos - 1, .endOfData⟩
  | none, b :: bs =>
    match lead? b with
    | none => .error ⟨b, pos, pos, .invalidStart⟩
    | some (0, v, _, _) => (Char.ofNat v :: ·) <$> decodeFrom (pos + 1) none bs
    | some (owed, v, low, high) => decodeFrom (pos + 1) (some ⟨b, 1, owed, v, low, high⟩) bs
  | some p, b :: bs =>
    if p.low ≤ b && b ≤ p.high then
      let value := 64 * p.value + (b - 0x80)
      if p.owed ≤ 1 then (Char.ofNat value :: ·) <$> decodeFrom (pos + 1) none bs
      else decodeFrom (pos + 1) (some ⟨p.byte, p.read + 1, p.owed - 1, value, 0x80, 0xbf⟩) bs
    else .error ⟨p.byte, pos - p.read, pos - 1, .invalidContinuation⟩

/-- The text of the bytes. -/
def decode (bytes : List Nat) : Except Fault String :=
  String.ofList <$> decodeFrom 0 none bytes

end Treebank.Text.Utf8
