import XmlBinding.Text.CharClass

/-!
This module contains the hexadecimal text form of bytes.
-/

namespace XmlBinding.Binary.Hex

open Text

/-- A character that is no digit, or a digit missing, at this position. -/
structure ReadError where
  position : Nat
  deriving DecidableEq

def ReadError.message (e : ReadError) : String :=
  s!"non-hexadecimal number found in fromhex() arg at position {e.position}"

/-- White space of ASCII, which may stand between bytes. -/
def isGap (c : Char) : Bool :=
  c == ' ' || (0x09 ≤ c.toNat && c.toNat ≤ 0x0D)

def readFrom (position : Nat) : List Char → Except ReadError (List UInt8)
  | [] => .ok []
  | [c] => if isGap c then .ok [] else .error ⟨if (hexValue? c).isSome then position + 1 else position⟩
  | c :: d :: cs =>
    if isGap c then
      readFrom (position + 1) (d :: cs)
    else
      match hexValue? c, hexValue? d with
      | none, _ => .error ⟨position⟩
      | some _, none => .error ⟨position + 1⟩
      | some high, some low => (readFrom (position + 2) cs).map (UInt8.ofNat (16 * high + low) :: ·)

/-- The first character outside ASCII is reported before anything else. -/
def read (cs : List Char) : Except ReadError (List UInt8) :=
  match cs.findIdx? (!isAscii ·) with
  | some position => .error ⟨position⟩
  | none => readFrom 0 cs

def upperDigit (n : Nat) : Char :=
  if n < 10 then Char.ofNat (48 + n) else Char.ofNat (55 + n)

def write (bytes : List UInt8) : List Char :=
  bytes.flatMap fun b => [upperDigit (b.toNat / 16), upperDigit (b.toNat % 16)]

end XmlBinding.Binary.Hex
