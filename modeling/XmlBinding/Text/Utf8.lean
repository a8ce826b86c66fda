import XmlBinding.Text.CharClass

/-!
This module contains the reading of UTF-8: the first faulty sequence is reported with its bytes and its
kind of fault.
-/

namespace XmlBinding.Text.Utf8

inductive Fault
  | startByte
  | continuationByte
  | endOfData
  deriving DecidableEq

/-- A fault in the bytes from `first` to `last`; `byte` is the first of them. -/
structure ReadError where
  fault : Fault
  byte : UInt8
  first : Nat
  last : Nat
  deriving DecidableEq

def Fault.message : Fault → String
  | .startByte => "invalid start byte"
  | .continuationByte => "invalid continuation byte"
  | .endOfData => "unexpected end of data"

def ReadError.message (e : ReadError) : String :=
  let place :=
    if e.first == e.last then
      "byte 0x" ++ String.ofList (hexDigits 2 e.byte.toNat) ++ s!" in position {e.first}: "
    else
      s!"bytes in position {e.first}-{e.last}: "
  "'utf-8' codec can't decode " ++ place ++ e.fault.message

/-- What a first byte asks for: how many more bytes, the bits it brings, and the range of the second byte,
which excludes overlong forms, surrogates and code points that are too large. -/
def lead? (b : Nat) : Option (Nat × Nat × Nat × Nat) :=
  if b < 0x80 then some (0, b, 0, 0)
  else if b < 0xC2 then none
  else if b < 0xE0 then some (1, b - 0xC0, 0x80, 0xBF)
  else if b == 0xE0 then some (2, 0, 0xA0, 0xBF)
  else if b == 0xED then some (2, 0xD, 0x80, 0x9F)
  else if b < 0xF0 then some (2, b - 0xE0, 0x80, 0xBF)
  else if b == 0xF0 then some (3, 0, 0x90, 0xBF)
  else if b < 0xF4 then some (3, b - 0xF0, 0x80, 0xBF)
  else if b == 0xF4 then some (3, 4, 0x80, 0x8F)
  else none

/-- Where a sequence stands: between characters, or inside the one that starts with `byte` at `first`,
with `more` bytes to come, the next of them from `low` to `high`. -/
inductive State
  | between
  | inside (byte : UInt8) (first more bits low high : Nat)

/-- Reads on at `position`. -/
def readFrom (position : Nat) : State → List UInt8 → Except ReadError (List Char)
  | .between, [] => .ok []
  | .inside byte first _ _ _ _, [] => .error ⟨.endOfData, byte, first, position - 1⟩
  | .between, b :: bs =>
    match lead? b.toNat with
    | none => .error ⟨.startByte, b, position, position⟩
    | some (0, bits, _, _) => (readFrom (position + 1) .between bs).map (Char.ofNat bits :: ·)
    | some (more, bits, low, high) => readFrom (position + 1) (.inside b position more bits low high) bs
  | .inside byte first more bits low high, b :: bs =>
    if low ≤ b.toNat && b.toNat ≤ high then
      let bits := bits * 64 + (b.toNat - 0x80)
      if more ≤ 1 then
        (readFrom (position + 1) .between bs).map (Char.ofNat bits :: ·)
      else
        readFrom (position + 1) (.inside byte first (more - 1) bits 0x80 0xBF) bs
    else
      .error ⟨.continuationByte, byte, first, position - 1⟩

def read (bytes : List UInt8) : Except ReadError (List Char) :=
  readFrom 0 .between bytes

end XmlBinding.Text.Utf8
