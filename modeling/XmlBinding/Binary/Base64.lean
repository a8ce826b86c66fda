import XmlBinding.Text.CharClass

/-!
This module contains the base64 text form of bytes. Writing pads to groups of four; reading passes over
characters outside the alphabet and stops where the padding completes a group.
-/

namespace XmlBinding.Binary.Base64

open Text

inductive ReadError
  | notAscii
  /-- The text ends after one character of a group; so many characters of data were read. -/
  | loneCharacter (count : Nat)
  | incompletePadding
  deriving DecidableEq

def ReadError.message : ReadError → String
  | .notAscii => "string argument should contain only ASCII characters"
  | .loneCharacter count =>
    s!"Invalid base64-encoded string: number of data characters ({count}) cannot be 1 more than a " ++
    "multiple of 4"
  | .incompletePadding => "Incorrect padding"

def value? (c : Char) : Option Nat :=
  let n := c.toNat
  if 65 ≤ n && n ≤ 90 then some (n - 65)
  else if 97 ≤ n && n ≤ 122 then some (n - 71)
  else if 48 ≤ n && n ≤ 57 then some (n + 4)
  else if c == '+' then some 62
  else if c == '/' then some 63
  else none

def letter (n : Nat) : Char :=
  if n < 26 then Char.ofNat (n + 65)
  else if n < 52 then Char.ofNat (n + 71)
  else if n < 62 then Char.ofNat (n - 4)
  else if n == 62 then '+'
  else '/'

/-- Reads on after `place` characters of a group that left the bits `carry` over, `pads` pads and `count`
bytes. -/
def readFrom (place carry pads count : Nat) : List Char → Except ReadError (List UInt8)
  | [] =>
    match place with
    | 0 => .ok []
    | 1 => .error (.loneCharacter (count / 3 * 4 + 1))
    | _ => .error .incompletePadding
  | c :: cs =>
    if c == '=' then
      if 2 ≤ place && 4 ≤ place + (pads + 1) then
        .ok []
      else
        readFrom place carry (if 2 ≤ place then pads + 1 else pads) count cs
    else
      match value? c with
      | none => readFrom place carry pads count cs
      | some v =>
        match place with
        | 0 => readFrom 1 v 0 count cs
        | 1 => (readFrom 2 (v % 16) 0 (count + 1) cs).map (UInt8.ofNat (4 * carry + v / 16) :: ·)
        | 2 => (readFrom 3 (v % 4) 0 (count + 1) cs).map (UInt8.ofNat (16 * carry + v / 4) :: ·)
        | _ => (readFrom 0 0 0 (count + 1) cs).map (UInt8.ofNat (64 * carry + v) :: ·)

def read (cs : List Char) : Except ReadError (List UInt8) :=
  if cs.all isAscii then readFrom 0 0 0 0 cs else .error .notAscii

def write : List UInt8 → List Char
  | [] => []
  | [a] =>
    let n := a.toNat * 16
    [letter (n / 64), letter (n % 64), '=', '=']
  | [a, b] =>
    let n := (a.toNat * 256 + b.toNat) * 4
    [letter (n / 4096), letter (n / 64 % 64), letter (n % 64), '=']
  | a :: b :: c :: rest =>
    let n := (a.toNat * 256 + b.toNat) * 256 + c.toNat
    letter (n / 262144) :: letter (n / 4096 % 64) :: letter (n / 64 % 64) :: letter (n % 64) :: write rest

end XmlBinding.Binary.Base64
