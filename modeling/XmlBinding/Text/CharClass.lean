import XmlBinding.Text.Property.Digit
import XmlBinding.Text.Property.Identifier
import XmlBinding.Text.Property.Printable
import XmlBinding.Text.Property.Word

/-!
This module contains the classes of characters that names, literals and numbers are made of. ASCII is
decided directly; all other characters are looked up in a table of the code points at which membership
changes.
-/

namespace XmlBinding.Text

/-- How many entries of the sorted table are at most `n`, given that the answer is in `lo ... hi`. -/
def countUpTo (bounds : Array Nat) (n : Nat) : (fuel lo hi : Nat) → Nat
  | 0, lo, _ => lo
  | fuel + 1, lo, hi =>
    if lo < hi then
      let mid := (lo + hi) / 2
      if bounds.getD mid 0 ≤ n then
        countUpTo bounds n fuel (mid + 1) hi
      else
        countUpTo bounds n fuel lo mid
    else
      lo

/-- Membership changes at every entry, so an odd number of changes up to `n` means that `n` is in. -/
def inBounds (bounds : Array Nat) (n : Nat) : Bool :=
  countUpTo bounds n (bounds.size + 1) 0 bounds.size % 2 == 1

def isAscii (c : Char) : Bool :=
  c.toNat < 128

/-- A letter, a digit, another numeric character or an underscore. -/
def isWord (c : Char) : Bool :=
  if isAscii c then
    c.isAlphanum || c == '_'
  else
    inBounds Property.wordBounds c.toNat

def isPrintable (c : Char) : Bool :=
  if isAscii c then
    0x20 ≤ c.toNat && c.toNat < 0x7F
  else
    inBounds Property.printableBounds c.toNat

def isIdentifierStart (c : Char) : Bool :=
  if isAscii c then
    c.isAlpha || c == '_'
  else
    inBounds Property.identifierStartBounds c.toNat

def isIdentifierContinue (c : Char) : Bool :=
  if isAscii c then
    c.isAlphanum || c == '_'
  else
    inBounds Property.identifierContinueBounds c.toNat

def isIdentifier : List Char → Bool
  | [] => false
  | c :: cs => isIdentifierStart c && cs.all isIdentifierContinue

/-- A character with a digit value, superscripts and circled digits included. -/
def isDigit (c : Char) : Bool :=
  if isAscii c then
    c.isDigit
  else
    inBounds Property.digitBounds c.toNat

def decimalValue? (c : Char) : Option Nat :=
  if isAscii c then
    if c.isDigit then some (c.toNat - 48) else none
  else
    (Property.decimalZeros.toList.find? fun base => base ≤ c.toNat && c.toNat < base + 10).map
      fun base => c.toNat - base

def isDecimal (c : Char) : Bool :=
  (decimalValue? c).isSome

def hexValue? (c : Char) : Option Nat :=
  let n := c.toNat
  if 48 ≤ n && n ≤ 57 then some (n - 48)
  else if 97 ≤ n && n ≤ 102 then some (n - 87)
  else if 65 ≤ n && n ≤ 70 then some (n - 55)
  else none

def hexDigit (n : Nat) : Char :=
  if n < 10 then Char.ofNat (48 + n) else Char.ofNat (87 + n)

/-- The `width` lowest hexadecimal digits of `n`, highest first. -/
def hexDigits : (width n : Nat) → List Char
  | 0, _ => []
  | width + 1, n => hexDigits width (n / 16) ++ [hexDigit (n % 16)]

end XmlBinding.Text
