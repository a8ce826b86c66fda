import XmlBinding.Text.Blank
import XmlBinding.Text.CharClass

/-!
This module contains what the readers of numbers share: digits of any script, underscores between digits,
and decimal numerals with an optional fraction and exponent.
-/

namespace XmlBinding.Number

open Text

/-- Decimal digits of any script become ASCII digits and blanks become spaces. -/
def plain (cs : List Char) : List Char :=
  cs.map fun c =>
    match decimalValue? c with
    | some d => Char.ofNat (48 + d)
    | none => if isBlank c then ' ' else c

/-- Drops single underscores between ASCII digits; any other underscore spoils the text. -/
def dropUnderscores? : List Char → Option (List Char) :=
  go none
where
  go : Option Char → List Char → Option (List Char)
    | before, [] => if before == some '_' then none else some []
    | before, c :: cs =>
      if c == '_' then
        if before.any Char.isDigit then go (some c) cs else none
      else if before == some '_' && !c.isDigit then
        none
      else
        (go (some c) cs).map (c :: ·)

def ofDigits (ds : List Char) : Nat :=
  ds.foldl (fun n d => 10 * n + (d.toNat - 48)) 0

def digits (n : Nat) : List Char :=
  Nat.toDigits 10 n

def sign : List Char → Bool × List Char
  | '-' :: cs => (true, cs)
  | '+' :: cs => (false, cs)
  | cs => (false, cs)

/-- A signed integer without blanks or underscores. -/
def signedDigits? (cs : List Char) : Option Int :=
  let (negative, ds) := sign cs
  if !ds.isEmpty && ds.all Char.isDigit then
    some (if negative then -(ofDigits ds : Int) else ofDigits ds)
  else
    none

structure Numeral where
  negative : Bool
  coefficient : Nat
  exponent : Int
  deriving DecidableEq

/-- What follows the digits of a numeral: nothing, or an exponent. -/
def exponent? : List Char → Option Int
  | [] => some 0
  | c :: cs => if c == 'e' || c == 'E' then signedDigits? cs else none

def fraction : List Char → List Char × List Char
  | '.' :: cs => cs.span Char.isDigit
  | cs => ([], cs)

/-- Reads `[sign] digits [. digits] [e [sign] digits]` with a digit on one side of the point at least. -/
def Numeral.read? (cs : List Char) : Option Numeral :=
  let (negative, cs) := sign cs
  let (whole, cs) := cs.span Char.isDigit
  let (part, cs) := fraction cs
  if whole.isEmpty && part.isEmpty then
    none
  else
    (exponent? cs).map fun e => ⟨negative, ofDigits (whole ++ part), e - part.length⟩

end XmlBinding.Number
