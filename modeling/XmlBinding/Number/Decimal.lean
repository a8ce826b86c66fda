import XmlBinding.Number.Numeral

/-!
This module contains decimal numbers that keep their precision: `1.50` and `1.5` are equal as numbers but
are different decimals. There are two text forms, one with an exponent for very large and very small
numbers and one that is always positional.
-/

namespace XmlBinding.Number

open Text

inductive Decimal
  | finite (negative : Bool) (coefficient : Nat) (exponent : Int)
  | infinite (negative : Bool)
  /-- Not a number; a signalling one is told apart, and both can carry a payload. -/
  | nan (negative signalling : Bool) (payload : Nat)
  deriving DecidableEq

namespace Decimal

def dropWord? : (word : List Char) → List Char → Option (List Char)
  | [], cs => some cs
  | w :: word, c :: cs => if c.toLower == w then dropWord? word cs else none
  | _ :: _, [] => none

def special? (negative : Bool) (cs : List Char) : Option Decimal :=
  if dropWord? ['i', 'n', 'f'] cs == some [] then
    some (.infinite negative)
  else if dropWord? ['i', 'n', 'f', 'i', 'n', 'i', 't', 'y'] cs == some [] then
    some (.infinite negative)
  else
    match dropWord? ['n', 'a', 'n'] cs, dropWord? ['s', 'n', 'a', 'n'] cs with
    | some payload, _ =>
      if payload.all Char.isDigit then some (.nan negative false (ofDigits payload)) else none
    | none, some payload =>
      if payload.all Char.isDigit then some (.nan negative true (ofDigits payload)) else none
    | none, none => none

/-- Reads a decimal between blanks; underscores do not count, wherever they stand. -/
def read? (s : String) : Option Decimal :=
  let cs := (trim (plain s.toList)).filter (· != '_')
  match Numeral.read? cs with
  | some n => some (.finite n.negative n.coefficient n.exponent)
  | none => special? (sign cs).1 (sign cs).2

def zeros (n : Nat) : List Char :=
  List.replicate n '0'

/-- `ds` with a point before the last `places` digits, filled up with zeros on the left. -/
def pointed (ds : List Char) (places : Nat) : List Char :=
  let ds := zeros (places + 1 - ds.length) ++ ds
  if places == 0 then ds else ds.take (ds.length - places) ++ '.' :: ds.drop (ds.length - places)

/-- The digits of `coefficient * 10 ^ exponent` without an exponent. -/
def positional (coefficient : Nat) (exponent : Int) : List Char :=
  match exponent with
  | .ofNat n => if coefficient == 0 then ['0'] else digits coefficient ++ zeros n
  | .negSucc n => pointed (digits coefficient) (n + 1)

/-- Positional from seven places on with no trailing zeros to invent, else one digit, a point and an
exponent. -/
def scientific (coefficient : Nat) (exponent : Int) : List Char :=
  let ds := digits coefficient
  let adjusted := exponent + ds.length - 1
  if exponent ≤ 0 && -6 ≤ adjusted then
    pointed ds exponent.natAbs
  else
    let mantissa := if ds.length == 1 then ds else ds.take 1 ++ '.' :: ds.drop 1
    mantissa ++ 'E' :: (if adjusted < 0 then '-' else '+') :: digits adjusted.natAbs

def minus (negative : Bool) (cs : List Char) : String :=
  String.ofList (if negative then '-' :: cs else cs)

def specialText (negative : Bool) (word : String) (payload : Nat) : String :=
  minus negative (word.toList ++ if payload == 0 then [] else digits payload)

/-- The form that shows coefficient and exponent. -/
def shown : Decimal → String
  | .finite negative coefficient exponent => minus negative (scientific coefficient exponent)
  | .infinite negative => specialText negative "Infinity" 0
  | .nan negative signalling payload =>
    specialText negative (if signalling then "sNaN" else "NaN") payload

/-- The form without an exponent. -/
def write : Decimal → String
  | .finite negative coefficient exponent => minus negative (positional coefficient exponent)
  | .infinite negative => specialText negative "Infinity" 0
  | .nan negative signalling payload =>
    specialText negative (if signalling then "sNaN" else "NaN") payload

end Decimal

end XmlBinding.Number
