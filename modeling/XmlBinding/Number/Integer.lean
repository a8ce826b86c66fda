import XmlBinding.Number.Numeral
import XmlBinding.Text.Quoted

/-!
This module contains the text form of integers.
-/

namespace XmlBinding.Number.Integer

open Text

/-- Why a text is not an integer. -/
inductive ReadError
  | malformed (text : String)
  | tooManyDigits (count : Nat)
  deriving DecidableEq

/-- Numbers with more digits are refused. -/
def digitLimit : Nat := 4300

def ReadError.message : ReadError → String
  | .malformed text => "invalid literal for int() with base 10: " ++ quoted text
  | .tooManyDigits count =>
    s!"Exceeds the limit ({digitLimit} digits) for integer string conversion: value has " ++
    s!"{count} digits; use sys.set_int_max_str_digits() to increase the limit"

def read (s : String) : Except ReadError Int :=
  match dropUnderscores? (trim (plain s.toList)) with
  | none => .error (.malformed s)
  | some cs =>
    match signedDigits? cs with
    | none => .error (.malformed s)
    | some n =>
      let count := (sign cs).2.length
      if count ≤ digitLimit then .ok n else .error (.tooManyDigits count)

/-- Integers with more digits have no text in messages. -/
def isWritable (n : Int) : Bool :=
  (digits n.natAbs).length ≤ digitLimit

def tooLongToWrite : String :=
  s!"Exceeds the limit ({digitLimit} digits) for integer string conversion; " ++
    "use sys.set_int_max_str_digits() to increase the limit"

def write (n : Int) : String :=
  String.ofList (if n < 0 then '-' :: digits n.natAbs else digits n.natAbs)

end XmlBinding.Number.Integer
