import XmlBinding.Json.Basic

/-!
This module contains messages with places for arguments: `%s` takes an argument as running text, `%r` takes
its quoted form, and `%%` is a percent sign.
-/

namespace XmlBinding.Message

inductive FillError
  | tooFewArguments
  | tooManyArguments
  | incomplete
  | notANumber (type : String)
  | unsupported (c : Char) (position : Nat)
  deriving DecidableEq

def FillError.message : FillError → String
  | .tooFewArguments => "not enough arguments for format string"
  | .tooManyArguments => "not all arguments converted during string formatting"
  | .incomplete => "incomplete format"
  | .notANumber type => "%d format: a real number is required, not " ++ type
  | .unsupported c position =>
    "unsupported format character '" ++ String.ofList [c] ++ "' (0x" ++
      String.ofList (Nat.toDigits 16 c.toNat) ++ s!") at index {position}"

def typeName : Json → String
  | .null => "NoneType"
  | .bool _ => "bool"
  | .int _ => "int"
  | .float _ => "float"
  | .str _ => "str"
  | .arr _ => "list"
  | .obj _ => "dict"

def whole : Json → Except FillError String
  | .bool b => .ok (if b then "1" else "0")
  | .int n => .ok (Number.Integer.write n)
  | v => .error (.notANumber (typeName v))

/-- An argument in the way that the letter `c` asks for. -/
def convert (c : Char) (position : Nat) (v : Json) : Except FillError String :=
  if c == 's' then .ok v.plain
  else if c == 'r' then .ok v.shown
  else if c == 'd' || c == 'i' then whole v
  else .error (.unsupported c position)

def fillFrom : (position : Nat) → List Char → List Json → Except FillError (List Char)
  | _, [], args => if args.isEmpty then .ok [] else .error .tooManyArguments
  | _, ['%'], _ => .error .incomplete
  | position, '%' :: '%' :: cs, args => (fillFrom (position + 2) cs args).map ('%' :: ·)
  | position, '%' :: c :: cs, args =>
    match args with
    | [] => .error .tooFewArguments
    | v :: args => do
      let text ← convert c (position + 1) v
      let rest ← fillFrom (position + 2) cs args
      .ok (text.toList ++ rest)
  | position, c :: cs, args => (fillFrom (position + 1) cs args).map (c :: ·)

/-- Fills a message; without arguments it is taken as it is. -/
def fill (message : String) (args : List Json) : Except FillError String :=
  if args.isEmpty then
    .ok message
  else
    (fillFrom 0 message.toList args).map String.ofList

end XmlBinding.Message
