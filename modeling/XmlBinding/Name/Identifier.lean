import XmlBinding.Text.Normalization

/-!
This module contains how names are made fit to be identifiers of the generated language: other characters
are replaced, reserved words get a suffix, and no name is given twice in one scope. Which name an identifier stands for
is another matter: identifiers with one normal form are the same name.
-/

namespace XmlBinding

open Text

namespace Identifier

def keywords : List String :=
  ["False", "None", "True", "and", "as", "assert", "async", "await", "break", "class", "continue", "def",
    "del", "elif", "else", "except", "finally", "for", "from", "global", "if", "import", "in", "is",
    "lambda", "nonlocal", "not", "or", "pass", "raise", "return", "try", "while", "with", "yield"]

/-- The names that the bodies of generated classes use. -/
def classNames : List String :=
  ["field", "dataclass", "ClassVar", "Any", "Decimal", "datetime", "str", "int", "float", "bool", "bytes",
    "list"]

/-- The names that every generated module defines for itself. -/
def moduleNames : List String :=
  ["annotations", "dataclass", "field", "ClassVar", "ElementTree", "decode_value", "encode_value",
    "local_name", "PACKAGE", "Any", "Decimal", "HexBinary", "datetime"]

def memberReserved : List String :=
  keywords ++ classNames

def declarationReserved : List String :=
  keywords ++ moduleNames

def escapeReserved (reserved : List String) (suffix name : String) : String :=
  if reserved.contains name then name ++ suffix else name

/-- Replaces the characters that no identifier has, and puts an underscore where a name would start with a
digit or be empty. -/
def clean (name : String) : String :=
  match name.toList.map fun c => if isWord c then c else '_' with
  | [] => "_"
  | c :: cs => String.ofList (if isDigit c then '_' :: c :: cs else c :: cs)

/-- Names that start with two underscores, and do not end with two, belong to the class that uses them. -/
def isOwn (name : List Char) : Bool :=
  let mark := ['_', '_']
  mark.isPrefixOf name && !mark.isSuffixOf name

/-- The name that an identifier stands for, in source without characters outside ASCII the identifier itself. -/
def normal (name : String) : String :=
  if name.toList.all isAscii then name else String.ofList (normalize name.toList)

/-- Puts the name of a class in front of a name that belongs to it. -/
def mangle (className name : String) : String :=
  match className.toList.dropWhile (· == '_') with
  | [] => name
  | cs => if isOwn name.toList then "_" ++ String.ofList cs ++ name else name

/-- The name that an identifier stands for inside the body of a class. -/
def inClass (className name : String) : String :=
  mangle (normal className) (normal name)

/-- The `n`-th name to try: the name itself, then numbered ones. -/
def candidate (base suffix : String) : (n : Nat) → String
  | 0 => base
  | n + 1 => base ++ suffix ++ s!"{n + 1}"

/-- The first candidate from the `n`-th on that is not used, among `fuel` of them. -/
def firstFree (used : List String) (base suffix : String) : (fuel n : Nat) → String
  | 0, n => candidate base suffix n
  | fuel + 1, n =>
    if used.contains (candidate base suffix n) then
      firstFree used base suffix fuel (n + 1)
    else
      candidate base suffix n

end Identifier

/-- The names that are given in one scope, latest first, and those that are reserved there. -/
structure Scope where
  reserved : List String
  used : List String
  deriving DecidableEq

namespace Scope

open Identifier

def members : Scope :=
  ⟨memberReserved, []⟩

/-- The identifier for `name`, and the scope with it. -/
def add (s : Scope) (suffix name : String) : String × Scope :=
  let base := escapeReserved s.reserved suffix (clean name)
  -- Of one candidate more than there are names in use, one is free.
  let given := firstFree s.used base suffix s.used.length 0
  (given, { s with used := given :: s.used })

end Scope

end XmlBinding
