import XmlBinding.Name.Identifier
import XmlBinding.Schema.Builtin
import XmlBinding.Text.Blank

/-!
This module contains the type expressions of generated code, and those that stand for the builtin types.
-/

namespace XmlBinding

/-- A type by name, possibly dotted, with the imports that the name needs, or a list of a type. -/
inductive TypeExpr
  | named (name : String) (imports : List String)
  | list (item : TypeExpr)
  deriving DecidableEq, Inhabited

namespace TypeExpr

def source : TypeExpr → String
  | .named name _ => name
  | .list item => "list[" ++ item.source ++ "]"

def imports : TypeExpr → List String
  | .named _ imports => imports
  | .list item => item.imports

def rootName : TypeExpr → String
  | .named name _ => name
  | .list item => item.rootName

def isList : TypeExpr → Bool
  | .named _ _ => false
  | .list _ => true

/-- The type that an expression means inside the body of a class. -/
def inClass (className : String) : TypeExpr → TypeExpr
  | .named name imports =>
    .named (".".intercalate ((Text.pieces '.' name).map (Identifier.inClass className))) imports
  | .list item => .list (item.inClass className)

end TypeExpr

namespace Builtin

def typeExpr : Builtin → TypeExpr
  | anyType => .named "Any" ["from typing import Any"]
  | boolean => .named "bool" []
  | decimal => .named "Decimal" ["from decimal import Decimal"]
  | float | double => .named "float" []
  | integer | long | int | short | byte | nonNegativeInteger | positiveInteger | nonPositiveInteger
  | negativeInteger | unsignedLong | unsignedInt | unsignedShort | unsignedByte => .named "int" []
  | dateTime => .named "datetime.datetime" ["import datetime"]
  | date => .named "datetime.date" ["import datetime"]
  | time => .named "datetime.time" ["import datetime"]
  | base64Binary => .named "bytes" []
  | hexBinary => .named "HexBinary" ["from xsd_codegen.runtime import HexBinary"]
  | _ => .named "str" []

end Builtin

end XmlBinding
