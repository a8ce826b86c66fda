import XmlBinding.Declaration.Method
import XmlBinding.Entries

/-!
This module contains the declarations that are generated for the types of a schema: structures with fields
and constants, and types that stand for another one, with or without methods.
-/

namespace XmlBinding

structure Field where
  name : String
  type : TypeExpr
  tag? : Option String
  /-- The source text of the value that a field has if none is given. -/
  default? : Option String
  deriving DecidableEq

structure Constant where
  name : String
  value : String
  tag? : Option String
  deriving DecidableEq

structure Struct where
  fields : List Field
  constants : List Constant
  deriving DecidableEq

inductive Shape
  | struct (s : Struct)
  | type (t : TypeExpr)
  deriving DecidableEq

structure Declaration where
  name : String
  shape : Shape
  methods : List Method
  doc? : Option String
  source? : Option TypeRef
  deriving DecidableEq

namespace Field

def tag (f : Field) : String :=
  f.tag?.getD ""

end Field

namespace Struct

/-- The names of the constants by their tags. Of two with one tag the last one counts. -/
def constantTags (s : Struct) : Except Fault (List (String × String)) := do
  let tagged ← s.constants.mapM fun c =>
    match c.tag? with
    | some tag => .ok (tag, c.name)
    | none => .error .untaggedConstant
  .ok (Entries.ofList tagged)

end Struct

namespace Shape

def imports : Shape → List String
  | .struct s => s.fields.flatMap (·.type.imports)
  | .type t => t.imports

def references : Shape → List String
  | .struct s => s.fields.map (·.type.rootName)
  | .type t => [t.rootName]

end Shape

end XmlBinding
