import XmlBinding.Declaration.Basic
import XmlBinding.Report

/-!
This module contains the step that turns a structure with a list as its only field into that list. The list
class reads and writes its items by methods of its own.
-/

namespace XmlBinding.Declaration

/-- The only field of a structure and the type of its items, if it is a list. -/
def onlyList? (d : Declaration) : Option (Field × TypeExpr) :=
  match d.shape with
  | .struct ⟨[f], _⟩ =>
    match f.type with
    | .list item => some (f, item)
    | .named _ _ => none
  | _ => none

def listMethods (f : Field) (item : TypeExpr) : Except Fault (List Method) :=
  match ItemTag.read f.tag with
  | .error e => .error (.malformedTag e)
  | .ok tag => (Method.reading item tag).map fun reading => [.toXml, reading]

/-- Flattens a declaration, or leaves it as it is and says why. -/
def flatten (d : Declaration) : Report Declaration :=
  match d.onlyList? with
  | none => pure d
  | some (f, item) => do
    Report.note (.flattening d.name)
    match listMethods f item with
    | .error e => do
      Report.note (.notFlattened d.name e)
      pure d
    | .ok methods => pure { d with shape := .type (.list item), methods := d.methods ++ methods }

end XmlBinding.Declaration
