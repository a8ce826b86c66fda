import XmlBinding.Generate.Drafts
import XmlBinding.Render.Module

/-!
This module contains the generation of the code for a schema, with what is told about it.
-/

namespace XmlBinding.Generate

structure Code where
  text : String
  warnings : List String
  package : String
  typeCount : Nat
  declarations : List Declaration

namespace Code

def sequences (c : Code) : List String :=
  (c.declarations.filter fun d =>
    match d.shape with
    | .type t => t.isList
    | .struct _ => false).map (·.name)

def failure (e : Fault) : String :=
  "Code generation failed: " ++ e.message

end Code

def code (cfg : Config) (schema : Schema) : Schema × Report Code :=
  let (schema, report) := declarations cfg schema
  (schema, do
    let ds ← report
    let text ← Report.ofExcept (Render.moduleText cfg.package ds)
    pure ⟨text, ds.flatMap Declaration.warnings, cfg.package, schema.types.length, ds⟩)

end XmlBinding.Generate
