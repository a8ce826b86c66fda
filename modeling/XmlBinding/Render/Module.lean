import XmlBinding.Declaration.Order
import XmlBinding.Render.Page

/-!
This module contains the source of a module with declarations.
-/

namespace XmlBinding.Render

open Text

def header : String :=
  "Code generated by xsd_codegen. DO NOT EDIT."

/-- A field for its page. Lists start empty, and everything else starts with its default or with nothing. -/
def pageField (f : Field) : PageField :=
  if f.type.isList then
    ⟨f.name, f.type.source, "default_factory=list", f.tag⟩
  else
    let default := match f.default? with
      | some d => if d.isEmpty then "None" else d
      | none => "None"
    ⟨f.name, f.type.source ++ " | None", "default=" ++ default, f.tag⟩

/-- A documentation that is not empty. -/
def shownDoc? (doc? : Option String) : Option String :=
  doc?.filter (!·.isEmpty)

def page (d : Declaration) : Except Fault Page :=
  let methods := d.methods.map (·.source)
  match d.shape with
  | .struct s => do
    let tags ← s.constantTags
    .ok (.ofStruct ⟨d.name, shownDoc? d.doc?, s.constants.map fun c => (c.name, c.value), tags,
      s.fields.map pageField, methods⟩)
  | .type t =>
    if methods.isEmpty then
      .ok (.ofAlias ⟨d.name, t.source, shownDoc? d.doc?⟩)
    else
      .ok (.ofClass ⟨d.name, t.source, shownDoc? d.doc?, methods⟩)

def importLe (a b : String) : Bool :=
  let fromA := "from".toList.isPrefixOf a.toList
  let fromB := "from".toList.isPrefixOf b.toList
  if fromA == fromB then decide (a ≤ b) else fromB

def sortedImports (imports : List String) : List String :=
  imports.eraseDups.mergeSort importLe

def declarationTexts : List Declaration → Except Fault (List String)
  | [] => .ok []
  | d :: ds => do
    let p ← page d
    let rest ← declarationTexts ds
    .ok (strip p.write :: rest)

def moduleText (package : String) (ds : List Declaration) : Except Fault String := do
  let ordered := Declaration.inOrder ds
  let texts ← declarationTexts ordered
  let imports := sortedImports (ordered.flatMap (·.shape.imports))
  .ok (formatCode (ModulePage.write ⟨header, imports, package, texts⟩))

end XmlBinding.Render
