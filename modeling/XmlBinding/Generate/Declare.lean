import XmlBinding.Config.Names

/-!
This module contains how the types of a schema become declarations.
-/

namespace XmlBinding.Generate

open Text

def attributeParts (cfg : Config) (s : Store) : Scope → List Member → Report (Struct × Scope)
  | scope, [] => pure (⟨[], []⟩, scope)
  | scope, m :: ms => do
    let (name, scope) ← cfg.memberName .attributes m.name scope
    match m with
    | .element _ => Report.fail (.noProperty "Element" "fixed")
    | .attribute a =>
      let tag := Tag.ofName a.name ++ ",attr"
      if a.fixed.isEmpty then
        let type ← cfg.typeExpr s a.type?
        let isText := type.source == "str"
        let default? := if isText && !a.defaultText.isEmpty then some (quoted a.defaultText) else none
        let (rest, scope) ← attributeParts cfg s scope ms
        pure ({ rest with fields := ⟨name, type, some tag, default?⟩ :: rest.fields }, scope)
      else
        let (rest, scope) ← attributeParts cfg s scope ms
        pure ({ rest with constants := ⟨name, a.fixed, some tag⟩ :: rest.constants }, scope)

/-- The name from which the name of a field for an element is made. -/
def fieldSource (e : Element) : QName :=
  if e.isWildcard && e.name.localPart.isEmpty then
    ⟨e.name.space, if e.isPlural then "items" else "any"⟩
  else
    e.name

def elementFields (cfg : Config) (s : Store) : Scope → List Member → Report (List Field)
  | _, [] => pure []
  | _, .attribute _ :: _ => Report.fail (.noProperty "Attribute" "wildcard")
  | scope, .element e :: ms => do
    let type ← cfg.typeExpr s e.type?
    let type := if e.isPlural then .list type else type
    let tag := if e.isWildcard then wildcardTag else Tag.ofName e.name
    let (name, scope) ← cfg.memberName .elements (fieldSource e) scope
    let rest ← elementFields cfg s scope ms
    pure (⟨name, type, some tag, none⟩ :: rest)

def struct (cfg : Config) (s : Store) (t : ComplexType) : Report Struct := do
  let members ← cfg.keptMembers s t
  let (parts, scope) ← attributeParts cfg s .members members.attributes
  let fields ← elementFields cfg s scope members.elements
  pure ⟨parts.fields ++ fields, parts.constants⟩

def simple (cfg : Config) (s : Store) (t : SimpleType) : Report TypeExpr :=
  match t.listOf? with
  | some item => do
    let item ← cfg.typeExpr s item
    pure (.list item)
  | none => cfg.typeExpr s t.base?

/-- The documentation of a declaration: a description, and the values that an enumeration allows. -/
def doc? (description? : Option String) (enumeration : List String) : Option String :=
  let described := match description? with
    | some d => if d.isEmpty then [] else [strip d]
    | none => []
  let allowed := if enumeration.isEmpty then [] else ["Allowed values: " ++ ", ".intercalate enumeration]
  let text := "\n\n".intercalate (described ++ allowed)
  if text.isEmpty then none else some text

/-- The declaration of a type. Builtin types are not declared. -/
def declaration? (cfg : Config) (s : Store) (r? : Option TypeRef) : Report (Option Declaration) :=
  match r? with
  | none => Report.fail (.undeclarable s none)
  | some r =>
    match s.get r with
    | .builtin _ => pure none
    | .complex t => do
      let shape ← struct cfg s t
      let name ← cfg.typeName t.name
      pure (some ⟨name, .struct shape, [], doc? t.description? [], some r⟩)
    | .simple t => do
      let type ← simple cfg s t
      let name ← cfg.typeName t.name
      pure (some ⟨name, .type type, [], doc? t.description? t.enumeration, some r⟩)
    | _ => Report.fail (.undeclarable s (some (.type r)))

end XmlBinding.Generate
