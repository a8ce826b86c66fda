import XmlBinding.Generate.Declare

/-!
This module contains the drafts of all declarations of a schema. A type passes the filter and the steps for
types, is declared, and its declaration passes the steps for declarations. A type that fails is reported and
left out; the others go on.
-/

namespace XmlBinding.Generate

def runTypeStep (find? : QName → Option TypeRef) (r? : Option TypeRef) : TypeStep → Edit (Option TypeRef)
  | .soapArrays =>
    match r? with
    | none => pure none
    | some r => do
      SoapArray.resolveItems find? r
      pure (some r)
  | .custom run => run find? r?

def preprocess (find? : QName → Option TypeRef) : List TypeStep → Option TypeRef → Edit (Option TypeRef)
  | [], r? => pure r?
  | step :: steps, r? => do
    let r? ← runTypeStep find? r? step
    preprocess find? steps r?

def runDeclarationStep (d : Declaration) : DeclarationStep → Report Declaration
  | .flatten => d.flatten
  | .custom run => run d

def postprocess : List DeclarationStep → Declaration → Report Declaration
  | [], d => pure d
  | step :: steps, d => do
    let d ← runDeclarationStep d step
    postprocess steps d

/-- The way of one type; `none` where it is not declared. -/
def process (cfg : Config) (find? : QName → Option TypeRef) (r : TypeRef) : Edit (Option Declaration) := do
  let r? ← preprocess find? cfg.typeSteps (some r)
  match ← Edit.ofReport fun s => declaration? cfg s r? with
  | none => pure none
  | some d => do
    let d ← Edit.ofReport fun _ => postprocess cfg.declarationSteps d
    pure (some d)

def isExcluded (cfg : Config) (s : Store) (r : TypeRef) : Report Bool :=
  match cfg.typeFilter? with
  | none => pure false
  | some filter => filter.excludes (s.get r) s (.type r)

/-- The declaration of one type of a schema, with notice of why there is none. -/
def draft (cfg : Config) (find? : QName → Option TypeRef) (r : TypeRef) : Edit (Option Declaration) := do
  let name := (← Edit.store).nameOf r
  if ← Edit.ofReport fun s => isExcluded cfg s r then
    Edit.note (.excluded name.localPart)
    pure none
  else
    (process cfg find? r).recover fun fault => do
      Report.note (.notGenerated name.localPart fault)
      pure none

/-- The declarations of types; `seen` has the names so far, with the types that have them. -/
def drafts (cfg : Config) (find? : QName → Option TypeRef) : (seen : List (String × String)) →
    List TypeRef → Edit (List Declaration)
  | _, [] => pure []
  | seen, r :: rs => do
    let localPart := ((← Edit.store).nameOf r).localPart
    match ← draft cfg find? r with
    | none => drafts cfg find? seen rs
    | some d =>
      match seen.lookup d.name with
      -- Of two declarations with one name the first one stays.
      | some first => do
        Edit.note (.nameTaken first localPart d.name)
        drafts cfg find? seen rs
      | none => do
        let rest ← drafts cfg find? ((d.name, localPart) :: seen) rs
        pure (d :: rest)

/-- The declarations of a schema, and the schema after the steps. -/
def declarations (cfg : Config) (schema : Schema) : Schema × Report (List Declaration) :=
  let (store, report) := drafts cfg schema.findType? [] (schema.types.map (·.2)) schema.store
  ({ schema with store := store }, report)

end XmlBinding.Generate
