import XmlBinding.Config.Basic
import XmlBinding.Name.Identifier

/-!
This module contains the names of declarations, fields and constants under a configuration, and the types
by which generated code refers to the types of a schema.
-/

namespace XmlBinding

open Text

def NameRule.applyAll (rules : List NameRule) (name : String) : Report String :=
  rules.foldlM (fun name rule => rule.apply name) name

namespace Config

/-- The local part after the rules for all names and then those of a slot, with a lower-case first
character. -/
def privateName (cfg : Config) (slot? : Option RuleSlot) (name : QName) : Report String := do
  let general ← NameRule.applyAll cfg.allRules name.localPart
  let special ← NameRule.applyAll ((slot?.map cfg.rules).getD []) general
  if special.isEmpty then
    -- Only a name that the rules made empty is worth a notice.
    if !name.localPart.isEmpty then
      Report.note (.emptyName name.localPart)
    pure "_"
  else
    pure (String.ofList (lowerFirst special.toList))

def publicName (cfg : Config) (slot? : Option RuleSlot) (name : QName) : Report String := do
  let s ← cfg.privateName slot? name
  pure (String.ofList (upperFirst s.toList))

def typeName (cfg : Config) (name : QName) : Report String := do
  let s ← cfg.publicName (some .types) name
  pure (Identifier.escapeReserved Identifier.declarationReserved "_" s)

def memberName (cfg : Config) (slot : RuleSlot) (name : QName) (scope : Scope) : Report (String × Scope) := do
  let s ← cfg.privateName (some slot) name
  pure (scope.add "_" s)

/-- The type expression that refers to a type; where there is no type, it is the root of all types. -/
def typeExpr (cfg : Config) (s : Store) (r? : Option TypeRef) : Report TypeExpr :=
  match s.get (r?.getD (.builtin .anyType)) with
  | .builtin b => if cfg.unmapped.contains b then Report.fail (.unmappedBuiltin b) else pure b.typeExpr
  | e => do
    let name ← cfg.typeName e.name
    pure (.named name [])

def keptBy (filter : Filter) (s : Store) (subject : Nat → Subject) : (i : Nat) → List Member →
    Report (List Member)
  | _, [] => pure []
  | i, m :: ms => do
    let excluded ← filter.excludes m.entity s (subject i)
    let rest ← keptBy filter s subject (i + 1) ms
    pure (if excluded then rest else m :: rest)

def kept (filter? : Option Filter) (s : Store) (subject : Nat → Subject) (ms : List Member) :
    Report (List Member) :=
  match filter? with
  | none => pure ms
  | some filter => keptBy filter s subject 0 ms

def keptMembers (cfg : Config) (s : Store) (t : ComplexType) : Report Members := do
  let attributes ← kept cfg.attributeFilter? s (.attributeEntry t.members) (s.attributesOf t)
  let elements ← kept cfg.elementFilter? s (.elementEntry t.members) (s.elementsOf t)
  pure ⟨attributes, elements⟩

end Config

end XmlBinding
