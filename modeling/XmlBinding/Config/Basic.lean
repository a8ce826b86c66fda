import XmlBinding.Declaration.Flatten
import XmlBinding.Filter
import XmlBinding.Pattern.Replacement
import XmlBinding.SoapArray

/-!
This module contains the configuration of a run: where notices go, what is left out, how names are made, and
the steps that types and declarations go through.
-/

namespace XmlBinding

inductive RuleSlot
  | all
  | types
  | elements
  | attributes
  deriving DecidableEq

def RuleSlot.optionName : RuleSlot → String
  | .all => "replace_all_names"
  | .types => "replace_type_names"
  | .elements => "replace_element_names"
  | .attributes => "replace_attribute_names"

structure NameRule where
  slot : RuleSlot
  pattern : String
  replacement : String
  regex : Except Pattern.Error Pattern.Regex

namespace NameRule

def of (slot : RuleSlot) (pattern replacement : String) : NameRule :=
  ⟨slot, pattern, replacement, Pattern.Regex.read pattern.toList⟩

def apply (rule : NameRule) (name : String) : Report String :=
  match rule.regex with
  -- A pattern that cannot be used leaves the name as it is.
  | .error e => do
    Report.note (.invalidRule rule.pattern rule.slot.optionName e)
    pure name
  | .ok regex =>
    match regex.replace rule.replacement.toList name.toList with
    | .error e => Report.fail (.pattern e)
    | .ok cs => pure (String.ofList cs)

end NameRule

/-- A step for types before they are declared. Steps for a purpose of their own see the schema by its
lookup of names. -/
inductive TypeStep
  | soapArrays
  | custom (run : (QName → Option TypeRef) → Option TypeRef → Edit (Option TypeRef))

inductive DeclarationStep
  | flatten
  | custom (run : Declaration → Report Declaration)

structure Config where
  hasSink : Bool
  level : Int
  package : String
  typeSteps : List TypeStep
  declarationSteps : List DeclarationStep
  attributeFilter? : Option Filter
  elementFilter? : Option Filter
  typeFilter? : Option Filter
  typeRules : List NameRule
  elementRules : List NameRule
  attributeRules : List NameRule
  allRules : List NameRule
  /-- The builtin types that have no counterpart in the generated language. -/
  unmapped : List Builtin

namespace Config

def empty : Config :=
  ⟨false, 0, "", [], [], none, none, none, [], [], [], [], []⟩

def rules (cfg : Config) : RuleSlot → List NameRule
  | .all => cfg.allRules
  | .types => cfg.typeRules
  | .elements => cfg.elementRules
  | .attributes => cfg.attributeRules

def delivered (cfg : Config) (notices : List Notice) : List Notice :=
  if cfg.hasSink then notices.filter (·.tier.isOn cfg.level) else []

end Config

end XmlBinding
