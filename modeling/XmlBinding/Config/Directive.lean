import XmlBinding.Config.Basic

/-!
This module contains the only way in which a configuration changes: directives. Applying some gives back
the former values of what they changed, and putting these back is a directive too.
-/

namespace XmlBinding

inductive Slot
  | sink
  | level
  | package
  | typeSteps
  | declarationSteps
  | attributeFilter
  | elementFilter
  | typeFilter
  | rules (slot : RuleSlot)
  deriving DecidableEq

namespace Slot

def table : List (Slot × String) :=
  [(.sink, "logger"), (.level, "log_level"), (.package, "package"), (.typeSteps, "preprocess_type"),
    (.declarationSteps, "postprocess_spec"), (.attributeFilter, "filter_attributes"),
    (.elementFilter, "filter_elements"), (.typeFilter, "filter_types"),
    (.rules .types, "type_name_transform"), (.rules .elements, "element_name_transform"),
    (.rules .attributes, "attribute_name_transform"), (.rules .all, "all_name_transform")]

def name (slot : Slot) : String :=
  (table.lookup slot).getD ""

def ofName? (name : String) : Option Slot :=
  (table.find? (·.2 == name)).map (·.1)

def unknown (name : String) : String :=
  "Config has no field " ++ Text.quoted name

end Slot

inductive Setting
  | sink (installed : Bool)
  | level (level : Int)
  | package (package : String)
  | typeSteps (steps : List TypeStep)
  | declarationSteps (steps : List DeclarationStep)
  | attributeFilter (filter? : Option Filter)
  | elementFilter (filter? : Option Filter)
  | typeFilter (filter? : Option Filter)
  | rules (slot : RuleSlot) (rules : List NameRule)

def Setting.slot : Setting → Slot
  | .sink _ => .sink
  | .level _ => .level
  | .package _ => .package
  | .typeSteps _ => .typeSteps
  | .declarationSteps _ => .declarationSteps
  | .attributeFilter _ => .attributeFilter
  | .elementFilter _ => .elementFilter
  | .typeFilter _ => .typeFilter
  | .rules slot _ => .rules slot

structure Snapshot where
  settings : List Setting

namespace Setting

def isSet : Setting → Bool
  | .sink installed => installed
  | .level _ | .package _ => true
  | .typeSteps steps => !steps.isEmpty
  | .declarationSteps steps => !steps.isEmpty
  | .attributeFilter filter? | .elementFilter filter? | .typeFilter filter? => filter?.isSome
  | .rules _ rs => !rs.isEmpty

/-- Nothing, where that is a value for the slot. -/
def nothing? : Slot → Option Setting
  | .sink => some (.sink false)
  | .level | .package => none
  | .typeSteps => some (.typeSteps [])
  | .declarationSteps => some (.declarationSteps [])
  | .attributeFilter => some (.attributeFilter none)
  | .elementFilter => some (.elementFilter none)
  | .typeFilter => some (.typeFilter none)
  | .rules slot => some (.rules slot [])

end Setting

def Snapshot.slots (s : Snapshot) : List Slot :=
  s.settings.map (·.slot)

namespace Config

def setting (cfg : Config) : Slot → Setting
  | .sink => .sink cfg.hasSink
  | .level => .level cfg.level
  | .package => .package cfg.package
  | .typeSteps => .typeSteps cfg.typeSteps
  | .declarationSteps => .declarationSteps cfg.declarationSteps
  | .attributeFilter => .attributeFilter cfg.attributeFilter?
  | .elementFilter => .elementFilter cfg.elementFilter?
  | .typeFilter => .typeFilter cfg.typeFilter?
  | .rules slot => .rules slot (cfg.rules slot)

def set (cfg : Config) : Setting → Config
  | .sink installed => { cfg with hasSink := installed }
  | .level level => { cfg with level := level }
  | .package package => { cfg with package := package }
  | .typeSteps steps => { cfg with typeSteps := steps }
  | .declarationSteps steps => { cfg with declarationSteps := steps }
  | .attributeFilter filter? => { cfg with attributeFilter? := filter? }
  | .elementFilter filter? => { cfg with elementFilter? := filter? }
  | .typeFilter filter? => { cfg with typeFilter? := filter? }
  | .rules .all rules => { cfg with allRules := rules }
  | .rules .types rules => { cfg with typeRules := rules }
  | .rules .elements rules => { cfg with elementRules := rules }
  | .rules .attributes rules => { cfg with attributeRules := rules }

def replace (cfg : Config) (changes : List Setting) : Config × Snapshot :=
  (changes.foldl set cfg, ⟨changes.map fun s => cfg.setting s.slot⟩)

def restore (cfg : Config) (s : Snapshot) : Config × Snapshot :=
  cfg.replace s.settings

end Config

inductive Directive
  | errorLog (installed : Bool) (level : Int)
  | packageName (name : String)
  | ignoreAttributes (names : List String)
  | ignoreElements (names : List String)
  | onlyTypes (patterns : List String)
  | nameRule (rule : NameRule)
  | typeStep (step : TypeStep)
  | declarationStep (step : DeclarationStep)
  | restore (s : Snapshot)

namespace Directive

/-- The changes that a directive makes. Rules and steps come after those that are there. -/
def changes (cfg : Config) : Directive → List Setting
  | .errorLog installed level => [.sink installed, .level level]
  | .packageName name => [.package name]
  | .ignoreAttributes names => [.attributeFilter (some (.ofNames .attributes names))]
  | .ignoreElements names => [.elementFilter (some (.ofNames .elements names))]
  | .onlyTypes patterns => [.typeFilter (some (.ofPatterns patterns))]
  | .nameRule rule => [.rules rule.slot (cfg.rules rule.slot ++ [rule])]
  | .typeStep step => [.typeSteps (cfg.typeSteps ++ [step])]
  | .declarationStep step => [.declarationSteps (cfg.declarationSteps ++ [step])]
  | .restore s => s.settings

def apply (cfg : Config) (d : Directive) : Config × Snapshot :=
  cfg.replace (d.changes cfg)

def isRule : Directive → Bool
  | .nameRule _ => true
  | _ => false

/-- The error of a pattern that is refused for another reason than its form. Such a directive cannot be
made at all. -/
def refusal? (d : Directive) : Option Pattern.Error :=
  let regex? := match d with
    | .nameRule rule => some rule.regex
    | .onlyTypes patterns => some (Pattern.Regex.read ("|".intercalate patterns).toList)
    | _ => none
  match regex? with
  | some (.error (.malformed _ _)) => none
  | some (.error e) => some e
  | _ => none

def defaults : List Directive :=
  [.ignoreAttributes ["id", "href", "ref", "offset"],
    .nameRule (.of .all "[._ \\s-]" ""),
    .packageName "ws",
    .typeStep .soapArrays,
    .declarationStep .flatten]

end Directive

namespace Snapshot

/-- Adds former values; of two for one slot the earlier one counts. -/
def merge (s later : Snapshot) : Snapshot :=
  ⟨s.settings ++ later.settings.filter fun setting => !s.slots.contains setting.slot⟩

end Snapshot

namespace Config

/-- Applies directives in order. The snapshot has the values from before the first of them. -/
def option (cfg : Config) (ds : List Directive) : Config × Snapshot :=
  ds.foldl
    (fun (cfg, earliest) d =>
      let (cfg, previous) := d.apply cfg
      (cfg, earliest.merge previous))
    (cfg, ⟨[]⟩)

end Config

end XmlBinding
