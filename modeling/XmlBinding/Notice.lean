import XmlBinding.Fault

/-!
This module contains the notices that are given on the way, their wording, and which of them a sink takes.
-/

namespace XmlBinding

inductive Tier
  | error
  | info
  | debug
  deriving DecidableEq

inductive Notice
  | invalidRule (pattern option : String) (e : Pattern.Error)
  | invalidFilter (pattern : String) (e : Pattern.Error)
  | emptyName (localPart : String)
  /-- The hierarchy of an array ends in a type that is not complex. -/
  | brokenHierarchy (array kind ancestor : String)
  | noWildcard (array : String)
  | overriding (array previous item : String)
  | unknownItem (name : QName)
  | excluded (type : String)
  | notGenerated (type : String) (fault : Fault)
  | nameTaken (first second name : String)
  | flattening (declaration : String)
  | notFlattened (declaration : String) (fault : Fault)
  | text (tier : Tier) (message : String)

namespace Notice

def tier : Notice → Tier
  | .invalidRule .. | .invalidFilter .. | .emptyName _ | .brokenHierarchy .. | .noWildcard _
  | .unknownItem _ => .info
  | .overriding .. | .excluded _ | .flattening _ => .debug
  | .notGenerated .. | .nameTaken .. | .notFlattened .. => .error
  | .text tier _ => tier

def message : Notice → String
  | .invalidRule pattern option e =>
    "Invalid regex " ++ Text.quoted pattern ++ " passed to " ++ option ++ ": " ++ e.message
  | .invalidFilter pattern e =>
    "invalid regex " ++ Text.quoted pattern ++ " passed to only_types: " ++ e.message
  | .emptyName localPart => "Name " ++ localPart ++ " transformed to the empty string"
  | .brokenHierarchy array kind ancestor =>
    "warning: soap-encoded array " ++ array ++ " extends " ++ kind ++ " " ++ ancestor
  | .noWildcard array =>
    "could not override wildcard type for " ++ array ++ "; not found in type hierarchy"
  | .overriding array previous item =>
    "overriding wildcard element of " ++ array ++ " type from " ++ previous ++ " to " ++ item
  | .unknownItem name =>
    "could not lookup item type " ++ Text.quoted name.localPart ++ " in namespace " ++ Text.quoted name.space
  | .excluded type => "type " ++ type ++ " excluded by type filter"
  | .notGenerated type fault => "could not generate type " ++ type ++ ": " ++ fault.message
  | .nameTaken first second name =>
    "types " ++ first ++ " and " ++ second ++ " both map to name " ++ name ++ "; skipping " ++ second
  | .flattening declaration => "flattening single-element struct " ++ declaration ++ " to a sequence"
  | .notFlattened declaration fault =>
    "could not flatten " ++ declaration ++ " to a sequence: " ++ fault.message
  | .text _ message => message

end Notice

/-- Whether notices of a tier are given at a level: errors always, information from level one on, details
from level four on. -/
def Tier.isOn (level : Int) : Tier → Bool
  | .error => true
  | .info => 0 < level
  | .debug => 3 < level

end XmlBinding
