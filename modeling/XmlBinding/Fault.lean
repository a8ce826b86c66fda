import XmlBinding.Name.Tag
import XmlBinding.Pattern.Error
import XmlBinding.Schema.Shown

/-!
This module contains the faults that stop the generation of code, or of one declaration, and their wording.
-/

namespace XmlBinding

inductive Fault
  /-- An entity was given to a filter for other kinds. -/
  | wrongKind (store : Store) (subject : Subject) (wanted : String)
  | noVerdict
  /-- Something that is no type was to be declared; `none` where a step left no type. -/
  | undeclarable (store : Store) (subject? : Option Subject)
  | unmappedBuiltin (b : Builtin)
  | pattern (e : Pattern.Error)
  | noProperty (owner property : String)
  | malformedTag (e : MalformedTag)
  /-- A name that is a constant of the generated language. -/
  | constantName (name : String)
  | untaggedConstant
  | rejected (reason : String)
  | crashed (reason : String)
  /-- The bases of a type run in a circle that is never left. -/
  | endlessHierarchy

namespace Fault

def message : Fault → String
  | .wrongKind store subject wanted =>
    (store.subject subject).kindName ++ " " ++ store.shown subject ++ " passed to a " ++ wanted ++ " filter"
  | .noVerdict => ""
  | .undeclarable store (some subject) =>
    "Cannot translate " ++ (store.subject subject).kindName ++ ": " ++ store.shown subject
  | .undeclarable _ none => "Cannot translate NoneType: None"
  | .unmappedBuiltin b => "Unknown built-in type " ++ Text.quoted b.localPart
  | .pattern e => e.message
  | .noProperty owner property => "'" ++ owner ++ "' object has no attribute '" ++ property ++ "'"
  | .malformedTag e => e.message
  | .constantName name => "identifier field can't represent '" ++ name ++ "' constant"
  | .untaggedConstant => "'xml'"
  | .rejected reason => reason
  | .crashed reason => reason
  | .endlessHierarchy => ""

/-- Whether only the declaration at hand is given up. -/
def isRecoverable : Fault → Bool
  | .undeclarable _ _ | .unmappedBuiltin _ | .malformedTag _ | .constantName _ | .rejected _ => true
  | .pattern .flagConflict | .pattern (.numberTooLong _) => true
  | _ => false

end Fault

end XmlBinding
