import XmlBinding.Config.Directive
import XmlBinding.Json.Basic
import XmlBinding.Text.Utf8

/-!
This module contains the directives that a mapping of option names to values stands for, and why there may be none.
-/

namespace XmlBinding

inductive ConfigError
  | unknownOption (name : String)
  | notText (name : String) (value : Json)
  | notTexts (name : String) (value : Json)
  | notRules (name : String) (value : Json)
  | notFlag (name : String) (value : Json)
  | fileMissing (file : String)
  | fileSuffix (file : String)
  | fileMalformed (file reason : String)
  | fileUnreadable (file reason : String)
  | fileNoMapping (file : String)

def ConfigError.message : ConfigError → String
  | .unknownOption name => "Unknown configuration option: " ++ name
  | .notText name value => name ++ " must be a string, got " ++ value.shown
  | .notTexts name value => name ++ " must be a list of strings, got " ++ value.shown
  | .notRules name value => name ++ " must be a list of [pattern, replacement] pairs, got " ++ value.shown
  | .notFlag name value => name ++ " must be true or false, got " ++ value.shown
  | .fileMissing file => "Configuration file not found: " ++ file
  | .fileSuffix file => "Configuration file must be JSON: " ++ file
  | .fileMalformed file reason => "Invalid JSON in configuration file " ++ file ++ ": " ++ reason
  | .fileUnreadable file reason => "Failed to load configuration file " ++ file ++ ": " ++ reason
  | .fileNoMapping file => "Configuration file must contain a JSON object: " ++ file

/-- Why no configuration is loaded: an error of the configuration, or one of the means by which it is read. -/
inductive LoadError
  | config (e : ConfigError)
  | system (reason : String)
  | encoding (e : Text.Utf8.ReadError)
  | number (e : Number.Integer.ReadError)
  | pattern (e : Pattern.Error)
  /-- A refused value is too long for the message. -/
  | unshowable

def LoadError.message : LoadError → String
  | .config e => e.message
  | .system reason => reason
  | .encoding e => e.message
  | .number e => e.message
  | .pattern e => e.message
  | .unshowable => Number.Integer.tooLongToWrite

namespace Directive

/-- Directives once they are made. The patterns of rules for names are read then, and may be refused. -/
def made (ds : List Directive) : Except LoadError (List Directive) :=
  match ds.findSome? fun d => if d.isRule then d.refusal? else none with
  | some e => .error (.pattern e)
  | none => .ok ds

/-- Directives that can be applied. The patterns of filters for types are read only then. -/
def checked (ds : List Directive) : Except LoadError (List Directive) :=
  match ds.findSome? refusal? with
  | some e => .error (.pattern e)
  | none => .ok ds

end Directive

namespace Mapping

inductive OptionKind
  | text (directive : String → Directive)
  | texts (directive : List String → Directive)
  | rules (slot : RuleSlot)
  | flag (directive : Directive)

def options : List (String × OptionKind) :=
  [("package_name", .text .packageName),
    ("ignore_attributes", .texts .ignoreAttributes),
    ("ignore_elements", .texts .ignoreElements),
    ("only_types", .texts .onlyTypes),
    ("replace_all_names", .rules .all),
    ("replace_type_names", .rules .types),
    ("replace_element_names", .rules .elements),
    ("replace_attribute_names", .rules .attributes),
    ("handle_soap_array_type", .flag (.typeStep .soapArrays)),
    ("soap_array_as_sequence", .flag (.declarationStep .flatten))]

def rule? (v : Json) : Option (String × String) :=
  match v with
  | .arr [.str pattern, .str replacement] => some (pattern, replacement)
  | _ => none

/-- The pairs of an array that holds nothing else. -/
def rules? (v : Json) : Option (List (String × String)) :=
  match v with
  | .arr items => items.mapM rule?
  | _ => none

/-- The error for a value of the wrong shape, which the message shows. -/
def misshapen (reason : String → Json → ConfigError) (name : String) (value : Json) : LoadError :=
  if value.isShowable then .config (reason name value) else .unshowable

def entry (name : String) (value : Json) : Except LoadError (List Directive) :=
  match options.lookup name with
  | none => .error (.config (.unknownOption name))
  | some (.text directive) =>
    match value.str? with
    | some s => Directive.made [directive s]
    | none => .error (misshapen .notText name value)
  | some (.texts directive) =>
    match value.strs? with
    | some ss => Directive.made [directive ss]
    | none => .error (misshapen .notTexts name value)
  | some (.rules slot) =>
    match rules? value with
    | some rules => Directive.made (rules.map fun (pattern, replacement) => .nameRule (.of slot pattern replacement))
    | none => .error (misshapen .notRules name value)
  | some (.flag directive) =>
    match value with
    | .bool on => Directive.made (if on then [directive] else [])
    | _ => .error (misshapen .notFlag name value)

def directives : (entries : List (String × Json)) → Except LoadError (List Directive)
  | [] => .ok []
  | (name, value) :: entries => do
    let first ← entry name value
    let rest ← directives entries
    .ok (first ++ rest)

end Mapping

end XmlBinding
