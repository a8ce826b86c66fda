import XmlBinding.Pattern.Match
import XmlBinding.Report

/-!
This module contains the filters that leave entities out of the generated code. A filter is made for
entities of certain kinds and refuses all others.
-/

namespace XmlBinding

inductive FilterKind
  | attributes
  | elements
  | types
  | properties
  deriving DecidableEq

inductive FilterTest
  | names (names : List String)
  /-- Leaves out what has a local name in which the pattern does not occur. -/
  | pattern (text : String) (regex : Except Pattern.Error Pattern.Regex)
  /-- Knows its kind only. -/
  | undecided

structure Filter where
  kind : FilterKind
  test : FilterTest

namespace FilterKind

def shown : FilterKind → String
  | .attributes => "Attribute"
  | .elements => "Element"
  | .types => "ComplexType | SimpleType | Builtin"
  | .properties => "Attribute | Element"

def accepts : FilterKind → Entity → Bool
  | .attributes, .attribute _ => true
  | .elements, .element _ => true
  | .types, e => e.isType
  | .properties, e => !e.isType
  | _, _ => false

end FilterKind

namespace FilterTest

/-- Whether an entity with this local name is left out. -/
def excludes (localPart : String) : FilterTest → Report Bool
  | .names ns => pure (ns.contains localPart)
  | .pattern _ (.ok regex) => pure !(regex.occursIn localPart.toList)
  -- A pattern that cannot be used leaves nothing out.
  | .pattern text (.error e) => do
    Report.note (.invalidFilter text e)
    pure false
  | .undecided => Report.fail .noVerdict

end FilterTest

namespace Filter

def ofNames (kind : FilterKind) (names : List String) : Filter :=
  ⟨kind, .names names⟩

/-- Keeps the types in whose name one of the patterns occurs. -/
def ofPatterns (patterns : List String) : Filter :=
  let text := "|".intercalate patterns
  ⟨.types, .pattern text (Pattern.Regex.read text.toList)⟩

def excludes (f : Filter) (e : Entity) (s : Store) (subject : Subject) : Report Bool :=
  if f.kind.accepts e then
    f.test.excludes e.name.localPart
  else
    Report.fail (.wrongKind s subject f.kind.shown)

/-- The form in which a filter shows itself. Names are sorted and stand once. -/
def shown (f : Filter) : Option String :=
  match f.test with
  | .names names =>
    let sorted := names.eraseDups.mergeSort fun a b => decide (a ≤ b)
    some ("NameFilter(" ++ f.kind.shown ++ ", " ++ Shown.items (sorted.map Text.quoted) ++ ")")
  | .pattern text _ => some ("PatternFilter(" ++ f.kind.shown ++ ", " ++ Text.quoted text ++ ")")
  | .undecided => none

end Filter

end XmlBinding
