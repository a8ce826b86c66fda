import XmlBinding.Declaration.Basic

/-!
This module contains the order of declarations in a module: what a declaration refers to comes before it,
as far as references do not run in a circle.
-/

namespace XmlBinding.Declaration

def named? (ds : List Declaration) (name : String) : Option Declaration :=
  ds.reverse.find? (·.name == name)

/-- Adds the declaration `name` to `done`, after those that it refers to. -/
def visit (ds : List Declaration) : (fuel : Nat) → (visiting : List String) → (done : List Declaration) →
    (name : String) → List Declaration
  | 0, _, done, _ => done
  | fuel + 1, visiting, done, name =>
    -- References that run in a circle are cut where they come back to what is being visited.
    if done.any (·.name == name) || visiting.contains name then
      done
    else
      match named? ds name with
      | none => done
      | some d => d.shape.references.foldl (visit ds fuel (name :: visiting)) done ++ [d]

def inOrder (ds : List Declaration) : List Declaration :=
  (ds.map (·.name)).foldl (visit ds (ds.length + 1) []) []

def warnings (d : Declaration) : List String :=
  match d.shape with
  | .type _ => []
  | .struct s =>
    let hollow :=
      if s.fields.isEmpty && s.constants.isEmpty then ["Declaration " ++ d.name ++ " has no fields"] else []
    let untyped := s.fields.filter fun f =>
      f.tag == wildcardTag && (f.type.source == "Any" || f.type.source == "list[Any]")
    hollow ++ untyped.map fun f => "Wildcard field " ++ d.name ++ "." ++ f.name ++ " has no item type"

end XmlBinding.Declaration
