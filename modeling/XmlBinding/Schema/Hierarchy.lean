import XmlBinding.Report

/-!
This module contains the walk from a type over its bases. The root of all types ends the walk and is not
part of it. The bases of a type can run in a circle; such a walk never ends.
-/

namespace XmlBinding

namespace Entity

def base? : Entity → Except Fault (Option TypeRef)
  | .complex t => .ok t.base?
  | .simple t => .ok t.base?
  | .builtin b => .ok (b.base?.map .builtin)
  | .attribute _ => .error (.noProperty "Attribute" "base")
  | .element _ => .error (.noProperty "Element" "base")

end Entity

namespace Store

/-- The bases from `r?` on. -/
def walk (s : Store) : (fuel : Nat) → (r? : Option TypeRef) → Except Fault (List TypeRef)
  | _, none | _, some (.builtin .anyType) => .ok []
  -- More steps than there are types mean that the walk is in a circle.
  | 0, some _ => .error .endlessHierarchy
  | fuel + 1, some r => do
    let rest ← s.walk fuel (← (s.get r).base?)
    .ok (r :: rest)

/-- No walk that ends has more steps: each declared type once, and a builtin one and its base. -/
def walkLimit (s : Store) : Nat :=
  s.nodes.length + 2

/-- `r` and its bases, nearest first. -/
def ancestors (s : Store) (r : TypeRef) : Except Fault (List TypeRef) :=
  s.walk s.walkLimit (some r)

end Store

end XmlBinding
