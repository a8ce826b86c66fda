import XmlBinding.Config.Basic
import XmlBinding.Text.LetterCase

/-!
This module contains ready-made steps for types and declarations.
-/

namespace XmlBinding

namespace Entity

/-- The same entity with another local name. Builtin types keep theirs. -/
def mapLocalPart (f : String → String) : Entity → Entity
  | .complex t => .complex { t with name := ⟨t.name.space, f t.name.localPart⟩ }
  | .simple t => .simple { t with name := ⟨t.name.space, f t.name.localPart⟩ }
  | .builtin b => .builtin b
  | .attribute a => .attribute { a with name := ⟨a.name.space, f a.name.localPart⟩ }
  | .element e => .element { e with name := ⟨e.name.space, f e.name.localPart⟩ }

end Entity

namespace TypeStep

/-- Goes on with a copy that has `suffix` at its local name. The copy shares the attributes and elements. -/
def appendSuffix (suffix : String) : TypeStep :=
  .custom fun _ r? =>
    match r? with
    | some (.declared node) => fun s =>
      let (s, r) := s.push ((s.get (.declared node)).mapLocalPart (· ++ suffix))
      (s, pure (some r))
    | r? => pure r?

/-- Does something with the types of one local name, or with all types, and passes the others on. -/
def onName (localPart? : Option String) (run : String → Edit (Option TypeRef)) : TypeStep :=
  .custom fun _ r? =>
    match r? with
    | none => pure none
    | some r => do
      let localPart := ((← Edit.store).nameOf r).localPart
      if localPart?.all (· == localPart) then run localPart else pure (some r)

def toBuiltin (localPart? : Option String) (b : Builtin) : TypeStep :=
  onName localPart? fun _ => pure (some (.builtin b))

def toNothing (localPart? : Option String) : TypeStep :=
  onName localPart? fun _ => pure none

def reject (localPart? : Option String) : TypeStep :=
  onName localPart? fun localPart => Edit.fail (.rejected ("rejected type " ++ localPart))

def crash (localPart? : Option String) : TypeStep :=
  onName localPart? fun localPart => Edit.fail (.crashed ("crashed on type " ++ localPart))

end TypeStep

namespace DeclarationStep

def rename (f : String → String) : DeclarationStep :=
  .custom fun d => pure { d with name := f d.name }

def upper : DeclarationStep :=
  rename fun name => String.ofList (Text.upper name.toList)

def appendSuffix (suffix : String) : DeclarationStep :=
  rename (· ++ suffix)

def reject (name : String) : DeclarationStep :=
  .custom fun d =>
    if d.name == name then Report.fail (.rejected ("rejected spec " ++ name)) else pure d

end DeclarationStep

end XmlBinding
