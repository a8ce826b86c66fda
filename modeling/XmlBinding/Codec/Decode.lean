import XmlBinding.Codec.Text
import XmlBinding.Codec.Xml
import XmlBinding.Declaration.Method

/-!
This module contains the reading of values from elements. A structure takes attributes and children by the
tags of its fields; a wildcard gets the children that no other field claims.
-/

namespace XmlBinding.Codec

structure Child where
  tag : String
  decode : Hint → Except Fault Value

structure Slot where
  field : FieldDef
  hint : Hint
  tag? : Option Tag

namespace Slot

/-- Whether the children with some name are for this field alone. -/
def isNamed (s : Slot) : Bool :=
  s.tag?.any fun tag => !tag.isAttribute && !tag.isWildcard

def accepts (s : Slot) (clark : String) : Bool :=
  s.tag?.any fun tag => tagMatches clark tag.space tag.localPart

end Slot

def StructDef.slots (t : Table) (d : StructDef) : Except Fault (List Slot) := do
  let typed ← d.typedFields t
  typed.mapM fun (f, h) => do
    let tag? ← fieldTag? f
    .ok ⟨f, h.unwrap, tag?⟩

def unclaimed (slots : List Slot) (children : List Child) : List Child :=
  children.filter fun c => !slots.any fun s => s.isNamed && s.accepts c.tag

def Slot.candidates (slots : List Slot) (children : List Child) (tag : Tag) : List Child :=
  if tag.isWildcard then
    unclaimed slots children
  else
    children.filter fun c => tagMatches c.tag tag.space tag.localPart

def Slot.read (t : Table) (attributes : List (String × String)) (slots : List Slot) (children : List Child)
    (s : Slot) : Except Fault Value :=
  match s.tag? with
  | none => .ok s.field.initial
  | some tag =>
    if tag.isAttribute then
      match attributes.lookup tag.name.clark with
      | some raw => parseText t s.hint raw
      | none => .ok s.field.initial
    else
      let mine := Slot.candidates slots children tag
      if s.field.isRepeated then do
        let item ← s.hint.item
        let items ← mine.mapM fun c => c.decode item
        .ok (.list items)
      else
        match mine with
        | [] => .ok s.field.initial
        | c :: _ => c.decode s.hint

def decodeStruct (t : Table) (name : String) (d : StructDef) (attributes : List (String × String))
    (children : List Child) : Except Fault Value := do
  let slots ← d.slots t
  let values ← slots.mapM (Slot.read t attributes slots children)
  .ok (.struct name values)

def decodeSequence (t : Table) (name : String) (d : SequenceDef) (children : List Child) :
    Except Fault Value := do
  let items ← (children.filter fun c => d.tag.accepts c.tag).mapM fun c => do
    let h ← t.evaluate d.item
    c.decode h
  .ok (.sequence name items)

/-- Reads the parts of an element as a value of a type. -/
def decodeParts (t : Table) (attributes : List (String × String)) (text : String) (children : List Child)
    (h : Hint) : Except Fault Value :=
  match h with
  | .named name =>
    match t.find? name with
    | some (.struct d) =>
      match d.member? Method.readName with
      -- What stands under the name of the reading method is taken for that method.
      | some v =>
        if v.isNothing then decodeStruct t name d attributes children
        else .error (.notCallable v.typeName)
      | none => decodeStruct t name d attributes children
    | some (.sequence d) => decodeSequence t name d children
    | _ => .error (.undefined name)
  | h => parseText t h text

mutual

def decode (t : Table) : Xml → Hint → Except Fault Value
  | .element _ attributes text? children => decodeParts t attributes (text?.getD "") (decodeAll t children)

def decodeAll (t : Table) : List Xml → List Child
  | [] => []
  | x :: xs => ⟨x.tag, decode t x⟩ :: decodeAll t xs

end

end XmlBinding.Codec
