import XmlBinding.Codec.Text
import XmlBinding.Codec.Xml
import XmlBinding.Declaration.Method
import XmlBinding.Entries

/-!
This module contains the writing of values to elements.
-/

namespace XmlBinding.Codec

/-- The tags of the constants. A class holds them under a name of its own, where a field may stand instead. -/
def heldTags (d : StructDef) : Except Fault (List (String × String)) :=
  match d.fields.find? (·.name == tagsName) with
  | none => .ok d.constantTags
  | some f => if f.isRepeated then .ok [] else .error (.noMember f.default.typeName "items")

/-- What an instance has under a name: a constant of its class, or the value of a field. -/
def instanceMember? (d : StructDef) (values : List Value) (name : String) : Option Value :=
  match d.constants.lookup name with
  | some text => some (.text text)
  | none => ((d.fields.zip values).find? fun (f, _) => f.name == name).map (·.2)

/-- The attributes for the constants, whose values are looked up in an instance. -/
def constantAttributes (name : String) (d : StructDef) (values : List Value) :
    Except Fault (List (String × String)) := do
  let tags ← heldTags d
  tags.foldlM
    (fun attributes (text, constant) =>
      match Tag.read text, instanceMember? d values constant with
      | .error e, _ => .error (.malformedTag e)
      | .ok _, none => .error (.noMember name constant)
      | .ok tag, some (.text value) => .ok (Entries.set attributes tag.name.clark value)
      | .ok _, some v => .error (.notText v.typeName))
    []

def textElement (text tag : String) : Xml :=
  .element tag [] (some text) []

def childTag (f : FieldDef) (tag : Tag) : String :=
  if tag.isWildcard then f.name else tag.name.clark

/-- What an instance has under the name of the writing method, if that is something. -/
def writeMember? (d : StructDef) (values : List Value) : Option Value :=
  (instanceMember? d values Method.writeName).filter (!·.isNothing)

mutual

def encode (t : Table) : Value → String → Except Fault Xml
  | .sequence _ items, tag => do
    let children ← encodeItems t items itemName
    .ok (.element tag [] none children)
  | .struct name values, tag =>
    match t.find? name with
    | some (.struct d) =>
      match writeMember? d values with
      | some v => .error (.notCallable v.typeName)
      | none => do
        let attributes ← constantAttributes name d values
        let _ ← d.typedFields t
        let (attributes, children) ← encodeFields t values d.fields attributes
        .ok (.element tag attributes none children)
    | _ => .error (.undefined name)
  | v, tag => do
    let text ← formatText t v
    .ok (textElement text tag)

def encodeItems (t : Table) : List Value → String → Except Fault (List Xml)
  | [], _ => .ok []
  | v :: vs, tag => do
    let x ← encode t v tag
    let xs ← encodeItems t vs tag
    .ok (x :: xs)

/-- Writes what a value consists of to elements called `tag`. -/
def encodeEach (t : Table) : Value → String → Except Fault (List Xml)
  | .list items, tag | .sequence _ items, tag => encodeItems t items tag
  | .text s, tag => .ok (s.toList.map fun c => textElement (String.ofList [c]) tag)
  | .bytes bs, tag | .hex bs, tag => .ok (bs.map fun b => textElement (Number.Integer.write b.toNat) tag)
  | v, _ => .error (.notIterable v.typeName)

/-- The attributes, added to those that are there, and the children for the fields of an instance. -/
def encodeFields (t : Table) : List Value → List FieldDef → List (String × String) →
    Except Fault (List (String × String) × List Xml)
  | v :: vs, f :: fs, attributes => do
    match ← StructDef.fieldTag? f with
    | none => encodeFields t vs fs attributes
    | some tag =>
      if v.isNothing then
        encodeFields t vs fs attributes
      else if tag.isAttribute then do
        let text ← formatText t v
        encodeFields t vs fs (Entries.set attributes tag.name.clark text)
      else do
        let mine ←
          if f.isRepeated then
            encodeEach t v (childTag f tag)
          else
            (fun x => [x]) <$> encode t v (childTag f tag)
        let (attributes, children) ← encodeFields t vs fs attributes
        .ok (attributes, mine ++ children)
  | _, _, attributes => .ok (attributes, [])

end

end XmlBinding.Codec
