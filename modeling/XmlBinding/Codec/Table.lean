import XmlBinding.Codec.Fault

/-!
This module contains the types of values: scalars, lists, alternatives, and the classes that are defined by
name in a table.
-/

namespace XmlBinding.Codec

inductive Scalar
  | text
  | any
  | bool
  | int
  | float
  | decimal
  | bytes
  | hex
  | date
  | time
  | dateTime
  deriving DecidableEq

inductive Hint
  | scalar (s : Scalar)
  | nothing
  | named (name : String)
  | list (item : Hint)
  | either (first second : Hint)
  deriving DecidableEq, Inhabited

namespace Hint

def members : Hint → List Hint
  | .either a b => a.members ++ b.members
  | h => [h]

def or (a b : Hint) : Hint :=
  if a.members.contains b then a else .either a b

/-- A type that may be left out becomes the type itself. -/
def unwrap (h : Hint) : Hint :=
  match h with
  | .either _ _ =>
    match h.members.filter (· != .nothing) with
    | [a] => a
    | _ => h
  | _ => h

def item : Hint → Except Fault Hint
  | .list h => .ok h
  | .either _ _ => .error .severalTypes
  | _ => .ok (.scalar .text)

end Hint

/-- A field of a structure. Without a tag it is neither read nor written. -/
structure FieldDef where
  name : String
  hint : Hint
  tag? : Option String
  isRepeated : Bool
  default : Value

structure StructDef where
  fields : List FieldDef
  /-- The constants by the names under which the class holds them. -/
  constants : List (String × String)
  /-- The names of the constants that are written as attributes, by the tags of these. -/
  constantTags : List (String × String)

structure SequenceDef where
  item : Hint
  tag : ItemTag

inductive Definition
  | struct (d : StructDef)
  | sequence (d : SequenceDef)
  /-- Another name for a type in which no such names are left. -/
  | alias (h : Hint)

/-- The definitions of a module by their names, and what reads dates and times for it. -/
structure Table where
  definitions : List (String × Definition)
  readDate? : Calendar.Reader

namespace Table

def empty (readDate? : Calendar.Reader) : Table :=
  ⟨[], readDate?⟩

def find? (t : Table) (name : String) : Option Definition :=
  t.definitions.lookup name

def define (t : Table) (name : String) (d : Definition) : Table :=
  { t with definitions := (name, d) :: t.definitions }

/-- Puts types for their other names. A name that is not defined is a fault. -/
def evaluate (t : Table) : Hint → Except Fault Hint
  | .scalar s => .ok (.scalar s)
  | .nothing => .ok .nothing
  | .named name =>
    match t.find? name with
    | none => .error (.undefined name)
    | some (.alias h) => .ok h
    | some _ => .ok (.named name)
  | .list h => do
    let h ← t.evaluate h
    .ok (.list h)
  | .either a b => do
    let a ← t.evaluate a
    let b ← t.evaluate b
    .ok (a.or b)

end Table

namespace FieldDef

def initial (f : FieldDef) : Value :=
  if f.isRepeated then .list [] else f.default

end FieldDef

namespace StructDef

/-- Fields with their types. All types are evaluated before any tag is read. -/
def typedFields (t : Table) (d : StructDef) : Except Fault (List (FieldDef × Hint)) :=
  d.fields.mapM fun f => do
    let h ← t.evaluate f.hint
    .ok (f, h)

def fieldTag? (f : FieldDef) : Except Fault (Option Tag) :=
  match f.tag? with
  | none => .ok none
  | some text =>
    match Tag.read text with
    | .ok tag => .ok (some tag)
    | .error e => .error (.malformedTag e)

/-- What the class itself holds under a name: the default of a field, or a constant. -/
def member? (d : StructDef) (name : String) : Option Value :=
  match d.fields.find? (·.name == name) with
  | some f => if f.isRepeated then none else some f.default
  | none => (d.constants.lookup name).map .text

/-- An instance from values for some of the fields by name. -/
def ofNamed (name : String) (d : StructDef) (given : List (String × Value)) : Except Fault Value :=
  match given.find? fun (n, _) => !d.fields.any (·.name == n) with
  | some (n, _) => .error (.noField name n)
  | none => .ok (.struct name (d.fields.map fun f => (given.lookup f.name).getD f.initial))

def ofFirst (name : String) (d : StructDef) (v : Value) : Except Fault Value :=
  match d.fields with
  | [] => .error (.notConstructible name)
  | _ :: fields => .ok (.struct name (v :: fields.map (·.initial)))

end StructDef

end XmlBinding.Codec
