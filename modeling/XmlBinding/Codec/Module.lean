import XmlBinding.Codec.Decode
import XmlBinding.Codec.Encode
import XmlBinding.Declaration.Order
import XmlBinding.Text.Literal

/-!
This module contains the table of types that generated declarations define. They are defined in their order:
what an alias or a list class names has to be there already, while structures refer to one another freely. A module and
the classes in it hold what they define under normal forms of identifiers, so that two names can come to be one.
-/

namespace XmlBinding.Codec

open Text

def scalarNames : List (String × Scalar) :=
  [("str", .text), ("Any", .any), ("bool", .bool), ("int", .int), ("float", .float),
    ("Decimal", .decimal), ("bytes", .bytes), ("HexBinary", .hex), ("datetime.date", .date),
    ("datetime.time", .time), ("datetime.datetime", .dateTime)]

namespace Hint

def ofTypeExpr : TypeExpr → Hint
  | .named identifier _ =>
    let name := Identifier.normal identifier
    match scalarNames.lookup name with
    | some s => .scalar s
    | none => .named name
  | .list item => .list (ofTypeExpr item)

end Hint

/-- The value that the source text of a default stands for. -/
def defaultValue (source? : Option String) : Value :=
  match source?.bind fun source => Quoted.read? source.toList with
  | some cs => .text (String.ofList cs)
  | none => .nothing

namespace FieldDef

/-- The field of a class. Lists are repeated; everything else may be missing. -/
def ofField (className : String) (f : Field) : FieldDef :=
  let name := Identifier.inClass className f.name
  let h := Hint.ofTypeExpr f.type
  if f.type.isList then
    ⟨name, h, some f.tag, true, .nothing⟩
  else
    ⟨name, h.or .nothing, some f.tag, false, defaultValue f.default?⟩

end FieldDef

/-- What the body of a class gives to a name. -/
inductive Binding
  | constant (value : String)
  | field (f : FieldDef)

namespace Binding

def constant? : Binding → Option String
  | .constant value => some value
  | .field _ => none

def field? : Binding → Option FieldDef
  | .constant _ => none
  | .field f => some f

end Binding

namespace StructDef

/-- The names in the body of a class with what they are given: first the constants, then the fields. -/
def bindings (className : String) (s : Struct) : List (String × Binding) :=
  (s.constants.map fun c => (Identifier.inClass className c.name, .constant c.value)) ++
    s.fields.map fun f => (Identifier.inClass className f.name, .field (.ofField className f))

/-- The class of a structure. Of two members with one name the later one counts, in the place of the first. The tags of
constants are texts, and so the constants are looked up by identifiers as they are. -/
def ofStruct (className : String) (s : Struct) : StructDef :=
  let bound := Entries.ofList (bindings className s)
  ⟨bound.filterMap (·.2.field?), bound.filterMap fun (name, b) => b.constant?.map (name, ·),
    s.constantTags.toOption.getD []⟩

end StructDef

namespace SequenceDef

/-- The list class that has these methods. Of two with one name the later one counts. -/
def ofMethods? (className : String) (methods : List Method) : Option SequenceDef :=
  methods.reverse.findSome? fun
    | .toXml => none
    | .fromXml item tag => some ⟨Hint.ofTypeExpr (item.inClass className), tag⟩

end SequenceDef

namespace Table

def definition (t : Table) (d : Declaration) : Except Fault Definition :=
  match d.shape with
  | .struct s => .ok (.struct (.ofStruct d.name s))
  | .type type => do
    let h ← t.evaluate (.ofTypeExpr type)
    match SequenceDef.ofMethods? d.name d.methods with
    | some sequence => .ok (.sequence sequence)
    | none => .ok (.alias h)

def declare (t : Table) : List Declaration → Except Fault Table
  | [] => .ok t
  | d :: ds => do
    let definition ← t.definition d
    (t.define (Identifier.normal d.name) definition).declare ds

def ofDeclarations (readDate? : Calendar.Reader) (ds : List Declaration) : Except Fault Table :=
  (empty readDate?).declare (Declaration.inOrder ds)

end Table

/-- Reads an element as a value of a type that is named in the scope of the table. -/
def read (t : Table) (h : Hint) (x : Xml) : Except Fault Value := do
  let h ← t.evaluate h
  decode t x h

end XmlBinding.Codec
