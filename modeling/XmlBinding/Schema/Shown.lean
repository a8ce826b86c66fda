import XmlBinding.Schema.Basic
import XmlBinding.Text.Quoted

/-!
This module contains the form of schema entities in messages. What contains itself is cut short where it
comes up again.
-/

namespace XmlBinding

open Text

/-- What a message can be about: a type, or an entry of a list of attributes or elements. -/
inductive Subject
  | type (r : TypeRef)
  | attributeEntry (members index : Nat)
  | elementEntry (members index : Nat)
  deriving DecidableEq

/-- What is being shown while something inside of it is. -/
inductive Enclosing
  | node (node : Nat)
  | attributes (members : Nat)
  | elements (members : Nat)
  | entry (subject : Subject)
  deriving DecidableEq

namespace Shown

def bool (b : Bool) : String :=
  if b then "True" else "False"

def text? : Option String → String
  | none => "None"
  | some s => quoted s

def name (n : QName) : String :=
  "QName(space=" ++ quoted n.space ++ ", local=" ++ quoted n.localPart ++ ")"

def items (xs : List String) : String :=
  "[" ++ ", ".intercalate xs ++ "]"

def written (w : WrittenAttribute) : String :=
  "RawAttr(name=" ++ name w.name ++ ", value=" ++ quoted w.value ++ ")"

def namespaces (ns : List (String × String)) : String :=
  "\x7b" ++ ", ".intercalate (ns.map fun (k, v) => quoted k ++ ": " ++ quoted v) ++ "\x7d"

def ofAttribute (type : Option TypeRef → String) (a : Attribute) : String :=
  "Attribute(name=" ++ name a.name ++ ", type=" ++ type a.type? ++ ", fixed=" ++ quoted a.fixed
    ++ ", default=" ++ quoted a.defaultText ++ ", optional=" ++ bool a.isOptional
    ++ ", attrs=" ++ items (a.written.map written) ++ ", namespaces=" ++ namespaces a.namespaces ++ ")"

def ofElement (type : Option TypeRef → String) (e : Element) : String :=
  "Element(name=" ++ name e.name ++ ", type=" ++ type e.type? ++ ", wildcard=" ++ bool e.isWildcard
    ++ ", plural=" ++ bool e.isPlural ++ ", optional=" ++ bool e.isOptional
    ++ ", nillable=" ++ bool e.isNillable ++ ")"

def ofMember (type : Option TypeRef → String) : Member → String
  | .attribute a => ofAttribute type a
  | .element e => ofElement type e

/-- A list of entries, unless it is being shown already. -/
def entries (type : List Enclosing → Option TypeRef → String) (around : List Enclosing) (list : Enclosing)
    (subject : Nat → Subject) (ms : List Member) : String :=
  if around.contains list then
    "[...]"
  else
    items (ms.mapIdx fun i m =>
      let entry := Enclosing.entry (subject i)
      if around.contains entry then "..." else ofMember (type (entry :: list :: around)) m)

/-- A type; `fuel` bounds how many types are shown inside of one another. -/
def type? (s : Store) : (fuel : Nat) → List Enclosing → Option TypeRef → String
  | _, _, none => "None"
  | _, _, some (.builtin b) => b.shown
  | 0, _, some (.declared _) => "..."
  | fuel + 1, around, some (.declared node) =>
    if around.contains (.node node) then
      "..."
    else
      let around := .node node :: around
      match s.get (.declared node) with
      | .builtin b => b.shown
      | .attribute a => ofAttribute (type? s fuel around) a
      | .element e => ofElement (type? s fuel around) e
      | .simple t =>
        "SimpleType(name=" ++ name t.name ++ ", base=" ++ type? s fuel around t.base?
          ++ ", enumeration=" ++ items (t.enumeration.map quoted)
          ++ ", list_of=" ++ type? s fuel around t.listOf? ++ ", description=" ++ text? t.description? ++ ")"
      | .complex t =>
        "ComplexType(name=" ++ name t.name ++ ", base=" ++ type? s fuel around t.base?
          ++ ", attributes="
          ++ entries (type? s fuel) around (.attributes t.members) (.attributeEntry t.members)
            (s.attributesOf t)
          ++ ", elements="
          ++ entries (type? s fuel) around (.elements t.members) (.elementEntry t.members)
            (s.elementsOf t)
          ++ ", abstract=" ++ bool t.isAbstract ++ ", mixed=" ++ bool t.isMixed
          ++ ", description=" ++ text? t.description? ++ ")"

end Shown

namespace Store

def subject (s : Store) : Subject → Entity
  | .type r => s.get r
  | .attributeEntry place i => ((s.membersAt place).attributes[i]?.map Member.entity).getD nowhere
  | .elementEntry place i => ((s.membersAt place).elements[i]?.map Member.entity).getD nowhere

def shown (s : Store) (subject : Subject) : String :=
  let fuel := s.nodes.length + 1
  match subject, s.subject subject with
  | .type r, _ => Shown.type? s fuel [] (some r)
  | _, .attribute a => Shown.ofAttribute (Shown.type? s fuel [.entry subject]) a
  | _, .element e => Shown.ofElement (Shown.type? s fuel [.entry subject]) e
  | _, _ => ""

end Store

end XmlBinding
