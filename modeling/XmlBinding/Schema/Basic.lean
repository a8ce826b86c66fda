import XmlBinding.Entries
import XmlBinding.Schema.Builtin

/-!
This module contains what a schema declares. Types refer to one another and to themselves, so they are
nodes of a store and a reference is the place of a node. The lists of attributes and elements have places
of their own, because copies of a type share them and some steps change them.
-/

namespace XmlBinding

inductive TypeRef
  | builtin (b : Builtin)
  | declared (node : Nat)
  deriving DecidableEq

structure WrittenAttribute where
  name : QName
  value : String
  deriving DecidableEq

structure Attribute where
  name : QName
  type? : Option TypeRef
  fixed : String
  defaultText : String
  isOptional : Bool
  written : List WrittenAttribute
  namespaces : List (String × String)
  deriving DecidableEq

structure Element where
  name : QName
  type? : Option TypeRef
  isWildcard : Bool
  isPlural : Bool
  isOptional : Bool
  isNillable : Bool
  deriving DecidableEq

/-- An entry of a list of attributes or elements. Nothing keeps an entry out of the other list. -/
inductive Member
  | attribute (a : Attribute)
  | element (e : Element)
  deriving DecidableEq

structure Members where
  attributes : List Member
  elements : List Member
  deriving DecidableEq

structure ComplexType where
  name : QName
  base? : Option TypeRef
  /-- The place of its lists of attributes and elements. -/
  members : Nat
  isAbstract : Bool
  isMixed : Bool
  description? : Option String
  deriving DecidableEq

structure SimpleType where
  name : QName
  base? : Option TypeRef
  enumeration : List String
  listOf? : Option TypeRef
  description? : Option String
  deriving DecidableEq

inductive Entity
  | complex (t : ComplexType)
  | simple (t : SimpleType)
  | builtin (b : Builtin)
  | attribute (a : Attribute)
  | element (e : Element)
  deriving DecidableEq

namespace Member

def name : Member → QName
  | .attribute a => a.name
  | .element e => e.name

def entity : Member → Entity
  | .attribute a => .attribute a
  | .element e => .element e

end Member

namespace Entity

def name : Entity → QName
  | .complex t => t.name
  | .simple t => t.name
  | .builtin b => b.qname
  | .attribute a => a.name
  | .element e => e.name

def kindName : Entity → String
  | .complex _ => "ComplexType"
  | .simple _ => "SimpleType"
  | .builtin _ => "Builtin"
  | .attribute _ => "Attribute"
  | .element _ => "Element"

def isType : Entity → Bool
  | .complex _ | .simple _ | .builtin _ => true
  | .attribute _ | .element _ => false

end Entity

structure Store where
  nodes : List Entity
  members : List Members
  deriving DecidableEq

namespace Store

def empty : Store :=
  ⟨[], []⟩

/-- A simple type without a name or a base, where a reference leads nowhere. -/
def nowhere : Entity :=
  .simple ⟨⟨"", ""⟩, none, [], none, none⟩

def get (s : Store) : TypeRef → Entity
  | .builtin b => .builtin b
  | .declared node => s.nodes.getD node nowhere

def nameOf (s : Store) (r : TypeRef) : QName :=
  (s.get r).name

def membersAt (s : Store) (place : Nat) : Members :=
  s.members.getD place ⟨[], []⟩

def attributesOf (s : Store) (t : ComplexType) : List Member :=
  (s.membersAt t.members).attributes

def elementsOf (s : Store) (t : ComplexType) : List Member :=
  (s.membersAt t.members).elements

def push (s : Store) (e : Entity) : Store × TypeRef :=
  ({ s with nodes := s.nodes ++ [e] }, .declared s.nodes.length)

def pushMembers (s : Store) (m : Members) : Store × Nat :=
  ({ s with members := s.members ++ [m] }, s.members.length)

def setAttributes (s : Store) (t : ComplexType) (attributes : List Member) : Store :=
  { s with members := s.members.modify t.members fun m => { m with attributes := attributes } }

def setElements (s : Store) (t : ComplexType) (elements : List Member) : Store :=
  { s with members := s.members.modify t.members fun m => { m with elements := elements } }

end Store

/-- The types of one schema document in the order of their declaration. -/
structure Schema where
  targetNamespace : String
  store : Store
  types : List (QName × TypeRef)
  deriving DecidableEq

namespace Schema

/-- Registers a type under its name. A later type of one name takes the place of the earlier one. -/
def addType (s : Schema) (r : TypeRef) : Schema :=
  { s with types := Entries.set s.types (s.store.nameOf r) r }

/-- Looks a type up by name among the registered ones and then among the builtin ones. -/
def findType? (s : Schema) (name : QName) : Option TypeRef :=
  match s.types.lookup name with
  | some r => some r
  | none =>
    if name.space == Builtin.namespaceUri then
      (Builtin.ofLocalPart? name.localPart).map .builtin
    else
      none

end Schema

end XmlBinding
