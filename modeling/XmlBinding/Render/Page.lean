import XmlBinding.Name.Tag
import XmlBinding.Render.Layout

/-!
This module contains the pages from which generated source is put together: a module, a structure, a class
with a base, and an alias.
-/

namespace XmlBinding.Render

open Text

def quotedMapping (entries : List (String × String)) : String :=
  "\x7b" ++ ", ".intercalate (entries.map fun (k, v) => quoted k ++ ": " ++ quoted v) ++ "\x7d"

def methodLines (methods : List String) : String :=
  String.join (methods.map fun m => "\n" ++ indent 4 m ++ "\n")

structure ModulePage where
  header : String
  imports : List String
  package : String
  declarations : List String

def ModulePage.write (p : ModulePage) : String :=
  comment "#" p.header ++ "\nfrom __future__ import annotations\n\n" ++
    "from dataclasses import dataclass, field\nfrom typing import ClassVar\n" ++
    "from xml.etree import ElementTree\n" ++
    String.join (p.imports.map (· ++ "\n")) ++
    "\nfrom xsd_codegen.runtime import decode_value, encode_value, local_name\n\n" ++
    "PACKAGE = " ++ quoted p.package ++ "\n" ++
    String.join (p.declarations.map fun d => "\n\n" ++ d ++ "\n")

structure PageField where
  name : String
  type : String
  default : String
  tag : String

structure StructPage where
  name : String
  doc? : Option String
  constants : List (String × String)
  constantTags : List (String × String)
  fields : List PageField
  methods : List String

def PageField.write (f : PageField) : String :=
  "    " ++ f.name ++ ": " ++ f.type ++ " = field(" ++ f.default ++ ", metadata=\x7b\"xml\": " ++
    quoted f.tag ++ "\x7d)\n"

def StructPage.write (p : StructPage) : String :=
  let doc := match p.doc? with
    | some d => "    " ++ quoted d ++ "\n\n"
    | none => ""
  let tags :=
    if p.constants.isEmpty then
      ""
    else
      "    " ++ tagsName ++ ": ClassVar[dict] = " ++ quotedMapping p.constantTags ++ "\n"
  let pass :=
    if p.doc?.isNone && p.constants.isEmpty && p.fields.isEmpty && p.methods.isEmpty then
      "    pass\n"
    else
      ""
  "@dataclass\nclass " ++ p.name ++ ":\n" ++ doc ++
    String.join (p.constants.map fun (n, v) => "    " ++ n ++ ": ClassVar[str] = " ++ quoted v ++ "\n") ++
    tags ++ String.join (p.fields.map (·.write)) ++ pass ++ methodLines p.methods

structure ClassPage where
  name : String
  base : String
  doc? : Option String
  methods : List String

def ClassPage.write (p : ClassPage) : String :=
  let doc := match p.doc? with
    | some d => "    " ++ quoted d ++ "\n"
    | none => ""
  let pass := if p.doc?.isNone && p.methods.isEmpty then "    pass\n" else ""
  "class " ++ p.name ++ "(" ++ p.base ++ "):\n" ++ doc ++ pass ++ methodLines p.methods

structure AliasPage where
  name : String
  target : String
  doc? : Option String

def AliasPage.write (p : AliasPage) : String :=
  let doc := match p.doc? with
    | some d => comment "#" d ++ "\n"
    | none => ""
  doc ++ p.name ++ " = " ++ p.target

inductive Page
  | ofModule (p : ModulePage)
  | ofStruct (p : StructPage)
  | ofClass (p : ClassPage)
  | ofAlias (p : AliasPage)

def Page.write : Page → String
  | .ofModule p => p.write
  | .ofStruct p => p.write
  | .ofClass p => p.write
  | .ofAlias p => p.write

/-- The message for a page of a kind that there is not. -/
def unknownPage (name : String) : String :=
  "Failed to render template " ++ name ++ ": " ++ name

end XmlBinding.Render
