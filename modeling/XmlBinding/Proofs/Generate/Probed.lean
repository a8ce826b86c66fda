import XmlBinding.Proofs.Codec.Constants
import XmlBinding.Proofs.Generate.Legal

/-!
This module contains when the members of a structure stand in the way of reading and writing it: the codec looks for
methods, and for the tags of constants, under names that members can have too.
-/

namespace XmlBinding

open Report Identifier

/-- The names under which reading and writing look for something in a class or an instance. -/
def probedNames : List String :=
  [Method.readName, Method.writeName, tagsName]

section

variable {probed : String} (h : probed ∈ probedNames)

include h

theorem isUnaltered_of_probed {name : String} (hname : normal name = probed) : IsUnaltered memberReserved name := by
  have hall : ∀ probed ∈ probedNames, IsUnaltered memberReserved probed := by decide +kernel
  have hascii : ∀ word ∈ memberReserved, word.toList.all Text.isAscii = true := by decide +kernel
  apply IsUnaltered.of_normal (fun word hword => List.all_eq_true.mp (hascii word hword))
  rw [hname]
  exact hall probed h

/-- No probed name belongs to a class. -/
theorem isSpecial_or_of_probed : IsSpecial probed ∨ probed.toList.head? ≠ some '_' := by
  have hall : ∀ probed ∈ probedNames, IsSpecial probed ∨ probed.toList.head? ≠ some '_' := by decide
  exact hall probed h

end

/-! ### Names of members -/

namespace Config

/-- What the rules make of the name is cleaned to `given`. -/
def CleansTo (cfg : Config) (slot : RuleSlot) (name : QName) (given : String) : Prop :=
  ∃ source, (cfg.privateName (some slot) name).result = .ok source ∧ clean source = given

/-- What the rules make of the name is cleaned to a name that stands for `held`. -/
def ComesTo (cfg : Config) (slot : RuleSlot) (name : QName) (held : String) : Prop :=
  ∃ given, cfg.CleansTo slot name given ∧ normal given = held

theorem mem_used_of_memberName {cfg : Config} {slot : RuleSlot} {n : QName} {scope after : Scope}
    {name given : String} (hscope : scope.reserved = memberReserved) (hgiven : IsUnaltered memberReserved given)
    (h : (cfg.memberName slot n scope).result = .ok (name, after))
    : given ∈ after.used ↔ given ∈ scope.used ∨ cfg.CleansTo slot n given := by
  unfold memberName at h
  obtain ⟨source, hsource, h⟩ := result_bind_eq_ok_iff.mp h
  have hadd : scope.add "_" source = (name, after) := result_pure_eq_ok_iff.mp h
  have hcleans : cfg.CleansTo slot n given ↔ clean source = given := by
    constructor
    . rintro ⟨other, hother, hclean⟩
      rwa [Except.ok.inj (hsource.symm.trans hother)]
    . exact fun hclean => ⟨source, hsource, hclean⟩
  rw [← hscope] at hgiven
  rw [hcleans]
  rw [← Scope.mem_used_add_iff hgiven]
  rw [hadd]

end Config

namespace Generate

variable {cfg : Config} {s : Store} {t : ComplexType} {scope after : Scope} {ms : List Member} {st : Struct}
  {given : String}

theorem mem_used_of_attributeParts (hscope : scope.reserved = memberReserved)
    (hgiven : IsUnaltered memberReserved given) (h : (attributeParts cfg s scope ms).result = .ok (st, after))
    : given ∈ after.used ↔ given ∈ scope.used ∨ ∃ m ∈ ms, cfg.CleansTo .attributes m.source given := by
  induction ms generalizing scope st after with
  | nil =>
    rw [attributeParts] at h
    cases result_pure_eq_ok_iff.mp h
    simp
  | cons m ms ih =>
    obtain ⟨a, name, next, rest, rfl, hname, hrest, -⟩ := exists_of_attributeParts_cons h
    have hnext := (Config.adds_of_memberName hscope hname).reserved.trans hscope
    rw [ih hnext hrest]
    rw [Config.mem_used_of_memberName hscope hgiven hname]
    rw [List.exists_mem_cons_iff]
    exact or_assoc

theorem mem_names_of_elementFields (hscope : scope.reserved = memberReserved)
    (hgiven : IsUnaltered memberReserved given) {fields : List Field}
    (h : (elementFields cfg s scope ms).result = .ok fields)
    : given ∈ scope.used ∨ given ∈ fields.map (·.name) ↔
        given ∈ scope.used ∨ ∃ m ∈ ms, cfg.CleansTo .elements m.source given := by
  induction ms generalizing scope fields with
  | nil =>
    rw [elementFields] at h
    rw [← result_pure_eq_ok_iff.mp h]
    simp
  | cons m ms ih =>
    obtain ⟨e, f, next, rest, rfl, rfl, hname, hrest, -⟩ := exists_of_elementFields_cons h
    have hadds := Config.adds_of_memberName hscope hname
    have hnext : given ∈ next.used ↔ given = f.name ∨ given ∈ scope.used := by
      rw [hadds.used.mem_iff]
      exact List.mem_cons
    have hused : given ∈ next.used ↔ given ∈ scope.used ∨ cfg.CleansTo .elements (Member.element e).source given :=
      Config.mem_used_of_memberName hscope hgiven hname
    have ih := ih (hadds.reserved.trans hscope) hrest
    rw [List.map_cons]
    rw [List.mem_cons]
    rw [List.exists_mem_cons_iff]
    rw [← or_assoc]
    rw [← or_assoc]
    rw [← hused]
    rw [← ih]
    rw [hnext]
    rw [or_comm (a := given = f.name)]

/-- A name that is given as it is goes to a member if something is cleaned to it, and only then. -/
theorem mem_memberNames_iff (h : (struct cfg s t).result = .ok st)
    : ∃ kept, (cfg.keptMembers s t).result = .ok kept ∧ ∀ given, IsUnaltered memberReserved given →
        (given ∈ st.memberNames ↔
          (∃ m ∈ kept.attributes, cfg.CleansTo .attributes m.source given) ∨
            ∃ m ∈ kept.elements, cfg.CleansTo .elements m.source given) := by
  unfold struct at h
  obtain ⟨kept, hkept, h⟩ := result_bind_eq_ok_iff.mp h
  obtain ⟨⟨parts, scope⟩, hparts, h⟩ := result_bind_eq_ok_iff.mp h
  obtain ⟨fields, hfields, h⟩ := result_bind_eq_ok_iff.mp h
  refine ⟨kept, hkept, ?_⟩
  intro given hgiven
  have hnames := (areParts_attributeParts rfl hparts).names
  have hparts := mem_used_of_attributeParts rfl hgiven hparts
  have hfields := mem_names_of_elementFields hnames.reserved hgiven hfields
  have hscope : given ∈ scope.used ↔ given ∈ (Shape.struct parts).names := by
    rw [hnames.used.mem_iff]
    simp [Scope.members]
  have hnone : given ∉ Scope.members.used := List.not_mem_nil
  rw [or_iff_right hnone] at hparts
  rw [← result_pure_eq_ok_iff.mp h]
  rw [← hparts]
  rw [← hfields]
  rw [hscope]
  rw [or_comm]
  rw [← List.mem_append]
  exact (Shape.names_append_fields parts fields).mem_iff

theorem mem_memberNames_ofStruct_iff (h : (struct cfg s t).result = .ok st) (className : String)
    : ∃ kept, (cfg.keptMembers s t).result = .ok kept ∧ ∀ probed ∈ probedNames,
        (probed ∈ (Codec.StructDef.ofStruct className st).memberNames ↔
          (∃ m ∈ kept.attributes, cfg.ComesTo .attributes m.source probed) ∨
            ∃ m ∈ kept.elements, cfg.ComesTo .elements m.source probed) := by
  obtain ⟨kept, hkept, hnames⟩ := mem_memberNames_iff h
  refine ⟨kept, hkept, ?_⟩
  intro probed hprobed
  rw [Codec.StructDef.mem_memberNames_ofStruct]
  simp only [inClass_eq_iff (isSpecial_or_of_probed hprobed)]
  constructor
  . rintro ⟨given, hmem, hnormal⟩
    refine ((hnames given (isUnaltered_of_probed hprobed hnormal)).mp hmem).imp ?_ ?_
    . exact fun ⟨m, hm, hcleans⟩ => ⟨m, hm, given, hcleans, hnormal⟩
    . exact fun ⟨m, hm, hcleans⟩ => ⟨m, hm, given, hcleans, hnormal⟩
  . rintro (⟨m, hm, given, hcleans, hnormal⟩ | ⟨m, hm, given, hcleans, hnormal⟩)
    . exact ⟨given, (hnames given (isUnaltered_of_probed hprobed hnormal)).mpr (.inl ⟨m, hm, hcleans⟩), hnormal⟩
    . exact ⟨given, (hnames given (isUnaltered_of_probed hprobed hnormal)).mpr (.inr ⟨m, hm, hcleans⟩), hnormal⟩

/-! ### Reading and writing -/

end Generate

namespace Codec

variable {table : Table} {className name : String} {st : Struct}

/-- The class is read and written by its fields, after constants that are the same for all instances. -/
structure GoesByFields (table : Table) (name : String) (d : StructDef) : Prop where
  decode : ∀ x, decode table x (.named name) = decodeStruct table name d x.attributes (decodeAll table x.children)
  encode : ∀ values tag, encode table (.struct name values) tag = do
    let attributes ← d.constantTags.foldlM (d.addConstant name []) []
    let _ ← d.typedFields table
    let (attributes, children) ← encodeFields table values d.fields attributes
    .ok (.element tag attributes none children)

theorem goesByFields_of_isOrdinary (hfind : table.find? name = some (.struct (.ofStruct className st)))
    (h : IsOrdinary table className st) (hown : ∀ c ∈ st.constants, ∀ f ∈ st.fields, inClass className f.name ≠ c.name)
    (hread : Method.readName ∉ (StructDef.ofStruct className st).memberNames)
    (hwrite : Method.writeName ∉ (StructDef.ofStruct className st).memberNames)
    : GoesByFields table name (.ofStruct className st) := by
  have htags := StructDef.heldTags_of_not_mem fun hmem => h.notSpecial tagsName hmem (by decide)
  have hheld : ∀ held ∈ (StructDef.ofStruct className st).constantTags,
      ∀ field ∈ (StructDef.ofStruct className st).fields, field.name ≠ held.2 := by
    intro held hheld field hfield
    obtain ⟨c, hc, hname⟩ := StructDef.exists_of_mem_constantTags_ofStruct hheld
    obtain ⟨f, hf, rfl⟩ := StructDef.exists_of_mem_fields_ofStruct hfield
    rw [← hname]
    rw [FieldDef.ofField_name]
    exact hown c hc f hf
  constructor
  . exact decode_of_struct hfind (StructDef.member?_of_not_mem hread)
  . intro values tag
    rw [encode_of_struct hfind (StructDef.writeMember?_of_not_mem hwrite values)]
    rw [StructDef.constantAttributes_eq]
    rw [htags]
    rw [← StructDef.foldlM_addConstant_of_not_mem hheld name values]
    rfl

end Codec

namespace Generate

/-- A class holds a member of its structure under one of the probed names if the name that the rules make for it is
cleaned to one that stands for that, and only then. If it holds none there, none under a name that means something
else, and no field under the name of a constant, all its instances are read and written by its fields. -/
theorem probed_mem_memberNames_iff (h : (struct cfg s t).result = .ok st) (className : String)
    : ∃ kept, (cfg.keptMembers s t).result = .ok kept ∧
        (∀ probed ∈ probedNames,
          probed ∈ (Codec.StructDef.ofStruct className st).memberNames ↔
            (∃ m ∈ kept.attributes, cfg.ComesTo .attributes m.source probed) ∨
              ∃ m ∈ kept.elements, cfg.ComesTo .elements m.source probed) ∧
        ((∀ probed ∈ probedNames, probed ∉ (Codec.StructDef.ofStruct className st).memberNames) →
          ∀ table name, Codec.Table.find? table name = some (.struct (.ofStruct className st)) →
            Codec.IsOrdinary table className st →
              (∀ c ∈ st.constants, ∀ f ∈ st.fields, inClass className f.name ≠ c.name) →
                Codec.GoesByFields table name (.ofStruct className st)) := by
  obtain ⟨kept, hkept, hnames⟩ := mem_memberNames_ofStruct_iff h className
  refine ⟨kept, hkept, hnames, ?_⟩
  intro hprobed table name hfind hordinary hown
  exact Codec.goesByFields_of_isOrdinary hfind hordinary hown (hprobed Method.readName (by decide))
    (hprobed Method.writeName (by decide))

/-- Names that come close to the probed ones. -/
def ticketType : ComplexType :=
  ⟨⟨"urn:t", "Ticket"⟩, none, 0, false, false, none⟩

def tickets : Store :=
  ⟨[.complex ticketType],
    [⟨[.attribute ⟨⟨"", "FromXml"⟩, some (.builtin .string), "1", "", true, [], []⟩],
      [.element ⟨⟨"", "to.xml.2"⟩, some (.builtin .int), false, false, false, false⟩,
        .element ⟨⟨"", "to.xml_"⟩, some (.builtin .int), false, false, false, false⟩]⟩]⟩

def ticketStruct : Struct where
  fields := [⟨"to_xml_2", .named "int" [], some "to.xml.2", none⟩, ⟨"to_xml_", .named "int" [], some "to.xml_", none⟩]
  constants := [⟨"fromXml", "1", some "FromXml,attr"⟩]

def ticketTable : Codec.Table :=
  (Codec.Table.empty Calendar.noReader).define "Ticket" (.struct (.ofStruct "Ticket" ticketStruct))

theorem probed_mem_memberNames_iff_ticket
    : (struct .empty tickets ticketType).result = .ok ticketStruct ∧
        Codec.Table.ofDeclarations Calendar.noReader [⟨"Ticket", .struct ticketStruct, [], none, none⟩] =
          .ok ticketTable ∧
        Codec.GoesByFields ticketTable "Ticket" (.ofStruct "Ticket" ticketStruct) := by
  have hst : (struct .empty tickets ticketType).result = .ok ticketStruct := eq_ok_of_toOption (by decide +kernel)
  have hordinary : Codec.IsOrdinary ticketTable "Ticket" ticketStruct :=
    ⟨by decide +kernel, by decide +kernel, by decide +kernel, by decide +kernel⟩
  obtain ⟨-, -, -, hfields⟩ := probed_mem_memberNames_iff hst "Ticket"
  exact ⟨hst, rfl, hfields (by decide +kernel) ticketTable "Ticket" rfl hordinary (by decide +kernel)⟩

def mailboxType : ComplexType :=
  ⟨⟨"urn:t", "Mailbox"⟩, none, 0, false, false, none⟩

/-- The name of the attribute is legal, and no rule of the defaults changes it. -/
def mailboxes : Store :=
  ⟨[.complex mailboxType],
    [⟨[.attribute ⟨⟨"", "from·xml"⟩, some (.builtin .string), "1", "", true, [], []⟩],
      [.element ⟨⟨"", "x"⟩, some (.builtin .string), false, false, false, false⟩]⟩]⟩

def mailboxStruct : Struct where
  fields := [⟨"x", .named "str" [], some "x", none⟩]
  constants := [⟨"from_xml", "1", some "from·xml,attr"⟩]

/-- The constant is taken for a method, and no element can be read. -/
theorem not_goesByFields_mailbox
    : NcName.isNcName "from·xml".toList = true ∧ ∀ cfg ∈ [Config.empty, Config.defaults],
        (struct cfg mailboxes mailboxType).result = .ok mailboxStruct ∧
        Method.readName ∈ mailboxStruct.memberNames ∧
        ∃ table, Codec.Table.ofDeclarations Calendar.noReader [⟨"Mailbox", .struct mailboxStruct, [], none, none⟩] =
            .ok table ∧
          ∀ x, Codec.decode table x (.named "Mailbox") = .error (.notCallable "str") := by
  refine ⟨by decide, ?_⟩
  intro cfg hcfg
  refine ⟨?_, by decide, _, rfl, ?_⟩
  . rcases List.mem_pair.mp hcfg with rfl | rfl
    . exact eq_ok_of_toOption (by decide +kernel)
    . exact eq_ok_of_toOption (by decide +kernel)
  . have hread : (Codec.StructDef.ofStruct "Mailbox" mailboxStruct).member? Method.readName = some (.text "1") := rfl
    exact Codec.decode_of_member rfl hread

end Generate

end XmlBinding
