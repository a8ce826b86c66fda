import XmlBinding.Proofs.Config.Defaults
import XmlBinding.Proofs.Except
import XmlBinding.Proofs.Generate.Alone
import XmlBinding.Proofs.Generate.Origin
import XmlBinding.Proofs.Generate.Run
import XmlBinding.Proofs.Name.Legal
import XmlBinding.Proofs.Name.Valid

/-!
This module contains which names of generated code are identifiers, under the defaults. None of them is a keyword, and
no declaration has the name of something that every module has. The names of types are not cleaned, so what is left
without separators has to be an identifier; the names of fields and constants are cleaned of all but word characters.
-/

namespace XmlBinding

open Report SoapArray Text Identifier

/-! ### The names of the defaults -/

namespace Config

/-- Whether a type with this local part gets an identifier for a name. -/
def isTypeNameLegal (localPart : String) : Bool :=
  (bare localPart).isEmpty || isIdentifier (upperFirst (lowerFirst (bare localPart)))

/-- Whether an attribute or element with this local part gets an identifier for a name. -/
def isMemberNameLegal (localPart : String) : Bool :=
  isCleanable (lowerFirst (bare localPart))

theorem isMemberNameLegal_of_isAscii {localPart : String} (h : ∀ c ∈ localPart.toList, isAscii c = true)
    : isMemberNameLegal localPart = true := by
  apply isCleanable_of_isAscii
  apply isAscii_of_mem_lowerFirst
  intro c hc
  exact h c (List.mem_of_mem_filter hc)

theorem of_typeName_defaults {name : QName} {s : String} (h : (defaults.typeName name).result = .ok s)
    : isIdentifier s.toList = isTypeNameLegal name.localPart ∧ s ∉ declarationReserved := by
  unfold typeName publicName at h
  rw [bind_assoc] at h
  rw [bind_of_ok (privateName_defaults (by decide) name)] at h
  obtain rfl : escapeReserved declarationReserved "_"
      (String.ofList (upperFirst (bareName name.localPart).toList)) = s := Except.ok.inj h
  refine ⟨?_, escapeReserved_not_mem areWords_declarationReserved _⟩
  rw [isIdentifier_escapeReserved areWords_declarationReserved]
  rw [String.toList_ofList]
  unfold isTypeNameLegal bareName
  cases (bare name.localPart).isEmpty with
  | true =>
    have hunderscore : isIdentifier (upperFirst "_".toList) = true := by decide
    exact hunderscore
  | false => simp

theorem of_gives_defaults {slot : RuleSlot} (hslot : slot ≠ .all) {source : QName} {name : String}
    (h : defaults.Gives slot source name)
    : isIdentifier name.toList = isMemberNameLegal source.localPart ∧ name ∉ memberReserved := by
  obtain ⟨used, after, h⟩ := h
  unfold memberName at h
  rw [bind_of_ok (privateName_defaults hslot source)] at h
  obtain rfl : ((⟨memberReserved, used⟩ : Scope).add "_" (bareName source.localPart)).1 = name :=
    congrArg Prod.fst (Except.ok.inj h)
  refine ⟨?_, Scope.add_not_mem areWords_memberReserved _⟩
  rw [Scope.isIdentifier_add areWords_memberReserved]
  unfold isMemberNameLegal bareName
  cases hbare : bare source.localPart with
  | nil => decide
  | cons c cs => simp

end Config

/-! ### Members -/

/-- The name from which the name of a field or constant is made. -/
def Member.source : Member → QName
  | .attribute a => a.name
  | .element e => Generate.fieldSource e

def Store.HasMember (s : Store) (m : Member) : Prop :=
  ∃ place, m ∈ (s.membersAt place).attributes ∨ m ∈ (s.membersAt place).elements

namespace SoapArray

theorem exists_source_of_record? {ms ms' : List Member} {name : QName} (h : record? ms = .ok (some (ms', name)))
    : ∀ m' ∈ ms', ∃ m ∈ ms, m.source = m'.source := by
  induction ms generalizing ms' with
  | nil => cases h
  | cons m ms ih =>
    cases hm : m.name.localPart == annotation.localPart with
    | false =>
      obtain ⟨rest, rfl, hrest⟩ := exists_of_record?_cons_of_ne hm h
      rw [List.forall_mem_cons]
      refine ⟨⟨m, List.mem_cons_self, rfl⟩, ?_⟩
      intro m' hm'
      obtain ⟨old, hold, hsource⟩ := ih hrest m' hm'
      exact ⟨old, List.mem_cons_of_mem m hold, hsource⟩
    | true =>
      obtain ⟨a, value, rfl, -, rfl, -⟩ := exists_of_record?_cons_of_eq hm h
      rw [List.forall_mem_cons]
      exact ⟨⟨.attribute a, List.mem_cons_self, rfl⟩, fun m' hm' => ⟨m', List.mem_cons_of_mem _ hm', rfl⟩⟩

/-- Arrays that are resolved bring no new names. -/
theorem Alters.exists_source {find? : QName → Option TypeRef} {s s' : Store} (h : Alters find? s s') {m' : Member}
    (hm' : s'.HasMember m')
    : ∃ m, s.HasMember m ∧ m.source = m'.source := by
  obtain ⟨place, hattribute | helement⟩ := hm'
  . cases h.attributes place with
    | inl hsame =>
      rw [hsame] at hattribute
      exact ⟨m', ⟨place, .inl hattribute⟩, rfl⟩
    | inr hrecorded =>
      obtain ⟨name, hname⟩ := hrecorded
      obtain ⟨m, hm, hsource⟩ := exists_source_of_record? hname m' hattribute
      exact ⟨m, ⟨place, .inl hm⟩, hsource⟩
  . obtain hold | ⟨other, w, item, hw, -, rfl⟩ := h.elements place m' helement
    . exact ⟨m', ⟨place, .inr hold⟩, rfl⟩
    . exact ⟨.element w, ⟨other, .inr hw⟩, rfl⟩

end SoapArray

/-! ### Declarations -/

namespace Generate

variable {cfg : Config} {schema : Schema} {s : Store} {t : ComplexType} {ds : List Declaration}

/-- Each name in a structure is given to an attribute or an element. -/
theorem exists_gives_of_struct {st : Struct} (h : (struct cfg s t).result = .ok st)
    : ∀ name ∈ (Shape.struct st).names, ∃ slot ≠ .all, ∃ m, s.HasMember m ∧ cfg.Gives slot m.source name := by
  obtain ⟨hfields, hconstants⟩ := mem_of_struct h
  unfold Shape.names Struct.memberNames
  dsimp only
  rw [List.forall_mem_append]
  constructor
  . intro name hname
    obtain ⟨f, hf, rfl⟩ := List.mem_map.mp hname
    cases hfields f hf with
    | inl hattribute =>
      obtain ⟨a, ha, hfield⟩ := hattribute
      exact ⟨.attributes, by decide, .attribute a, ⟨t.members, .inl ha⟩, hfield.name⟩
    | inr helement =>
      obtain ⟨e, he, hfield⟩ := helement
      exact ⟨.elements, by decide, .element e, ⟨t.members, .inr he⟩, hfield.name⟩
  . intro name hname
    obtain ⟨c, hc, rfl⟩ := List.mem_map.mp hname
    obtain ⟨a, ha, hconstant⟩ := hconstants c hc
    exact ⟨.attributes, by decide, .attribute a, ⟨t.members, .inl ha⟩, hconstant.name⟩

/-- With the defaults, no name is a keyword, and a name is an identifier if and only if the name of its type, attribute
or element is legal. -/
theorem isIdentifier_declarations (hcfg : Config.load true none [] .empty = .ok cfg)
    (h : (declarations cfg schema).2.result = .ok ds)
    : ∀ d ∈ ds,
        (∃ p ∈ schema.types, d.source? = some p.2 ∧
          isIdentifier d.name.toList = Config.isTypeNameLegal (schema.store.nameOf p.2).localPart) ∧
        d.name ∉ keywords ∧ d.name ∉ moduleNames ∧
        ∀ name ∈ d.shape.names,
          name ∉ keywords ∧ ∃ m, schema.store.HasMember m ∧ (∃ slot, cfg.Gives slot m.source name) ∧
            isIdentifier name.toList = Config.isMemberNameLegal m.source.localPart := by
  rw [Config.load_defaults] at hcfg
  obtain rfl := Except.ok.inj hcfg
  intro d hd
  obtain ⟨r, hr, s, halters, hfinish⟩ := (isDrafted_declarations Config.isRegular_defaults h).sound d hd
  obtain ⟨p, hp, rfl⟩ := List.mem_map.mp hr
  obtain ⟨hname, hsource, hstruct⟩ := of_finish Config.isRegular_defaults hfinish
  rw [Store.nameOf_congr halters.nodes] at hname
  obtain ⟨hlegal, hreserved⟩ := Config.of_typeName_defaults hname
  unfold declarationReserved at hreserved
  rw [List.mem_append] at hreserved
  rw [not_or] at hreserved
  refine ⟨⟨p, hp, hsource, hlegal⟩, hreserved.1, hreserved.2, ?_⟩
  intro name hmem
  cases hshape : d.shape with
  | type type =>
    rw [hshape] at hmem
    cases hmem
  | struct st =>
    rw [hshape] at hmem
    obtain ⟨t, -, hst⟩ := hstruct st hshape
    obtain ⟨slot, hslot, m', hm', hgives⟩ := exists_gives_of_struct hst name hmem
    obtain ⟨m, hm, hsame⟩ := halters.exists_source hm'
    rw [← hsame] at hgives
    obtain ⟨hlegal, hreserved⟩ := Config.of_gives_defaults hslot hgives
    refine ⟨?_, m, hm, ⟨slot, hgives⟩, hlegal⟩
    intro hkeyword
    exact hreserved (List.mem_append_left _ hkeyword)

/-- Names that are reserved, names with digits and separators in them, and an accent. -/
def journal : Schema where
  targetNamespace := "urn:t"
  store :=
    ⟨[arrayOf "none" none 0, aliasOf "any" .string, aliasOf "_" .int],
      [⟨[.attribute ⟨⟨"", "class"⟩, some (.declared 1), "", "", true, [], []⟩,
          .attribute ⟨⟨"", "no.1"⟩, some (.declared 2), "x", "", true, [], []⟩],
        [.element ⟨⟨"", "_2"⟩, some (.builtin .date), false, false, false, false⟩,
          .element ⟨⟨"", "Édition"⟩, some (.declared 2), true, false, false, false⟩]⟩]⟩
  types := [(⟨"urn:t", "none"⟩, .declared 0), (⟨"urn:t", "any"⟩, .declared 1), (⟨"urn:t", "_"⟩, .declared 2)]

theorem names_journal
    : ∃ ds, (declarations .defaults journal).2.result = .ok ds ∧
        (ds.map fun d => (d.name, d.shape.names)) =
          [("None_", ["class_", "_2", "édition", "no1"]), ("Any_", []), ("_", [])] := by
  apply exists_of_toOption_map
  decide +kernel

theorem isIdentifier_declarations_journal
    : Config.load true none [] .empty = .ok .defaults ∧
        ∃ ds, (declarations .defaults journal).2.result = .ok ds ∧
          (ds.map fun d => (d.name, d.shape.names)) =
            [("None_", ["class_", "_2", "édition", "no1"]), ("Any_", []), ("_", [])] ∧
          ∀ d ∈ ds,
            (∃ p ∈ journal.types, d.source? = some p.2 ∧
              isIdentifier d.name.toList = Config.isTypeNameLegal (journal.store.nameOf p.2).localPart) ∧
            d.name ∉ keywords ∧ d.name ∉ moduleNames ∧
            ∀ name ∈ d.shape.names,
              name ∉ keywords ∧ ∃ m, journal.store.HasMember m ∧ (∃ slot, Config.defaults.Gives slot m.source name) ∧
                isIdentifier name.toList = Config.isMemberNameLegal m.source.localPart := by
  obtain ⟨ds, hds, hnames⟩ := names_journal
  exact ⟨Config.load_defaults, ds, hds, hnames, isIdentifier_declarations Config.load_defaults hds⟩

/-- A type that starts with an underscore and a digit, and an element that starts with a superscript. -/
def numbered : Schema where
  targetNamespace := "urn:t"
  store :=
    ⟨[arrayOf "_1" none 0], [⟨[], [.element ⟨⟨"", "⁰"⟩, some (.builtin .int), false, false, false, false⟩]⟩]⟩
  types := [(⟨"urn:t", "_1"⟩, .declared 0)]

theorem names_numbered
    : ∃ ds, (declarations .defaults numbered).2.result = .ok ds ∧
        (ds.map fun d => (d.name, d.shape.names)) = [("1", ["_⁰"])] := by
  apply exists_of_toOption_map
  decide +kernel

/-- The underscore goes away and leaves the digit, and the superscript is a word character. -/
theorem not_isIdentifier_declarations_numbered
    : Config.load true none [] .empty = .ok .defaults ∧ NcName.isNcName "_1".toList = true ∧
        NcName.isNcName "⁰".toList = true ∧
        ∃ ds, (declarations .defaults numbered).2.result = .ok ds ∧
          (ds.map fun d => (d.name, d.shape.names)) = [("1", ["_⁰"])] ∧ isIdentifier "1".toList = false ∧
          isIdentifier "_⁰".toList = false := by
  obtain ⟨ds, hds, hnames⟩ := names_numbered
  exact ⟨Config.load_defaults, by decide, by decide, ds, hds, hnames, by decide, by decide +kernel⟩

end Generate

end XmlBinding
