import XmlBinding.Proofs.Generate.Faults

/-!
This module contains how a type is declared under filters by name: as if what they leave out had never been there. It
takes no name away from what stays, and does not change its numbers.
-/

namespace XmlBinding

open Report

/-! ### Filters by name -/

namespace Filter

/-- The filter takes members of some kind, and leaves out those with some names. -/
structure IsByName (kind : FilterKind) (f : Filter) : Prop where
  accepts : ∀ e, kind.accepts e = true → f.kind.accepts e = true
  test : ∃ names, f.test = .names names

/-- The name of the member is among those that a filter by name leaves out. -/
def omits (f : Filter) (m : Member) : Bool :=
  match f.test with
  | .names names => names.contains m.name.localPart
  | _ => false

variable {kind : FilterKind} {f : Filter} {m : Member}

theorem isByName_ofNames (kind : FilterKind) (names : List String) : (ofNames kind names).IsByName kind where
  accepts _ h := h
  test := ⟨names, rfl⟩

theorem IsByName.excludes_eq (h : f.IsByName kind) (hm : kind.accepts m.entity = true) (s : Store) (subject : Subject)
    : f.excludes m.entity s subject = pure (f.omits m) := by
  obtain ⟨names, hnames⟩ := h.test
  have hname : m.entity.name = m.name := by cases m <;> rfl
  unfold excludes omits
  rw [if_pos (h.accepts _ hm)]
  rw [hnames]
  rw [hname]
  rfl

end Filter

namespace Config

variable {cfg : Config} {s : Store} {t : ComplexType}

/-- The members that a filter leaves. -/
def left (filter? : Option Filter) (ms : List Member) : List Member :=
  ms.filter fun m => !filter?.any (·.omits m)

theorem keptBy_of_isByName {kind : FilterKind} {filter : Filter} (h : filter.IsByName kind) {ms : List Member}
    (hms : ∀ m ∈ ms, kind.accepts m.entity = true) (s : Store) (subject : Nat → Subject) (i : Nat)
    : keptBy filter s subject i ms = pure (left (some filter) ms) := by
  induction ms generalizing i with
  | nil => rfl
  | cons m ms ih =>
    rw [List.forall_mem_cons] at hms
    rw [keptBy]
    rw [h.excludes_eq hms.1]
    rw [ih hms.2]
    unfold left
    rw [List.filter_cons]
    cases homits : filter.omits m with
    | true => simp [homits]
    | false => simp [homits]

theorem kept_of_isByName {kind : FilterKind} {filter? : Option Filter} (h : ∀ f ∈ filter?, f.IsByName kind)
    {ms : List Member} (hms : ∀ m ∈ ms, kind.accepts m.entity = true) (s : Store) (subject : Nat → Subject)
    : kept filter? s subject ms = pure (left filter? ms) := by
  cases filter? with
  | none => simp [kept, left]
  | some filter => exact keptBy_of_isByName (h filter rfl) hms s subject 0

/-- The filters for attributes and elements are by name. -/
structure FiltersByName (cfg : Config) : Prop where
  attributes : ∀ f ∈ cfg.attributeFilter?, f.IsByName .attributes
  elements : ∀ f ∈ cfg.elementFilter?, f.IsByName .elements

/-- The configuration without filters for attributes and elements. -/
def unfiltered (cfg : Config) : Config :=
  { cfg with attributeFilter? := none, elementFilter? := none }

/-- The attributes and elements of a type that the filters leave. -/
def leftOf (cfg : Config) (s : Store) (t : ComplexType) : Members :=
  ⟨left cfg.attributeFilter? (s.attributesOf t), left cfg.elementFilter? (s.elementsOf t)⟩

/-- The store in which the type has lost the attributes and elements that are left out. -/
def trim (cfg : Config) (s : Store) (t : ComplexType) : Store :=
  s.putMembers t.members (cfg.leftOf s t)

theorem membersAt_trim (cfg : Config) (s : Store) (t : ComplexType)
    : (cfg.trim s t).membersAt t.members = cfg.leftOf s t := by
  unfold trim
  by_cases hlt : t.members < s.members.length
  . exact Store.membersAt_putMembers_of_lt hlt _
  . have hnone := Store.membersAt_of_length_le (Nat.le_of_not_lt hlt)
    rw [Store.putMembers_of_length_le (Nat.le_of_not_lt hlt)]
    unfold leftOf Store.attributesOf Store.elementsOf
    rw [hnone]
    rfl

theorem keptMembers_of_filtersByName (h : cfg.FiltersByName) (ht : (s.membersAt t.members).IsWellKinded)
    : cfg.keptMembers s t = pure (cfg.leftOf s t) := by
  have hattributes := fun m hm => accepts_attributes (ht.attributes m hm)
  have helements := fun m hm => accepts_elements (ht.elements m hm)
  unfold keptMembers
  rw [show kept cfg.attributeFilter? s _ (s.attributesOf t) = _ from kept_of_isByName h.attributes hattributes s _]
  rw [show kept cfg.elementFilter? s _ (s.elementsOf t) = _ from kept_of_isByName h.elements helements s _]
  rfl

theorem keptMembers_unfiltered (cfg : Config) (s : Store) (t : ComplexType)
    : cfg.unfiltered.keptMembers s t = pure (s.membersAt t.members) :=
  rfl

end Config

namespace Generate

variable {cfg : Config} {s : Store} {r : TypeRef} {t : ComplexType}

/-! ### Declarations -/

theorem struct_trim (hfilters : cfg.FiltersByName) (ht : (s.membersAt t.members).IsWellKinded)
    : struct cfg.unfiltered (cfg.trim s t) t = struct cfg s t := by
  have hname : cfg.unfiltered.memberName = cfg.memberName := rfl
  have htype : cfg.unfiltered.typeExpr (cfg.trim s t) = cfg.typeExpr s := Config.typeExpr_congr rfl cfg
  refine struct_congr hname htype ?_
  rw [Config.keptMembers_unfiltered]
  rw [Config.membersAt_trim]
  rw [Config.keptMembers_of_filtersByName hfilters ht]

theorem declaration?_trim (hr : s.get r = .complex t) (hfilters : cfg.FiltersByName)
    (ht : (s.membersAt t.members).IsWellKinded)
    : declaration? cfg.unfiltered (cfg.trim s t) (some r) = declaration? cfg s (some r) := by
  have hget : (cfg.trim s t).get r = .complex t := (Store.get_congr rfl r).trans hr
  unfold declaration?
  simp only [hget, hr, struct_trim hfilters ht]
  rfl

theorem exists_struct (hrules : cfg.HasUsableRules) (hfilters : cfg.FiltersByName)
    (ht : (s.membersAt t.members).IsWellKinded) (hmapped : cfg.HasMapped s t)
    : ∃ st, (struct cfg s t).result = .ok st := by
  have hkept : (cfg.keptMembers s t).IsCalm := by
    rw [Config.keptMembers_of_filtersByName hfilters ht]
    exact isCalm_pure _
  exact (isGrave_struct hrules hmapped).exists_of_isCalm (isCalm_struct hrules hkept ht)

/-- What filters by name leave out of a type has no part in its declaration, which is that of the type without it. The
structure has a constant or a field for all that is left, and the type stays as it is. -/
theorem declaration?_eq_unfiltered (hr : s.get r = .complex t) (ht : (s.membersAt t.members).IsWellKinded)
    (hmapped : cfg.HasMapped s t) (hrules : cfg.HasUsableRules) (hfilters : cfg.FiltersByName)
    : (cfg.trim s t).get r = .complex t ∧ (cfg.trim s t).membersAt t.members = cfg.leftOf s t ∧
        Edit.ofReport (declaration? cfg · (some r)) s =
          (s, declaration? cfg.unfiltered (cfg.trim s t) (some r)) ∧
        ∃ d st, (declaration? cfg s (some r)).result = .ok (some d) ∧ d.shape = .struct st ∧
          IsStructOf cfg s (cfg.leftOf s t) st := by
  refine ⟨(Store.get_congr rfl r).trans hr, cfg.membersAt_trim s t, ?_, ?_⟩
  . rw [declaration?_trim hr hfilters ht]
    rfl
  . obtain ⟨st, hst⟩ := exists_struct hrules hfilters ht hmapped
    obtain ⟨d, hd, hshape⟩ := exists_declaration? hr hrules hst
    obtain ⟨kept, hkept, hstruct⟩ := isStructOf_struct hst
    rw [Config.keptMembers_of_filtersByName hfilters ht] at hkept
    rw [← result_pure_eq_ok_iff.mp hkept] at hstruct
    exact ⟨d, st, hd, hshape, hstruct⟩

def parcelType : ComplexType :=
  ⟨⟨"urn:t", "Parcel"⟩, none, 0, false, false, none⟩

def parcelAttributes : List Attribute :=
  [⟨⟨"", "note"⟩, none, "", "", true, [], []⟩, ⟨⟨"", "class"⟩, some (.builtin .string), "", "light", true, [], []⟩,
    ⟨⟨"", "version"⟩, none, "1.0", "", true, [], []⟩]

def parcelElements : List Element :=
  [⟨⟨"", "note"⟩, some (.builtin .string), false, false, true, false⟩, ⟨⟨"", "Class"⟩, none, false, false, true, false⟩,
    ⟨⟨"", "weight"⟩, some (.builtin .int), false, true, true, false⟩, ⟨⟨"", ""⟩, none, true, true, true, false⟩]

def parcels : Store :=
  ⟨[.complex parcelType], [⟨parcelAttributes.map .attribute, parcelElements.map .element⟩]⟩

def parcelConfig : Config :=
  { Config.empty with
    attributeFilter? := some (.ofNames .attributes ["id", "note"])
    elementFilter? := some (.ofNames .elements ["weight"]) }

def parcelStruct : Struct :=
  ⟨[⟨"class_", .named "str" [], some "class,attr", some "'light'"⟩, ⟨"note", .named "str" [], some "note", none⟩,
      ⟨"class__1", .named "Any" ["from typing import Any"], some "Class", none⟩,
      ⟨"items", .list (.named "Any" ["from typing import Any"]), some wildcardTag, none⟩],
    [⟨"version", "1.0", some "version,attr"⟩]⟩

/-- The element takes the name of the attribute that is left out, and would be numbered if that stayed. -/
theorem declaration?_eq_unfiltered_parcel
    : let declared := declaration? parcelConfig parcels (some (.declared 0))
      declared.result = .ok (some ⟨"Parcel", .struct parcelStruct, [], none, some (.declared 0)⟩) ∧
        declaration? parcelConfig.unfiltered (parcelConfig.trim parcels parcelType) (some (.declared 0)) = declared ∧
        IsStructOf parcelConfig parcels (parcelConfig.leftOf parcels parcelType) parcelStruct ∧
        ∃ d, (declaration? parcelConfig.unfiltered parcels (some (.declared 0))).result = .ok (some d) ∧
          d.shape.names = ["note", "class_", "note_1", "class__1", "weight", "items", "version"] := by
  have hdeclared : (declaration? parcelConfig parcels (some (.declared 0))).result =
      .ok (some ⟨"Parcel", .struct parcelStruct, [], none, some (.declared 0)⟩) := rfl
  have hkinds : (parcels.membersAt parcelType.members).IsWellKinded := ⟨by decide, by decide⟩
  have hrules : parcelConfig.HasUsableRules := by
    intro slot rule hrule
    cases slot <;> cases hrule
  have hfilters : parcelConfig.FiltersByName := by
    constructor
    . intro f hf
      rw [← Option.some.inj hf]
      exact Filter.isByName_ofNames .attributes _
    . intro f hf
      rw [← Option.some.inj hf]
      exact Filter.isByName_ofNames .elements _
  have hr : parcels.get (.declared 0) = .complex parcelType := rfl
  obtain ⟨-, -, hedit, d, st, hd, hshape, hst⟩ :=
    declaration?_eq_unfiltered hr hkinds (Config.hasMapped_of_unmapped_eq_nil rfl _ _) hrules hfilters
  obtain rfl := Option.some.inj (Except.ok.inj (hdeclared.symm.trans hd))
  obtain rfl := Shape.struct.inj hshape
  exact ⟨hdeclared, (congrArg Prod.snd hedit).symm, hst, _, rfl, rfl⟩

end Generate

end XmlBinding
