import XmlBinding.Proofs.Config.Ordinary
import XmlBinding.Proofs.Generate.Fields
import XmlBinding.Proofs.Schema.Store

/-!
This module contains what a declaration depends on, and which faults stop it. In a store that is in order and
under a regular configuration, all that is read for a type is its node and its attributes and elements, and a
fault only concerns the declaration at hand.
-/

namespace XmlBinding

open Report

/-! ### Names -/

theorem NameRule.IsUsable.isCalm_apply {rule : NameRule} (h : rule.IsUsable) (name : String)
    : (rule.apply name).IsCalm := by
  unfold NameRule.apply
  split
  . exact (isCalm_note (by simp [Notice.tier])).bind fun _ _ => isCalm_pure name
  . next regex hregex =>
    obtain ⟨cs, hcs⟩ := h regex hregex name.toList
    rw [hcs]
    exact isCalm_pure _

theorem NameRule.isCalm_applyAll {rules : List NameRule} (h : ∀ rule ∈ rules, rule.IsUsable) (name : String)
    : (applyAll rules name).IsCalm :=
  isCalm_foldlM (fun name rule hrule => (h rule hrule).isCalm_apply name) name

namespace Config

variable {cfg : Config} {s s' : Store}

theorem HasUsableRules.isCalm_privateName (h : cfg.HasUsableRules) (slot? : Option RuleSlot) (name : QName)
    : (cfg.privateName slot? name).IsCalm := by
  unfold privateName
  refine (NameRule.isCalm_applyAll (h .all) _).bind fun general _ => ?_
  have hspecial : ∀ rule ∈ (slot?.map cfg.rules).getD [], rule.IsUsable := by
    cases slot? with
    | none => simp
    | some slot => exact h slot
  refine (NameRule.isCalm_applyAll hspecial general).bind fun special _ => ?_
  split
  . split
    . exact (isCalm_note (by simp [Notice.tier])).bind fun _ _ => isCalm_pure _
    . exact isCalm_pure _
  . exact isCalm_pure _

theorem HasUsableRules.isCalm_typeName (h : cfg.HasUsableRules) (name : QName) : (cfg.typeName name).IsCalm := by
  unfold typeName publicName
  refine IsCalm.bind ?_ fun _ _ => isCalm_pure _
  exact (h.isCalm_privateName _ name).bind fun _ _ => isCalm_pure _

theorem HasUsableRules.isCalm_memberName (h : cfg.HasUsableRules) (slot : RuleSlot) (name : QName) (scope : Scope)
    : (cfg.memberName slot name scope).IsCalm := by
  unfold memberName
  exact (h.isCalm_privateName _ name).bind fun _ _ => isCalm_pure _

theorem HasUsableRules.isCalm_typeExpr (h : cfg.HasUsableRules) (s : Store) (r? : Option TypeRef)
    : (cfg.typeExpr s r?).IsCalm := by
  unfold typeExpr
  split
  . split
    . exact isCalm_fail rfl
    . exact isCalm_pure _
  . exact (h.isCalm_typeName _).bind fun _ _ => isCalm_pure _

theorem typeExpr_congr (hnodes : s'.nodes = s.nodes) (cfg : Config) : cfg.typeExpr s' = cfg.typeExpr s := by
  funext r?
  unfold typeExpr
  rw [Store.get_congr hnodes]

end Config

/-! ### Filters -/

namespace Filter

variable {kind : FilterKind} {f : Filter} {e : Entity}

theorem IsFor.excludes_eq (h : f.IsFor kind) (he : kind.accepts e = true) (s : Store) (subject : Subject)
    : f.excludes e s subject = f.test.excludes e.name.localPart := by
  unfold Filter.excludes
  rw [h.kind_eq]
  exact if_pos he

theorem IsFor.isCalm_excludes (h : f.IsFor kind) (he : kind.accepts e = true) (s : Store) (subject : Subject)
    : (f.excludes e s subject).IsCalm := by
  rw [h.excludes_eq he]
  unfold FilterTest.excludes
  split
  . exact isCalm_pure _
  . exact isCalm_pure _
  . exact (isCalm_note (by simp [Notice.tier])).bind fun _ _ => isCalm_pure _
  . next hundecided => exact absurd hundecided h.test_ne

theorem IsFor.exists_excludes (h : f.IsFor kind) (he : kind.accepts e = true) (s : Store) (subject : Subject)
    : ∃ excluded, (f.excludes e s subject).result = .ok excluded := by
  rw [h.excludes_eq he]
  unfold FilterTest.excludes
  split
  . exact ⟨_, rfl⟩
  . exact ⟨_, rfl⟩
  . exact ⟨false, rfl⟩
  . next hundecided => exact absurd hundecided h.test_ne

end Filter

namespace Config

variable {cfg : Config} {s s' : Store} {kind : FilterKind} {filter : Filter} {filter? : Option Filter}
  {ms : List Member}

theorem isCalm_keptBy (h : filter.IsFor kind) (hms : ∀ m ∈ ms, kind.accepts m.entity = true) (s : Store)
    (subject : Nat → Subject) (i : Nat)
    : (keptBy filter s subject i ms).IsCalm := by
  induction ms generalizing i with
  | nil => exact isCalm_pure _
  | cons m ms ih =>
    rw [List.forall_mem_cons] at hms
    rw [keptBy]
    refine (h.isCalm_excludes hms.1 s _).bind fun excluded _ => ?_
    exact (ih hms.2 (i + 1)).bind fun rest _ => isCalm_pure _

theorem keptBy_congr (h : filter.IsFor kind) (hms : ∀ m ∈ ms, kind.accepts m.entity = true) (s s' : Store)
    (subject : Nat → Subject) (i : Nat)
    : keptBy filter s' subject i ms = keptBy filter s subject i ms := by
  induction ms generalizing i with
  | nil => rfl
  | cons m ms ih =>
    rw [List.forall_mem_cons] at hms
    rw [keptBy]
    rw [keptBy]
    rw [h.excludes_eq hms.1 s']
    rw [h.excludes_eq hms.1 s]
    rw [ih hms.2]

theorem isCalm_kept (h : ∀ f ∈ filter?, f.IsFor kind) (hms : ∀ m ∈ ms, kind.accepts m.entity = true) (s : Store)
    (subject : Nat → Subject)
    : (kept filter? s subject ms).IsCalm := by
  cases filter? with
  | none => exact isCalm_pure ms
  | some filter => exact isCalm_keptBy (h filter rfl) hms s subject 0

theorem kept_congr (h : ∀ f ∈ filter?, f.IsFor kind) (hms : ∀ m ∈ ms, kind.accepts m.entity = true)
    (s s' : Store) (subject : Nat → Subject)
    : kept filter? s' subject ms = kept filter? s subject ms := by
  cases filter? with
  | none => rfl
  | some filter => exact keptBy_congr (h filter rfl) hms s s' subject 0

theorem accepts_attributes {m : Member} (h : m.isAttribute = true)
    : FilterKind.attributes.accepts m.entity = true := by
  cases m with
  | «attribute» a => rfl
  | element e => cases h

theorem accepts_elements {m : Member} (h : m.isElement = true) : FilterKind.elements.accepts m.entity = true := by
  cases m with
  | «attribute» a => cases h
  | element e => rfl

theorem IsRegular.isCalm_keptMembers (h : cfg.IsRegular) (hs : s.IsRegular) (t : ComplexType)
    : (cfg.keptMembers s t).IsCalm := by
  unfold keptMembers
  have hattributes := fun m hm => accepts_attributes (hs.isAttribute_of_mem t m hm)
  have helements := fun m hm => accepts_elements (hs.isElement_of_mem t m hm)
  refine (isCalm_kept h.attributeFilter hattributes s _).bind fun attributes _ => ?_
  exact (isCalm_kept h.elementFilter helements s _).bind fun elements _ => isCalm_pure _

theorem isWellKinded_keptMembers {t : ComplexType} (ht : (s.membersAt t.members).IsWellKinded) {kept : Members}
    (h : (cfg.keptMembers s t).result = .ok kept)
    : kept.IsWellKinded := by
  obtain ⟨hattributes, helements⟩ := keptMembers_sublist h
  exact ⟨fun a ha => ht.attributes a (hattributes.mem ha), fun e he => ht.elements e (helements.mem he)⟩

theorem IsRegular.keptMembers_congr (h : cfg.IsRegular) (hs : s.IsRegular) {t : ComplexType}
    (hmembers : s'.membersAt t.members = s.membersAt t.members)
    : cfg.keptMembers s' t = cfg.keptMembers s t := by
  have hattributes := fun m hm => accepts_attributes (hs.isAttribute_of_mem t m hm)
  have helements := fun m hm => accepts_elements (hs.isElement_of_mem t m hm)
  unfold keptMembers
  rw [show s'.attributesOf t = s.attributesOf t from congrArg Members.attributes hmembers]
  rw [show s'.elementsOf t = s.elementsOf t from congrArg Members.elements hmembers]
  rw [kept_congr h.attributeFilter hattributes s s']
  rw [kept_congr h.elementFilter helements s s']

end Config

/-! ### Declarations -/

namespace Generate

variable {cfg : Config} {s s' : Store} {ms : List Member}

theorem isCalm_attributeParts (h : cfg.HasUsableRules) (hms : ∀ m ∈ ms, m.isAttribute = true) (s : Store)
    (scope : Scope)
    : (attributeParts cfg s scope ms).IsCalm := by
  induction ms generalizing scope with
  | nil => exact isCalm_pure _
  | cons m ms ih =>
    rw [List.forall_mem_cons] at hms
    rw [attributeParts]
    refine (h.isCalm_memberName _ _ scope).bind fun named _ => ?_
    cases m with
    | element e => cases hms.1
    | «attribute» a =>
      dsimp only
      split
      . refine (h.isCalm_typeExpr s _).bind fun type _ => ?_
        exact (ih hms.2 named.2).bind fun rest _ => isCalm_pure _
      . exact (ih hms.2 named.2).bind fun rest _ => isCalm_pure _

theorem isCalm_elementFields (h : cfg.HasUsableRules) (hms : ∀ m ∈ ms, m.isElement = true) (s : Store)
    (scope : Scope)
    : (elementFields cfg s scope ms).IsCalm := by
  induction ms generalizing scope with
  | nil => exact isCalm_pure _
  | cons m ms ih =>
    rw [List.forall_mem_cons] at hms
    cases m with
    | «attribute» a => cases hms.1
    | element e =>
      rw [elementFields]
      refine (h.isCalm_typeExpr s _).bind fun type _ => ?_
      refine (h.isCalm_memberName _ _ scope).bind fun named _ => ?_
      exact (ih hms.2 named.2).bind fun rest _ => isCalm_pure _

theorem isCalm_struct (h : cfg.HasUsableRules) {t : ComplexType} (hkept : (cfg.keptMembers s t).IsCalm)
    (ht : (s.membersAt t.members).IsWellKinded)
    : (struct cfg s t).IsCalm := by
  unfold struct
  refine hkept.bind fun members hmembers => ?_
  have hkinds := Config.isWellKinded_keptMembers ht hmembers
  refine (isCalm_attributeParts h hkinds.attributes s .members).bind fun parts _ => ?_
  exact (isCalm_elementFields h hkinds.elements s parts.2).bind fun fields _ => isCalm_pure _

theorem isCalm_simple (h : cfg.HasUsableRules) (s : Store) (t : SimpleType) : (simple cfg s t).IsCalm := by
  unfold simple
  split
  . exact (h.isCalm_typeExpr s _).bind fun _ _ => isCalm_pure _
  . exact h.isCalm_typeExpr s _

/-- No fault in a declaration stops the declarations after it. -/
theorem isCalm_declaration? (h : cfg.IsRegular) (hs : s.IsRegular) (r : TypeRef)
    : (declaration? cfg s (some r)).IsCalm := by
  have hrules : cfg.HasUsableRules := h.rules
  unfold declaration?
  dsimp only
  split
  . exact isCalm_pure none
  . next t _ =>
    have hstruct := isCalm_struct hrules (h.isCalm_keptMembers hs t) (hs.membersAt t.members)
    refine hstruct.bind fun shape _ => ?_
    exact (hrules.isCalm_typeName t.name).bind fun name _ => isCalm_pure _
  . next t _ =>
    refine (isCalm_simple hrules s t).bind fun type _ => ?_
    exact (hrules.isCalm_typeName t.name).bind fun name _ => isCalm_pure _
  . exact isCalm_fail rfl

section

variable {cfg' : Config} (hname : cfg'.memberName = cfg.memberName) (htype : cfg'.typeExpr s' = cfg.typeExpr s)

include hname htype

theorem attributeParts_congr (scope : Scope) (ms : List Member)
    : attributeParts cfg' s' scope ms = attributeParts cfg s scope ms := by
  induction ms generalizing scope with
  | nil => rfl
  | cons m ms ih =>
    rw [attributeParts]
    rw [attributeParts]
    simp only [hname, htype, ih]

theorem elementFields_congr (scope : Scope) (ms : List Member)
    : elementFields cfg' s' scope ms = elementFields cfg s scope ms := by
  induction ms generalizing scope with
  | nil => rfl
  | cons m ms ih =>
    cases m with
    | «attribute» a => rfl
    | element e =>
      rw [elementFields]
      rw [elementFields]
      simp only [hname, htype, ih]

/-- A structure depends on the members that are left, and on the names and types that its parts get. -/
theorem struct_congr {t : ComplexType} (hkept : cfg'.keptMembers s' t = cfg.keptMembers s t)
    : struct cfg' s' t = struct cfg s t := by
  unfold struct
  rw [hkept]
  simp only [attributeParts_congr hname htype, elementFields_congr hname htype]

end

/-- A declaration only depends on the types by which it refers to others, and on the attributes and elements of
its own. -/
theorem declaration?_congr (h : cfg.IsRegular) (hs : s.IsRegular) (hnodes : s'.nodes = s.nodes) {r : TypeRef}
    (hmembers : ∀ t, s.get r = .complex t → s'.membersAt t.members = s.membersAt t.members)
    : declaration? cfg s' (some r) = declaration? cfg s (some r) := by
  have htype := hs.isType_get r
  unfold declaration?
  dsimp only
  rw [Store.get_congr hnodes]
  cases hr : s.get r with
  | builtin b => rfl
  | complex t =>
    have hstruct : struct cfg s' t = struct cfg s t :=
      struct_congr rfl (Config.typeExpr_congr hnodes cfg) (h.keptMembers_congr hs (hmembers t hr))
    simp only [hstruct]
  | simple t =>
    have hsimple : simple cfg s' t = simple cfg s t := by
      unfold simple
      rw [Config.typeExpr_congr hnodes]
    simp only [hsimple]
  -- Neither attributes nor elements stand among types.
  | «attribute» a =>
    rw [hr] at htype
    cases htype
  | element e =>
    rw [hr] at htype
    cases htype

end Generate

end XmlBinding
