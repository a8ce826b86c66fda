import XmlBinding.Proofs.Config.Chain
import XmlBinding.Proofs.Generate.Process

/-!
This module contains that no type is given up if all builtin types are mapped and all rules for names can be used. Then
everything has a name, and only a fault that ends the whole run keeps a type from being declared.
-/

namespace XmlBinding

open Report

/-! ### Names -/

theorem NameRule.IsUsable.exists_rewrite {rule : NameRule} (h : rule.IsUsable) (name : String)
    : ∃ next, rewrite name rule = .ok next := by
  unfold rewrite
  split
  . exact ⟨name, rfl⟩
  . next regex hregex =>
    obtain ⟨cs, hcs⟩ := h regex hregex name.toList
    rw [hcs]
    exact ⟨_, rfl⟩

theorem NameRule.exists_foldlM_rewrite {rules : List NameRule} (h : ∀ rule ∈ rules, rule.IsUsable) (name : String)
    : ∃ s, rules.foldlM rewrite name = .ok s := by
  induction rules generalizing name with
  | nil => exact ⟨name, rfl⟩
  | cons rule rules ih =>
    rw [List.forall_mem_cons] at h
    obtain ⟨next, hnext⟩ := h.1.exists_rewrite name
    obtain ⟨s, hs⟩ := ih h.2 next
    exact ⟨s, bind_eq_ok_iff.mpr ⟨next, hnext, hs⟩⟩

namespace Config

variable {cfg : Config}

theorem HasUsableRules.exists_privateName (h : cfg.HasUsableRules) (slot? : Option RuleSlot) (name : QName)
    : ∃ s, (cfg.privateName slot? name).result = .ok s := by
  have hrules : ∀ rule ∈ cfg.nameRules slot?, rule.IsUsable := by
    unfold nameRules
    rw [List.forall_mem_append]
    refine ⟨h .all, ?_⟩
    cases slot? with
    | none => simp
    | some slot => exact h slot
  obtain ⟨s, hs⟩ := NameRule.exists_foldlM_rewrite hrules name.localPart
  rw [privateName_of_ok hs]
  exact ⟨_, rfl⟩

theorem HasUsableRules.exists_typeName (h : cfg.HasUsableRules) (name : QName)
    : ∃ s, (cfg.typeName name).result = .ok s := by
  obtain ⟨s, hs⟩ := h.exists_privateName (some .types) name
  unfold typeName publicName
  rw [bind_assoc]
  rw [bind_of_ok hs]
  exact ⟨_, rfl⟩

theorem HasUsableRules.exists_memberName (h : cfg.HasUsableRules) (slot : RuleSlot) (name : QName) (scope : Scope)
    : ∃ named, (cfg.memberName slot name scope).result = .ok named := by
  obtain ⟨s, hs⟩ := h.exists_privateName (some slot) name
  unfold memberName
  rw [bind_of_ok hs]
  exact ⟨_, rfl⟩

/-- A builtin type to which there is a reference has a counterpart. -/
def IsMapped (cfg : Config) (s : Store) (r? : Option TypeRef) : Prop :=
  ∀ b, s.get (r?.getD (.builtin .anyType)) = .builtin b → b ∉ cfg.unmapped

theorem isMapped_of_unmapped_eq_nil (h : cfg.unmapped = []) (s : Store) (r? : Option TypeRef)
    : cfg.IsMapped s r? := by
  intro b _
  rw [h]
  exact List.not_mem_nil

/-- The builtin types of all attributes and elements of a type have counterparts. -/
structure HasMapped (cfg : Config) (s : Store) (t : ComplexType) : Prop where
  attributes : ∀ a, .attribute a ∈ s.attributesOf t → cfg.IsMapped s a.type?
  elements : ∀ e, .element e ∈ s.elementsOf t → cfg.IsMapped s e.type?

theorem hasMapped_of_unmapped_eq_nil (h : cfg.unmapped = []) (s : Store) (t : ComplexType) : cfg.HasMapped s t where
  attributes a _ := isMapped_of_unmapped_eq_nil h s a.type?
  elements e _ := isMapped_of_unmapped_eq_nil h s e.type?

theorem typeExpr_of_builtin {s : Store} {r? : Option TypeRef} (hmapped : cfg.IsMapped s r?) {b : Builtin}
    (h : s.get (r?.getD (.builtin .anyType)) = .builtin b)
    : cfg.typeExpr s r? = pure b.typeExpr := by
  unfold typeExpr
  rw [h]
  exact if_neg (by simpa using hmapped b h)

theorem typeExpr_of_not_builtin {s : Store} {r? : Option TypeRef}
    (h : ∀ b, s.get (r?.getD (.builtin .anyType)) ≠ .builtin b)
    : cfg.typeExpr s r? =
        cfg.typeName (s.nameOf (r?.getD (.builtin .anyType))) >>= fun name => pure (.named name []) := by
  unfold typeExpr
  split
  . next b hb => exact absurd hb (h b)
  . rfl

theorem HasUsableRules.exists_typeExpr (h : cfg.HasUsableRules) {s : Store} {r? : Option TypeRef}
    (hmapped : cfg.IsMapped s r?)
    : ∃ type, (cfg.typeExpr s r?).result = .ok type := by
  by_cases hbuiltin : ∃ b, s.get (r?.getD (.builtin .anyType)) = .builtin b
  . obtain ⟨b, hb⟩ := hbuiltin
    rw [typeExpr_of_builtin hmapped hb]
    exact ⟨_, rfl⟩
  . rw [typeExpr_of_not_builtin (not_exists.mp hbuiltin)]
    obtain ⟨name, hname⟩ := h.exists_typeName (s.nameOf (r?.getD (.builtin .anyType)))
    rw [bind_of_ok hname]
    exact ⟨_, rfl⟩

end Config

/-! ### Filters -/

inductive Filter.IsFault : Fault → Prop
  | wrongKind (store : Store) (subject : Subject) (wanted : String) : IsFault (.wrongKind store subject wanted)
  | noVerdict : IsFault .noVerdict

theorem Filter.IsFault.isRecoverable_eq {e : Fault} (h : Filter.IsFault e) : e.isRecoverable = false := by
  cases h with
  | wrongKind store subject wanted => rfl
  | noVerdict => rfl

theorem Filter.failsWith_excludes (f : Filter) (e : Entity) (s : Store) (subject : Subject)
    : (f.excludes e s subject).FailsWith Filter.IsFault := by
  unfold excludes
  split
  . unfold FilterTest.excludes
    split
    . exact failsWith_of_ok rfl _
    . exact failsWith_of_ok rfl _
    . exact failsWith_of_ok rfl _
    . exact failsWith_fail .noVerdict
  . exact failsWith_fail (.wrongKind s subject f.kind.shown)

theorem Config.failsWith_keptBy (filter : Filter) (s : Store) (subject : Nat → Subject) (i : Nat) (ms : List Member)
    : (keptBy filter s subject i ms).FailsWith Filter.IsFault := by
  induction ms generalizing i with
  | nil => exact failsWith_of_ok rfl _
  | cons m ms ih =>
    rw [keptBy]
    refine (filter.failsWith_excludes m.entity s _).bind fun excluded _ => ?_
    exact (ih (i + 1)).bind fun rest _ => failsWith_of_ok rfl _

theorem Config.failsWith_kept (filter? : Option Filter) (s : Store) (subject : Nat → Subject) (ms : List Member)
    : (kept filter? s subject ms).FailsWith Filter.IsFault := by
  cases filter? with
  | none => exact failsWith_of_ok rfl _
  | some filter => exact failsWith_keptBy filter s subject 0 ms

theorem Config.failsWith_keptMembers (cfg : Config) (s : Store) (t : ComplexType)
    : (cfg.keptMembers s t).FailsWith Filter.IsFault := by
  unfold keptMembers
  refine (failsWith_kept _ s _ _).bind fun attributes _ => ?_
  exact (failsWith_kept _ s _ _).bind fun elements _ => failsWith_of_ok rfl _

/-! ### Declarations -/

namespace Generate

variable {cfg : Config} {s : Store} {r : TypeRef}

section

variable {P : Fault → Prop}

/-- The members of a type fail as their types do, or because one of them is of the wrong kind. -/
theorem failsWith_attributeParts (hcfg : cfg.HasUsableRules) (hstray : ∀ owner property, P (.noProperty owner property))
    {ms : List Member} (htypes : ∀ a, .attribute a ∈ ms → (cfg.typeExpr s a.type?).FailsWith P) (scope : Scope)
    : (attributeParts cfg s scope ms).FailsWith P := by
  induction ms generalizing scope with
  | nil => exact failsWith_of_ok rfl P
  | cons m ms ih =>
    have ih := ih fun a ha => htypes a (List.mem_cons_of_mem m ha)
    rw [attributeParts]
    obtain ⟨named, hnamed⟩ := hcfg.exists_memberName .attributes m.name scope
    refine (failsWith_of_ok hnamed P).bind fun named _ => ?_
    cases m with
    | element e => exact failsWith_fail (hstray _ _)
    | «attribute» a =>
      dsimp only
      split
      . refine (htypes a List.mem_cons_self).bind fun type _ => ?_
        exact (ih named.2).bind fun rest _ => failsWith_of_ok rfl P
      . exact (ih named.2).bind fun rest _ => failsWith_of_ok rfl P

theorem failsWith_elementFields (hcfg : cfg.HasUsableRules) (hstray : ∀ owner property, P (.noProperty owner property))
    {ms : List Member} (htypes : ∀ e, .element e ∈ ms → (cfg.typeExpr s e.type?).FailsWith P) (scope : Scope)
    : (elementFields cfg s scope ms).FailsWith P := by
  induction ms generalizing scope with
  | nil => exact failsWith_of_ok rfl P
  | cons m ms ih =>
    cases m with
    | «attribute» a => exact failsWith_fail (hstray _ _)
    | element e =>
      have ih := ih fun e' he' => htypes e' (List.mem_cons_of_mem _ he')
      rw [elementFields]
      refine (htypes e List.mem_cons_self).bind fun type _ => ?_
      obtain ⟨named, hnamed⟩ := hcfg.exists_memberName .elements (fieldSource e) scope
      refine (failsWith_of_ok hnamed P).bind fun named _ => ?_
      exact (ih named.2).bind fun rest _ => failsWith_of_ok rfl P

theorem failsWith_struct (hcfg : cfg.HasUsableRules) (hstray : ∀ owner property, P (.noProperty owner property))
    (hfilters : ∀ e, Filter.IsFault e → P e) {t : ComplexType}
    (hattributes : ∀ a, .attribute a ∈ s.attributesOf t → (cfg.typeExpr s a.type?).FailsWith P)
    (helements : ∀ e, .element e ∈ s.elementsOf t → (cfg.typeExpr s e.type?).FailsWith P)
    : (struct cfg s t).FailsWith P := by
  unfold struct
  refine ((cfg.failsWith_keptMembers s t).mono hfilters).bind fun members hmembers => ?_
  obtain ⟨hkept, hkeptElements⟩ := Config.keptMembers_sublist hmembers
  refine (failsWith_attributeParts hcfg hstray (fun a ha => hattributes a (hkept.subset ha)) .members).bind ?_
  intro parts _
  have hfields := failsWith_elementFields hcfg hstray (fun e he => helements e (hkeptElements.subset he)) parts.2
  exact hfields.bind fun fields _ => failsWith_of_ok rfl P

end

theorem isGrave_struct (hcfg : cfg.HasUsableRules) {t : ComplexType} (hmapped : cfg.HasMapped s t)
    : (struct cfg s t).IsGrave := by
  refine failsWith_struct hcfg ?_ ?_ ?_ ?_
  . exact fun owner property => rfl
  . exact fun e he => he.isRecoverable_eq
  . intro a ha
    obtain ⟨type, htype⟩ := hcfg.exists_typeExpr (hmapped.attributes a ha)
    exact failsWith_of_ok htype _
  . intro e he
    obtain ⟨type, htype⟩ := hcfg.exists_typeExpr (hmapped.elements e he)
    exact failsWith_of_ok htype _

theorem exists_simple (hcfg : cfg.HasUsableRules) (hmapped : cfg.unmapped = []) (s : Store) (t : SimpleType)
    : ∃ type, (simple cfg s t).result = .ok type := by
  unfold simple
  split
  . next item _ =>
    obtain ⟨type, htype⟩ := hcfg.exists_typeExpr (Config.isMapped_of_unmapped_eq_nil hmapped s (some item))
    rw [bind_of_ok htype]
    exact ⟨_, rfl⟩
  . exact hcfg.exists_typeExpr (Config.isMapped_of_unmapped_eq_nil hmapped s t.base?)

theorem exists_declaration? {t : ComplexType} (hr : s.get r = .complex t) (hrules : cfg.HasUsableRules)
    {st : Struct} (hst : (struct cfg s t).result = .ok st)
    : ∃ d, (declaration? cfg s (some r)).result = .ok (some d) ∧ d.shape = .struct st := by
  obtain ⟨name, hname⟩ := hrules.exists_typeName t.name
  unfold declaration?
  simp only [hr]
  rw [bind_of_ok hst]
  rw [bind_of_ok hname]
  exact ⟨_, rfl, rfl⟩

theorem declaration?_of_isType (hrules : cfg.HasUsableRules) (hmapped : cfg.unmapped = [])
    (htype : (s.get r).isType = true) (hbuiltin : ∀ b, s.get r ≠ .builtin b)
    : (∃ d, (declaration? cfg s (some r)).result = .ok (some d)) ∨
        ∃ e, (declaration? cfg s (some r)).result = .error e ∧ e.isRecoverable = false := by
  cases hr : s.get r with
  | builtin b => exact absurd hr (hbuiltin b)
  | complex t =>
    cases hshape : (struct cfg s t).result with
    | error e =>
      have hgrave := isGrave_struct hrules (Config.hasMapped_of_unmapped_eq_nil hmapped s t) e hshape
      unfold declaration?
      simp only [hr]
      rw [bind_of_error hshape]
      exact .inr ⟨e, rfl, hgrave⟩
    | ok shape =>
      obtain ⟨d, hd, -⟩ := exists_declaration? hr hrules hshape
      exact .inl ⟨d, hd⟩
  | simple t =>
    obtain ⟨type, htype⟩ := exists_simple hrules hmapped s t
    obtain ⟨name, hname⟩ := hrules.exists_typeName t.name
    unfold declaration?
    simp only [hr]
    rw [bind_of_ok htype]
    rw [bind_of_ok hname]
    exact .inl ⟨_, rfl⟩
  | «attribute» a =>
    rw [hr] at htype
    cases htype
  | element e =>
    rw [hr] at htype
    cases htype

/-- A type that is not builtin is declared, or nothing at all is. -/
theorem finish_of_isType (hcfg : cfg.IsRegular) (hmapped : cfg.unmapped = []) (htype : (s.get r).isType = true)
    (hbuiltin : ∀ b, s.get r ≠ .builtin b)
    : (∃ d, (finish cfg s (some r)).result = .ok (some d)) ∨
        ∃ e, (finish cfg s (some r)).result = .error e ∧ e.isRecoverable = false := by
  unfold finish
  cases declaration?_of_isType hcfg.rules hmapped htype hbuiltin with
  | inl hdraft =>
    obtain ⟨draft, hdraft⟩ := hdraft
    obtain ⟨d, notices, hd, -⟩ := postprocess_eq hcfg.declarationSteps draft
    have hresult : (postprocess cfg.declarationSteps draft).result = .ok d := congrArg Report.result hd
    rw [bind_of_ok hdraft]
    rw [finishDeclared]
    rw [bind_of_ok hresult]
    exact .inl ⟨d, rfl⟩
  | inr hfault =>
    obtain ⟨e, he, hgrave⟩ := hfault
    rw [bind_of_error he]
    exact .inr ⟨e, rfl, hgrave⟩

end Generate

end XmlBinding
