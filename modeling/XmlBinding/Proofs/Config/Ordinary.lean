import XmlBinding.Config.Directive
import XmlBinding.Proofs.Report

/-!
This module contains which directives only use what is ready-made, and what is known of a configuration that is
built from them.
-/

namespace XmlBinding

def NameRule.IsUsable (rule : NameRule) : Prop :=
  ∀ regex, rule.regex = .ok regex →
    ∀ text, ∃ cs, regex.replace rule.replacement.toList text = .ok cs

theorem NameRule.isUsable_of_backslash_not_mem {rule : NameRule} (h : '\\' ∉ rule.replacement.toList)
    : rule.IsUsable := by
  intro regex _ text
  unfold Pattern.Regex.replace
  rw [if_neg (by simpa using h)]
  exact ⟨_, rfl⟩

def Config.HasUsableRules (cfg : Config) : Prop :=
  ∀ slot, ∀ rule ∈ cfg.rules slot, rule.IsUsable

structure Filter.IsFor (kind : FilterKind) (f : Filter) : Prop where
  kind_eq : f.kind = kind
  test_ne : f.test ≠ .undecided

theorem Filter.isFor_ofNames (kind : FilterKind) (names : List String) : (ofNames kind names).IsFor kind :=
  ⟨rfl, by simp [ofNames]⟩

theorem Filter.isFor_ofPatterns (patterns : List String) : (ofPatterns patterns).IsFor .types :=
  ⟨rfl, by simp [ofPatterns]⟩

/-- The steps are ready-made, the filters are for what they filter, and the rules for names can be used. -/
structure Config.IsRegular (cfg : Config) : Prop where
  typeSteps : ∀ step ∈ cfg.typeSteps, step = .soapArrays
  declarationSteps : ∀ step ∈ cfg.declarationSteps, step = .flatten
  attributeFilter : ∀ f ∈ cfg.attributeFilter?, f.IsFor .attributes
  elementFilter : ∀ f ∈ cfg.elementFilter?, f.IsFor .elements
  typeFilter : ∀ f ∈ cfg.typeFilter?, f.IsFor .types
  rules : ∀ slot, ∀ rule ∈ cfg.rules slot, rule.IsUsable

def Setting.IsRegular : Setting → Prop
  | .sink _ | .level _ | .package _ => True
  | .typeSteps steps => ∀ step ∈ steps, step = .soapArrays
  | .declarationSteps steps => ∀ step ∈ steps, step = .flatten
  | .attributeFilter filter? => ∀ f ∈ filter?, f.IsFor .attributes
  | .elementFilter filter? => ∀ f ∈ filter?, f.IsFor .elements
  | .typeFilter filter? => ∀ f ∈ filter?, f.IsFor .types
  | .rules _ rs => ∀ rule ∈ rs, rule.IsUsable

/-- A directive that neither brings a step of its own nor puts back former values, nor a rule for names that
cannot be used. -/
def Directive.IsOrdinary : Directive → Prop
  | .errorLog _ _ | .packageName _ | .ignoreAttributes _ | .ignoreElements _ | .onlyTypes _ => True
  | .nameRule rule => rule.IsUsable
  | .typeStep step => step = .soapArrays
  | .declarationStep step => step = .flatten
  | .restore _ => False

namespace Config

variable {cfg : Config}

def built (unmapped : List Builtin) (directives : List Directive) : Config :=
  ({ empty with unmapped := unmapped }.option directives).1

theorem isRegular_empty (unmapped : List Builtin) : ({ empty with unmapped := unmapped } : Config).IsRegular where
  typeSteps := by simp [empty]
  declarationSteps := by simp [empty]
  attributeFilter := by simp [empty]
  elementFilter := by simp [empty]
  typeFilter := by simp [empty]
  rules slot := by cases slot <;> simp [empty, rules]

theorem IsRegular.set (h : cfg.IsRegular) {setting : Setting} (hs : setting.IsRegular)
    : (cfg.set setting).IsRegular := by
  cases setting with
  | sink installed => exact { h with }
  | level level => exact { h with }
  | package package => exact { h with }
  | typeSteps steps => exact { h with typeSteps := hs }
  | declarationSteps steps => exact { h with declarationSteps := hs }
  | attributeFilter filter? => exact { h with attributeFilter := hs }
  | elementFilter filter? => exact { h with elementFilter := hs }
  | typeFilter filter? => exact { h with typeFilter := hs }
  | rules slot rs =>
    have hrules (slot' : RuleSlot) : ∀ rule ∈ (cfg.set (.rules slot rs)).rules slot', rule.IsUsable := by
      have hold := h.rules slot'
      cases slot <;> cases slot' <;> first | exact hs | exact hold
    cases slot <;> exact { h with rules := hrules }

theorem IsRegular.changes (h : cfg.IsRegular) {d : Directive} (hd : d.IsOrdinary)
    : ∀ setting ∈ d.changes cfg, setting.IsRegular := by
  cases d with
  | errorLog installed level => simp [Directive.changes, Setting.IsRegular]
  | packageName name => simp [Directive.changes, Setting.IsRegular]
  | ignoreAttributes names => simp [Directive.changes, Setting.IsRegular, Filter.isFor_ofNames]
  | ignoreElements names => simp [Directive.changes, Setting.IsRegular, Filter.isFor_ofNames]
  | onlyTypes patterns => simp [Directive.changes, Setting.IsRegular, Filter.isFor_ofPatterns]
  | nameRule rule =>
    have hold := h.rules rule.slot
    simp only [Directive.changes, List.forall_mem_singleton, Setting.IsRegular, List.forall_mem_append]
    exact ⟨hold, hd⟩
  | typeStep step =>
    simp only [Directive.changes, List.forall_mem_singleton, Setting.IsRegular, List.forall_mem_append]
    exact ⟨h.typeSteps, hd⟩
  | declarationStep step =>
    simp only [Directive.changes, List.forall_mem_singleton, Setting.IsRegular, List.forall_mem_append]
    exact ⟨h.declarationSteps, hd⟩
  | restore s => exact hd.elim

theorem IsRegular.foldl_set (h : cfg.IsRegular) {settings : List Setting}
    (hs : ∀ setting ∈ settings, setting.IsRegular)
    : (settings.foldl Config.set cfg).IsRegular := by
  induction settings generalizing cfg with
  | nil => exact h
  | cons setting settings ih =>
    rw [List.forall_mem_cons] at hs
    exact ih (h.set hs.1) hs.2

/-- A configuration stays regular under all ordinary directives. -/
theorem IsRegular.option (h : cfg.IsRegular) {ds : List Directive} (hds : ∀ d ∈ ds, d.IsOrdinary)
    : (cfg.option ds).1.IsRegular := by
  unfold Config.option
  -- What is put back later does not matter for the configuration, so it may be anything.
  generalize (⟨[]⟩ : Snapshot) = earliest
  induction ds generalizing cfg earliest with
  | nil => exact h
  | cons d ds ih =>
    rw [List.forall_mem_cons] at hds
    exact ih (h.foldl_set (h.changes hds.1)) hds.2 _

theorem isRegular_built (unmapped : List Builtin) {directives : List Directive}
    (h : ∀ d ∈ directives, d.IsOrdinary)
    : (built unmapped directives).IsRegular :=
  (isRegular_empty unmapped).option h

end Config

theorem Directive.isOrdinary_of_mem_defaults {d : Directive} (h : d ∈ defaults) : d.IsOrdinary := by
  simp only [defaults, List.mem_cons, List.not_mem_nil, or_false] at h
  obtain rfl | rfl | rfl | rfl | rfl := h
  . trivial
  . exact NameRule.isUsable_of_backslash_not_mem (by simp [NameRule.of])
  . trivial
  . rfl
  . rfl

end XmlBinding
