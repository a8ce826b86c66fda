import Mathlib.Data.List.Induction
import XmlBinding.Config.Names
import XmlBinding.Generate.Drafts
import XmlBinding.Generate.Step
import XmlBinding.Proofs.Config.Snapshot
import XmlBinding.Proofs.Except
import XmlBinding.Proofs.Report

/-!
This module contains what directives come to one after another. Rules and steps run in the order in which they were
installed, each slot by itself, and of all other values the last one counts. It makes no difference how the
directives were mixed and grouped.
-/

namespace XmlBinding

open Text

/-! ### What is installed -/

namespace Directive

def sink? : Directive → Option Bool
  | .errorLog installed _ => some installed
  | _ => none

def level? : Directive → Option Int
  | .errorLog _ level => some level
  | _ => none

def package? : Directive → Option String
  | .packageName name => some name
  | _ => none

def attributeFilter? : Directive → Option (Option Filter)
  | .ignoreAttributes names => some (some (.ofNames .attributes names))
  | _ => none

def elementFilter? : Directive → Option (Option Filter)
  | .ignoreElements names => some (some (.ofNames .elements names))
  | _ => none

def typeFilter? : Directive → Option (Option Filter)
  | .onlyTypes patterns => some (some (.ofPatterns patterns))
  | _ => none

def typeStep? : Directive → Option TypeStep
  | .typeStep step => some step
  | _ => none

def declarationStep? : Directive → Option DeclarationStep
  | .declarationStep step => some step
  | _ => none

def rule? (slot : RuleSlot) : Directive → Option NameRule
  | .nameRule rule => if rule.slot = slot then some rule else none
  | _ => none

/-- What counts for a slot: the directives after the last snapshot with a value for it, and the configuration that this
snapshot makes. -/
def since (slot : Slot) (ds : List Directive) : Config × List Directive :=
  ds.foldl
    (fun counting d =>
      match d with
      | .restore s =>
        if slot ∈ s.slots then ((Config.empty.restore s).1, []) else (counting.1, counting.2 ++ [.restore s])
      | d => (counting.1, counting.2 ++ [d]))
    (.empty, [])

/-- All values for a slot, in order. -/
def chain {α : Type} (slot : Slot) (former : Config → List α) (value? : Directive → Option α) (ds : List Directive) :
    List α :=
  former (since slot ds).1 ++ (since slot ds).2.filterMap value?

/-- The last value for a slot. -/
def last {α : Type} (slot : Slot) (former : Config → α) (value? : Directive → Option α) (ds : List Directive) : α :=
  ((since slot ds).2.filterMap value?).getLast?.getD (former (since slot ds).1)

/-- What is installed in a slot: all rules or steps for it, or else the last value for it. -/
def installed (ds : List Directive) : Slot → Setting
  | .sink => .sink (last .sink (·.hasSink) sink? ds)
  | .level => .level (last .level (·.level) level? ds)
  | .package => .package (last .package (·.package) package? ds)
  | .attributeFilter => .attributeFilter (last .attributeFilter (·.attributeFilter?) attributeFilter? ds)
  | .elementFilter => .elementFilter (last .elementFilter (·.elementFilter?) elementFilter? ds)
  | .typeFilter => .typeFilter (last .typeFilter (·.typeFilter?) typeFilter? ds)
  | .typeSteps => .typeSteps (chain .typeSteps (·.typeSteps) typeStep? ds)
  | .declarationSteps => .declarationSteps (chain .declarationSteps (·.declarationSteps) declarationStep? ds)
  | .rules slot => .rules slot (chain (.rules slot) (·.rules slot) (rule? slot) ds)

variable {cfg : Config} {ds : List Directive} {d : Directive} {slot : Slot}

theorem since_append_of_not_mem (h : slot ∉ d.slots) (ds : List Directive)
    : since slot (ds ++ [d]) = ((since slot ds).1, (since slot ds).2 ++ [d]) := by
  unfold since
  rw [List.foldl_append]
  cases d with
  | restore s => exact if_neg h
  | _ => rfl

theorem since_append_of_ne_restore (h : ∀ s, d ≠ .restore s) (slot : Slot) (ds : List Directive)
    : since slot (ds ++ [d]) = ((since slot ds).1, (since slot ds).2 ++ [d]) := by
  unfold since
  rw [List.foldl_append]
  cases d with
  | restore s => exact absurd rfl (h s)
  | _ => rfl

theorem since_append_restore {s : Snapshot} (h : slot ∈ s.slots) (ds : List Directive)
    : since slot (ds ++ [.restore s]) = ((Config.empty.restore s).1, []) := by
  unfold since
  rw [List.foldl_append]
  exact if_pos h

theorem setting_apply_of_not_mem (h : slot ∉ d.slots) (cfg : Config)
    : (d.apply cfg).1.setting slot = cfg.setting slot := by
  apply Config.setting_foldl_set_of_not_mem
  rw [d.map_slot_changes]
  exact h

section Values

variable {α : Type} {value? : Directive → Option α}

theorem chain_append_of_none {former : Config → List α} (h : slot ∉ d.slots) (hvalue : value? d = none)
    : chain slot former value? (ds ++ [d]) = chain slot former value? ds := by
  unfold chain
  rw [since_append_of_not_mem h]
  simp [hvalue]

theorem last_append_of_none {former : Config → α} (h : slot ∉ d.slots) (hvalue : value? d = none)
    : last slot former value? (ds ++ [d]) = last slot former value? ds := by
  unfold last
  rw [since_append_of_not_mem h]
  simp [hvalue]

theorem chain_append_of_some {former : Config → List α} (value? : Directive → Option α) {a : α}
    (h : ∀ s, d ≠ .restore s) (hvalue : value? d = some a)
    : chain slot former value? (ds ++ [d]) = chain slot former value? ds ++ [a] := by
  unfold chain
  rw [since_append_of_ne_restore h]
  simp [hvalue]

theorem last_append_of_some {former : Config → α} (value? : Directive → Option α) {a : α}
    (h : ∀ s, d ≠ .restore s) (hvalue : value? d = some a)
    : last slot former value? (ds ++ [d]) = a := by
  unfold last
  rw [since_append_of_ne_restore h]
  simp [hvalue]

end Values

theorem installed_append_of_not_mem (h : slot ∉ d.slots) (ds : List Directive)
    : installed (ds ++ [d]) slot = installed ds slot := by
  cases slot with
  | sink =>
    refine congrArg Setting.sink (last_append_of_none h ?_)
    cases d with
    | errorLog _ _ => exact absurd (.head _) h
    | _ => rfl
  | level =>
    refine congrArg Setting.level (last_append_of_none h ?_)
    cases d with
    | errorLog _ _ => exact absurd (.tail _ (.head _)) h
    | _ => rfl
  | package =>
    refine congrArg Setting.package (last_append_of_none h ?_)
    cases d with
    | packageName _ => exact absurd (.head _) h
    | _ => rfl
  | attributeFilter =>
    refine congrArg Setting.attributeFilter (last_append_of_none h ?_)
    cases d with
    | ignoreAttributes _ => exact absurd (.head _) h
    | _ => rfl
  | elementFilter =>
    refine congrArg Setting.elementFilter (last_append_of_none h ?_)
    cases d with
    | ignoreElements _ => exact absurd (.head _) h
    | _ => rfl
  | typeFilter =>
    refine congrArg Setting.typeFilter (last_append_of_none h ?_)
    cases d with
    | onlyTypes _ => exact absurd (.head _) h
    | _ => rfl
  | typeSteps =>
    refine congrArg Setting.typeSteps (chain_append_of_none h ?_)
    cases d with
    | typeStep _ => exact absurd (.head _) h
    | _ => rfl
  | declarationSteps =>
    refine congrArg Setting.declarationSteps (chain_append_of_none h ?_)
    cases d with
    | declarationStep _ => exact absurd (.head _) h
    | _ => rfl
  | rules slot =>
    refine congrArg (Setting.rules slot) (chain_append_of_none h ?_)
    cases d with
    | nameRule rule =>
      apply if_neg
      rintro rfl
      exact h (.head _)
    | _ => rfl

theorem installed_append_restore {s : Snapshot} (h : slot ∈ s.slots) (ds : List Directive)
    : installed (ds ++ [.restore s]) slot = (Config.empty.restore s).1.setting slot := by
  have hsince := since_append_restore h ds
  cases slot <;> simp [installed, chain, last, hsince, Config.setting]

/-- What a directive writes into a slot is what is installed there with it, if that was so before. -/
theorem eq_installed_of_mem_changes (hd : ∀ s, d ≠ .restore s) {setting : Setting} (h : setting ∈ d.changes cfg)
    (hbefore : cfg.setting setting.slot = installed ds setting.slot)
    : setting = installed (ds ++ [d]) setting.slot := by
  cases d with
  | restore s => exact absurd rfl (hd s)
  | errorLog on level =>
    simp only [changes, List.mem_cons, List.not_mem_nil, or_false] at h
    obtain rfl | rfl := h
    . exact congrArg Setting.sink (last_append_of_some sink? hd rfl).symm
    . exact congrArg Setting.level (last_append_of_some level? hd rfl).symm
  | packageName name =>
    obtain rfl := List.mem_singleton.mp h
    exact congrArg Setting.package (last_append_of_some package? hd rfl).symm
  | ignoreAttributes names =>
    obtain rfl := List.mem_singleton.mp h
    exact congrArg Setting.attributeFilter (last_append_of_some attributeFilter? hd rfl).symm
  | ignoreElements names =>
    obtain rfl := List.mem_singleton.mp h
    exact congrArg Setting.elementFilter (last_append_of_some elementFilter? hd rfl).symm
  | onlyTypes patterns =>
    obtain rfl := List.mem_singleton.mp h
    exact congrArg Setting.typeFilter (last_append_of_some typeFilter? hd rfl).symm
  | nameRule rule =>
    obtain rfl := List.mem_singleton.mp h
    rw [(Setting.rules.inj hbefore).2]
    exact congrArg (Setting.rules rule.slot) (chain_append_of_some (rule? rule.slot) hd (if_pos rfl)).symm
  | typeStep step =>
    obtain rfl := List.mem_singleton.mp h
    rw [Setting.typeSteps.inj hbefore]
    exact congrArg Setting.typeSteps (chain_append_of_some typeStep? hd rfl).symm
  | declarationStep step =>
    obtain rfl := List.mem_singleton.mp h
    rw [Setting.declarationSteps.inj hbefore]
    exact congrArg Setting.declarationSteps (chain_append_of_some declarationStep? hd rfl).symm

end Directive

namespace Config

open Directive

/-- The setting of a slot only depends on the directives for that slot. -/
theorem setting_option (ds : List Directive) (slot : Slot) : (empty.option ds).1.setting slot = installed ds slot := by
  induction ds using List.reverseRecOn with
  | nil =>
    rw [option_nil]
    cases slot with
    | rules slot => cases slot <;> rfl
    | _ => rfl
  | append_singleton ds d ih =>
    have happly : (empty.option (ds ++ [d])).1 = (d.apply (empty.option ds).1).1 := by
      rw [option_append]
      rfl
    rw [happly]
    by_cases hslot : slot ∈ d.slots
    . by_cases hd : ∃ s, d = .restore s
      . obtain ⟨s, rfl⟩ := hd
        rw [installed_append_restore hslot]
        exact setting_foldl_set_congr hslot _ _
      . apply setting_foldl_set_of_forall
        . rw [d.map_slot_changes]
          exact hslot
        . rintro setting hsetting rfl
          exact eq_installed_of_mem_changes (fun s hs => hd ⟨s, hs⟩) hsetting ih
    . rw [setting_apply_of_not_mem hslot]
      rw [installed_append_of_not_mem hslot]
      exact ih

theorem foldl_option (groups : List (List Directive)) (cfg : Config)
    : groups.foldl (fun cfg ds => (cfg.option ds).1) cfg = (cfg.option groups.flatten).1 := by
  induction groups generalizing cfg with
  | nil => rfl
  | cons ds groups ih =>
    rw [List.foldl_cons]
    rw [ih]
    rw [List.flatten_cons]
    rw [option_append]

end Config

/-! ### Names -/

namespace NameRule

/-- The name after a rule. A rule with a pattern that cannot be used leaves it as it is. -/
def rewrite (name : String) (rule : NameRule) : Except Fault String :=
  match rule.regex with
  | .error _ => .ok name
  | .ok regex =>
    match regex.replace rule.replacement.toList name.toList with
    | .error e => .error (.pattern e)
    | .ok cs => .ok (String.ofList cs)

/-- What is told of a rule with a pattern that cannot be used. -/
def complaint? (rule : NameRule) : Option Notice :=
  match rule.regex with
  | .error e => some (.invalidRule rule.pattern rule.slot.optionName e)
  | .ok _ => none

variable {rules : List NameRule} {name : String}

theorem apply_eq (rule : NameRule) (name : String) : rule.apply name = ⟨rewrite name rule, rule.complaint?.toList⟩ := by
  unfold apply rewrite complaint?
  cases rule.regex with
  | error e => rfl
  | ok regex =>
    dsimp only
    cases regex.replace rule.replacement.toList name.toList with
    | error e => rfl
    | ok cs => rfl

theorem complaint?_eq_none_of_rewrite_eq_error {rule : NameRule} {e : Fault} (h : rewrite name rule = .error e)
    : rule.complaint? = none := by
  unfold rewrite at h
  unfold complaint?
  cases hregex : rule.regex with
  | error _ =>
    rw [hregex] at h
    cases h
  | ok _ => rfl

theorem applyAll_cons (rule : NameRule) (rules : List NameRule) (name : String)
    : applyAll (rule :: rules) name = rule.apply name >>= applyAll rules :=
  rfl

/-- Each rule that cannot be used is told of once, in the order of the rules. -/
theorem applyAll_of_ok {s : String} (h : rules.foldlM rewrite name = .ok s)
    : applyAll rules name = ⟨.ok s, rules.filterMap complaint?⟩ := by
  induction rules generalizing name with
  | nil =>
    rw [← Except.ok.inj h]
    rfl
  | cons rule rules ih =>
    rw [List.foldlM_cons] at h
    obtain ⟨next, hnext, hrest⟩ := bind_eq_ok_iff.mp h
    have happly : (rule.apply name).result = .ok next := by
      rw [apply_eq]
      exact hnext
    rw [applyAll_cons]
    rw [Report.bind_of_ok happly]
    rw [ih hrest]
    rw [apply_eq]
    cases hcomplaint : rule.complaint? <;> simp [hcomplaint]

/-- A replacement that fails ends the chain. What was told of the rules before it has been told. -/
theorem applyAll_of_error {e : Fault} (h : rules.foldlM rewrite name = .error e)
    : ∃ before rule after s, rules = before ++ rule :: after ∧ before.foldlM rewrite name = .ok s ∧
        rewrite s rule = .error e ∧ applyAll rules name = ⟨.error e, before.filterMap complaint?⟩ := by
  induction rules generalizing name with
  | nil => cases h
  | cons rule rules ih =>
    rw [List.foldlM_cons] at h
    rw [applyAll_cons]
    rw [apply_eq]
    cases hnext : rewrite name rule with
    | error e' =>
      rw [hnext] at h
      obtain rfl := Except.error.inj h
      refine ⟨[], rule, rules, name, rfl, rfl, hnext, ?_⟩
      rw [Report.bind_of_error rfl]
      rw [complaint?_eq_none_of_rewrite_eq_error hnext]
      rfl
    | ok next =>
      rw [hnext] at h
      obtain ⟨before, failing, after, s, rfl, hbefore, hfailing, htold⟩ := ih h
      refine ⟨rule :: before, failing, after, s, rfl, ?_, hfailing, ?_⟩
      . rw [List.foldlM_cons]
        rw [hnext]
        exact hbefore
      . rw [Report.bind_of_ok rfl]
        rw [htold]
        cases hcomplaint : rule.complaint? <;> simp [hcomplaint]

theorem tier_of_mem_complaints {n : Notice} (h : n ∈ rules.filterMap complaint?) : n.tier = .info := by
  obtain ⟨rule, -, hrule⟩ := List.mem_filterMap.mp h
  unfold complaint? at hrule
  cases hregex : rule.regex with
  | error e =>
    rw [hregex] at hrule
    rw [← Option.some.inj hrule]
    rfl
  | ok regex =>
    rw [hregex] at hrule
    cases hrule

end NameRule

namespace Config

open NameRule Text

variable {cfg : Config} {slot? : Option RuleSlot} {name : QName}

/-- The rules that a name runs through. -/
def nameRules (cfg : Config) (slot? : Option RuleSlot) : List NameRule :=
  cfg.allRules ++ (slot?.map cfg.rules).getD []

/-- What becomes of a name after the last rule. -/
def finishName (localPart s : String) : Report String :=
  if s.isEmpty then
    ⟨.ok "_", if localPart.isEmpty then [] else [.emptyName localPart]⟩
  else
    ⟨.ok (String.ofList (lowerFirst s.toList)), []⟩

theorem privateName_eq (cfg : Config) (slot? : Option RuleSlot) (name : QName)
    : cfg.privateName slot? name = applyAll (cfg.nameRules slot?) name.localPart >>= finishName name.localPart := by
  unfold nameRules applyAll
  rw [List.foldlM_append]
  rw [bind_assoc]
  unfold privateName
  congr 1
  funext general
  congr 1
  funext special
  unfold finishName
  cases special.isEmpty with
  | false => rfl
  | true => cases name.localPart.isEmpty <;> rfl

theorem privateName_of_ok {s : String} (h : (cfg.nameRules slot?).foldlM rewrite name.localPart = .ok s)
    : cfg.privateName slot? name =
        ⟨.ok (if s = "" then "_" else String.ofList (lowerFirst s.toList)),
          (cfg.nameRules slot?).filterMap complaint? ++
            if s = "" ∧ name.localPart ≠ "" then [.emptyName name.localPart] else []⟩ := by
  rw [privateName_eq]
  rw [applyAll_of_ok h]
  rw [Report.bind_of_ok rfl]
  unfold finishName
  by_cases hs : s = "" <;> by_cases hname : name.localPart = "" <;> simp [hs, hname]

theorem privateName_of_error {e : Fault} (h : (cfg.nameRules slot?).foldlM rewrite name.localPart = .error e)
    : ∃ before rule after s, cfg.nameRules slot? = before ++ rule :: after ∧
        before.foldlM rewrite name.localPart = .ok s ∧ rewrite s rule = .error e ∧
        cfg.privateName slot? name = ⟨.error e, before.filterMap complaint?⟩ := by
  obtain ⟨before, rule, after, s, hrules, hbefore, hrule, htold⟩ := applyAll_of_error h
  refine ⟨before, rule, after, s, hrules, hbefore, hrule, ?_⟩
  rw [privateName_eq]
  rw [htold]
  rw [Report.bind_of_error rfl]

theorem tier_of_mem_privateName {n : Notice} (h : n ∈ (cfg.privateName slot? name).notices) : n.tier = .info := by
  cases hresult : (cfg.nameRules slot?).foldlM rewrite name.localPart with
  | ok s =>
    rw [privateName_of_ok hresult] at h
    cases List.mem_append.mp h with
    | inl hrule => exact tier_of_mem_complaints hrule
    | inr hempty =>
      split at hempty
      . rw [List.mem_singleton.mp hempty]
        rfl
      . cases hempty
  | error e =>
    obtain ⟨before, rule, after, s, -, -, -, htold⟩ := privateName_of_error hresult
    rw [htold] at h
    exact tier_of_mem_complaints h

/-- A sink takes all of it from level one on. -/
theorem delivered_privateName (cfg : Config) (slot? : Option RuleSlot) (name : QName)
    : cfg.delivered (cfg.privateName slot? name).notices =
        if cfg.hasSink ∧ 0 < cfg.level then (cfg.privateName slot? name).notices else [] := by
  have hinfo : (cfg.privateName slot? name).notices.filter (·.tier.isOn cfg.level) =
      (cfg.privateName slot? name).notices.filter fun _ => decide (0 < cfg.level) := by
    apply List.filter_congr
    intro n hn
    rw [tier_of_mem_privateName hn]
    rfl
  unfold delivered
  rw [hinfo]
  by_cases hsink : cfg.hasSink = true <;> by_cases hlevel : 0 < cfg.level <;> simp [hsink, hlevel]

end Config

/-! ### Steps -/

namespace Generate

theorem preprocess_eq_foldlM (find? : QName → Option TypeRef) (steps : List TypeStep) (r? : Option TypeRef)
    : preprocess find? steps r? = steps.foldlM (runTypeStep find?) r? := by
  induction steps generalizing r? with
  | nil => rfl
  | cons step steps ih =>
    rw [List.foldlM_cons]
    unfold preprocess
    simp only [ih]

theorem postprocess_eq_foldlM (steps : List DeclarationStep) (d : Declaration)
    : postprocess steps d = steps.foldlM runDeclarationStep d := by
  induction steps generalizing d with
  | nil => rfl
  | cons step steps ih =>
    rw [List.foldlM_cons]
    unfold postprocess
    simp only [ih]

end Generate

/-! ### Runs of directives -/

namespace Config

open Directive Generate NameRule Text

/-- The rules that are installed for names of a slot. -/
def installedRules (ds : List Directive) (slot? : Option RuleSlot) : List NameRule :=
  rulesFor .all ++ (slot?.map rulesFor).getD []
where
  rulesFor (slot : RuleSlot) : List NameRule :=
    chain (.rules slot) (·.rules slot) (rule? slot) ds

theorem nameRules_option (ds : List Directive) (slot? : Option RuleSlot)
    : (empty.option ds).1.nameRules slot? = installedRules ds slot? := by
  have hrules (slot : RuleSlot) : (empty.option ds).1.rules slot = installedRules.rulesFor ds slot :=
    (Setting.rules.inj (setting_option ds (.rules slot))).2
  have hall : (empty.option ds).1.allRules = installedRules.rulesFor ds .all := hrules .all
  unfold nameRules installedRules
  rw [hall]
  cases slot? with
  | none => rfl
  | some slot =>
    rw [Option.map_some]
    rw [hrules slot]
    rfl

/-- Directives come to the same in whichever groups they are given. Of a slot for one value the last one counts. A
name runs through all general rules and then through those for its kind, and each rule that cannot be used leaves it
alone and is told of. Types and declarations run through all of their steps. -/
theorem foldl_option_installs (groups : List (List Directive))
    : let ds := groups.flatten
      let cfg := groups.foldl (fun cfg ds => (cfg.option ds).1) empty
      (∀ slot, cfg.setting slot = installed ds slot) ∧
        (∀ slot? name,
          (∀ s, (installedRules ds slot?).foldlM rewrite name.localPart = .ok s →
            cfg.privateName slot? name =
              ⟨.ok (if s = "" then "_" else String.ofList (lowerFirst s.toList)),
                (installedRules ds slot?).filterMap complaint? ++
                  if s = "" ∧ name.localPart ≠ "" then [.emptyName name.localPart] else []⟩) ∧
          (∀ e, (installedRules ds slot?).foldlM rewrite name.localPart = .error e →
            ∃ before rule after s, installedRules ds slot? = before ++ rule :: after ∧
              before.foldlM rewrite name.localPart = .ok s ∧ rewrite s rule = .error e ∧
              cfg.privateName slot? name = ⟨.error e, before.filterMap complaint?⟩) ∧
          cfg.delivered (cfg.privateName slot? name).notices =
            if cfg.hasSink ∧ 0 < cfg.level then (cfg.privateName slot? name).notices else []) ∧
        (∀ find? r?,
          preprocess find? cfg.typeSteps r? =
            (chain .typeSteps (·.typeSteps) typeStep? ds).foldlM (runTypeStep find?) r?) ∧
        (∀ d,
          postprocess cfg.declarationSteps d =
            (chain .declarationSteps (·.declarationSteps) declarationStep? ds).foldlM runDeclarationStep d) := by
  intro ds cfg
  have hcfg : cfg = (empty.option ds).1 := foldl_option groups empty
  rw [hcfg]
  refine ⟨setting_option ds, ?_, ?_, ?_⟩
  . intro slot? name
    rw [← nameRules_option ds slot?]
    exact ⟨fun s h => privateName_of_ok h, fun e h => privateName_of_error h, delivered_privateName _ slot? name⟩
  . intro find? r?
    have hsteps := Setting.typeSteps.inj (setting_option ds .typeSteps)
    rw [hsteps]
    exact preprocess_eq_foldlM find? _ r?
  . intro d
    have hsteps := Setting.declarationSteps.inj (setting_option ds .declarationSteps)
    rw [hsteps]
    exact postprocess_eq_foldlM _ d

/-- Directives for several slots, mixed, with a pattern that cannot be used and a snapshot among them. -/
def mixed : List (List Directive) :=
  [[.nameRule (.of .types "Bar" "Baz"), .errorLog true 1, .onlyTypes ["A"]],
    [],
    [.nameRule (.of .all "Foo" "Bar"), .packageName "first", .typeStep .soapArrays, .typeStep (.toNothing (some "A"))],
    [.declarationStep .flatten, .restore ⟨[.package "", .declarationSteps []]⟩, .declarationStep .upper],
    [.nameRule (.of .all "(" ""), .onlyTypes ["B", "C"], .declarationStep .flatten]]

theorem foldl_option_installs_mixed
    : let cfg := mixed.foldl (fun cfg ds => (cfg.option ds).1) empty
      let told := [.invalidRule "(" "replace_all_names" (.malformed .unterminatedGroup (some ⟨['('], 0⟩))]
      cfg.privateName (some .types) ⟨"", "Foo"⟩ = ⟨.ok "baz", told⟩ ∧
        cfg.privateName (some .elements) ⟨"", "Foo"⟩ = ⟨.ok "bar", told⟩ ∧
        cfg.delivered told = told ∧
        cfg.package = "" ∧ cfg.typeFilter? = some (.ofPatterns ["B", "C"]) ∧
        (∀ find? r?,
          preprocess find? cfg.typeSteps r? =
            [.soapArrays, .toNothing (some "A")].foldlM (runTypeStep find?) r?) ∧
        ∀ d, postprocess cfg.declarationSteps d = [.upper, .flatten].foldlM runDeclarationStep d := by
  intro cfg told
  obtain ⟨hsettings, hnames, htypeSteps, hdeclarationSteps⟩ := foldl_option_installs mixed
  have htype : cfg.privateName (some .types) ⟨"", "Foo"⟩ = ⟨.ok "baz", told⟩ :=
    (hnames (some .types) ⟨"", "Foo"⟩).1 "Baz" (eq_ok_of_toOption (by decide +kernel))
  have helement : cfg.privateName (some .elements) ⟨"", "Foo"⟩ = ⟨.ok "bar", told⟩ :=
    (hnames (some .elements) ⟨"", "Foo"⟩).1 "Bar" (eq_ok_of_toOption (by decide +kernel))
  refine ⟨htype, helement, ?_, ?_, ?_, htypeSteps, hdeclarationSteps⟩
  . have htold := (hnames (some .types) ⟨"", "Foo"⟩).2.2
    rw [htype] at htold
    exact htold
  . exact Setting.package.inj (hsettings .package)
  . exact Setting.typeFilter.inj (hsettings .typeFilter)

end Config

end XmlBinding
