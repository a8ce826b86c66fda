import XmlBinding.Config.Names
import XmlBinding.Proofs.Config.Snapshot
import XmlBinding.Proofs.Report

/-!
This module contains that names, types and filters do not depend on where notices go, and what is heard of the notices
at a level.
-/

namespace XmlBinding

/-! ### What is left without the settings for notices -/

namespace Slot

/-- The slots that decide which notices are delivered. -/
def isLogging : Slot → Bool
  | .sink | .level => true
  | _ => false

end Slot

def Snapshot.silent (s : Snapshot) : Snapshot :=
  ⟨s.settings.filter fun setting => !setting.slot.isLogging⟩

/-- What a directive does to all other slots. -/
def Directive.silent? : Directive → Option Directive
  | .errorLog _ _ => none
  | .restore s => some (.restore s.silent)
  | d => some d

namespace Config

/-- The same configuration without a sink, at level zero. -/
def silent (cfg : Config) : Config :=
  { cfg with hasSink := false, level := 0 }

variable {cfg cfg' : Config}

theorem silent_set_of_isLogging {setting : Setting} (h : setting.slot.isLogging = true)
    : (cfg.set setting).silent = cfg.silent := by
  cases setting with
  | sink _ => rfl
  | level _ => rfl
  | _ => cases h

theorem silent_set_of_not_isLogging {setting : Setting} (h : setting.slot.isLogging = false)
    : (cfg.set setting).silent = cfg.silent.set setting := by
  cases setting with
  | sink _ => cases h
  | level _ => cases h
  | rules slot rs => cases slot <;> rfl
  | _ => rfl

theorem silent_foldl_set (settings : List Setting) (cfg : Config)
    : (settings.foldl set cfg).silent =
        (settings.filter fun setting => !setting.slot.isLogging).foldl set cfg.silent := by
  induction settings generalizing cfg with
  | nil => rfl
  | cons setting settings ih =>
    rw [List.foldl_cons]
    rw [ih]
    cases h : setting.slot.isLogging with
    | true =>
      rw [List.filter_cons_of_neg (by simp [h])]
      rw [silent_set_of_isLogging h]
    | false =>
      rw [List.filter_cons_of_pos (by simp [h])]
      rw [List.foldl_cons]
      rw [silent_set_of_not_isLogging h]

theorem silent_apply (d : Directive) (cfg : Config)
    : (d.apply cfg).1.silent = d.silent?.elim cfg.silent fun d => (d.apply cfg.silent).1 := by
  cases d with
  | restore s => exact silent_foldl_set s.settings cfg
  | nameRule rule =>
    obtain ⟨slot, pattern, replacement, regex⟩ := rule
    cases slot <;> rfl
  | _ => rfl

/-- Directives do the same to all other slots, whatever the settings for notices are. -/
theorem silent_option (ds : List Directive) (cfg : Config)
    : (cfg.option ds).1.silent = (cfg.silent.option (ds.filterMap Directive.silent?)).1 := by
  induction ds generalizing cfg with
  | nil => rfl
  | cons d ds ih =>
    have happly := silent_apply d cfg
    rw [option_cons]
    dsimp only
    rw [ih]
    rw [happly]
    cases hd : d.silent? with
    | none =>
      rw [List.filterMap_cons_none hd]
      rfl
    | some d' =>
      rw [List.filterMap_cons_some hd]
      rw [option_cons]
      rfl

/-! ### Names and filters -/

@[simp]
theorem rules_silent (cfg : Config) (slot : RuleSlot) : cfg.silent.rules slot = cfg.rules slot := by
  cases slot <;> rfl

theorem privateName_silent (cfg : Config) (slot? : Option RuleSlot) (name : QName)
    : cfg.silent.privateName slot? name = cfg.privateName slot? name := by
  have hrules : cfg.silent.rules = cfg.rules := funext (rules_silent cfg)
  unfold privateName
  rw [hrules]
  rfl

theorem publicName_silent (cfg : Config) (slot? : Option RuleSlot) (name : QName)
    : cfg.silent.publicName slot? name = cfg.publicName slot? name := by
  unfold publicName
  rw [privateName_silent]

theorem typeName_silent (cfg : Config) (name : QName) : cfg.silent.typeName name = cfg.typeName name := by
  unfold typeName
  rw [publicName_silent]

theorem memberName_silent (cfg : Config) (slot : RuleSlot) (name : QName) (scope : Scope)
    : cfg.silent.memberName slot name scope = cfg.memberName slot name scope := by
  unfold memberName
  rw [privateName_silent]

theorem typeExpr_silent (cfg : Config) (s : Store) (r? : Option TypeRef)
    : cfg.silent.typeExpr s r? = cfg.typeExpr s r? := by
  unfold typeExpr
  simp only [typeName_silent]
  rfl

theorem keptMembers_silent (cfg : Config) (s : Store) (t : ComplexType)
    : cfg.silent.keptMembers s t = cfg.keptMembers s t :=
  rfl

/-! ### What is heard of notices -/

variable {α β : Type}

/-- A report with those of its notices that are delivered. -/
def hear (cfg : Config) (r : Report α) : Report α :=
  ⟨r.result, cfg.delivered r.notices⟩

def hearEdit (cfg : Config) (e : Edit α) : Edit α := fun s =>
  ((e s).1, cfg.hear (e s).2)

/-- It makes no difference whether notices are tested where they are given or at the end. -/
structure HearsStepwise (cfg : Config) : Prop where
  note (n : Notice) :
    cfg.hear (Report.note n) = if cfg.hasSink && n.tier.isOn cfg.level then Report.note n else pure ()
  bind {α β : Type} (r : Report α) (f : α → Report β) :
    cfg.hear (r >>= f) = cfg.hear r >>= fun a => cfg.hear (f a)
  recover {α : Type} (r : Report α) (f : Fault → Report α) :
    cfg.hear (r.recover f) = (cfg.hear r).recover fun e => cfg.hear (f e)
  bindEdit {α β : Type} (e : Edit α) (f : α → Edit β) :
    cfg.hearEdit (e >>= f) = cfg.hearEdit e >>= fun a => cfg.hearEdit (f a)

theorem delivered_append (cfg : Config) (before after : List Notice)
    : cfg.delivered (before ++ after) = cfg.delivered before ++ cfg.delivered after := by
  unfold delivered
  split
  . rw [List.filter_append]
  . rfl

theorem hear_note (cfg : Config) (n : Notice)
    : cfg.hear (Report.note n) = if cfg.hasSink && n.tier.isOn cfg.level then Report.note n else pure () := by
  unfold hear delivered Report.note
  by_cases hsink : cfg.hasSink <;> by_cases htier : n.tier.isOn cfg.level <;> simp [hsink, htier] <;> rfl

theorem hear_bind (cfg : Config) (r : Report α) (f : α → Report β)
    : cfg.hear (r >>= f) = cfg.hear r >>= fun a => cfg.hear (f a) := by
  have hresult : (cfg.hear r).result = r.result := rfl
  cases h : r.result with
  | error e =>
    rw [Report.bind_of_error h]
    rw [Report.bind_of_error (hresult.trans h)]
    rfl
  | ok a =>
    rw [Report.bind_of_ok h]
    rw [Report.bind_of_ok (hresult.trans h)]
    unfold hear
    rw [delivered_append]

theorem hear_recover (cfg : Config) (r : Report α) (f : Fault → Report α)
    : cfg.hear (r.recover f) = (cfg.hear r).recover fun e => cfg.hear (f e) := by
  unfold Report.recover hear
  dsimp only
  split
  . rfl
  . split
    . rw [delivered_append]
    . rfl

theorem hearEdit_bind (cfg : Config) (e : Edit α) (f : α → Edit β)
    : cfg.hearEdit (e >>= f) = cfg.hearEdit e >>= fun a => cfg.hearEdit (f a) := by
  funext s
  have hheard : cfg.hearEdit e s = ((e s).1, ⟨(e s).2.result, cfg.delivered (e s).2.notices⟩) := rfl
  cases h : e s with
  | mk s' report =>
    obtain ⟨result, notices⟩ := report
    rw [h] at hheard
    cases result with
    | error fault =>
      rw [Edit.bind_of_error hheard]
      unfold hearEdit
      rw [Edit.bind_of_error h]
      rfl
    | ok a =>
      rw [Edit.bind_of_ok hheard]
      unfold hearEdit
      rw [Edit.bind_of_ok h]
      unfold hear
      rw [delivered_append]

theorem hearsStepwise (cfg : Config) : cfg.HearsStepwise where
  note := cfg.hear_note
  bind := cfg.hear_bind
  recover := cfg.hear_recover
  bindEdit := cfg.hearEdit_bind

/-- What is delivered at a level is what would be at level five, less the tiers that are off. -/
theorem delivered_eq_filter {loud : Config} (hsink : loud.hasSink = true) (hlevel : loud.level = 5) (cfg : Config)
    (notices : List Notice)
    : cfg.delivered notices =
        if cfg.hasSink then
          (loud.delivered notices).filter fun n =>
            n.tier = .error ∨ n.tier = .info ∧ 0 < cfg.level ∨ n.tier = .debug ∧ 3 < cfg.level
        else
          [] := by
  have hall : ∀ n ∈ notices, n.tier.isOn loud.level = true := by
    intro n _
    rw [hlevel]
    cases n.tier <;> rfl
  have hon : ∀ n ∈ notices, n.tier.isOn cfg.level =
      decide (n.tier = .error ∨ n.tier = .info ∧ 0 < cfg.level ∨ n.tier = .debug ∧ 3 < cfg.level) := by
    intro n _
    cases n.tier <;> simp [Tier.isOn]
  unfold delivered
  rw [hsink]
  rw [if_pos rfl]
  rw [List.filter_eq_self.mpr hall]
  rw [List.filter_congr hon]

end Config

end XmlBinding
