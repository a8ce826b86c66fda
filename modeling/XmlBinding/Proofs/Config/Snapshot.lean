import XmlBinding.Config.Directive

/-!
This module contains that changes of a configuration can be taken back. The snapshot of some directives has the
values from before the first of them, for each slot that they change and for no other one. So it leads back, and the
snapshot of going back leads forth again.
-/

namespace XmlBinding

/-- The slots that a directive changes. -/
def Directive.slots : Directive → List Slot
  | .errorLog _ _ => [.sink, .level]
  | .packageName _ => [.package]
  | .ignoreAttributes _ => [.attributeFilter]
  | .ignoreElements _ => [.elementFilter]
  | .onlyTypes _ => [.typeFilter]
  | .nameRule rule => [.rules rule.slot]
  | .typeStep _ => [.typeSteps]
  | .declarationStep _ => [.declarationSteps]
  | .restore s => s.slots

theorem Directive.map_slot_changes (cfg : Config) (d : Directive) : (d.changes cfg).map (·.slot) = d.slots := by
  cases d <;> rfl

/-! ### Settings -/

namespace Config

variable {cfg cfg' : Config} {slot : Slot} {settings : List Setting}

@[simp]
theorem slot_setting (cfg : Config) (slot : Slot) : (cfg.setting slot).slot = slot := by
  cases slot <;> rfl

theorem setting_set_self (cfg : Config) (setting : Setting) : (cfg.set setting).setting setting.slot = setting := by
  cases setting with
  | rules slot rs => cases slot <;> rfl
  | _ => rfl

theorem setting_set_of_ne {setting : Setting} (h : setting.slot ≠ slot)
    : (cfg.set setting).setting slot = cfg.setting slot := by
  cases setting with
  | rules slot' rs =>
    cases slot with
    | rules slot =>
      have hne : slot' ≠ slot := fun heq => h (congrArg Slot.rules heq)
      cases slot' <;> cases slot <;> first | rfl | exact absurd rfl hne
    | _ => cases slot' <;> rfl
  | _ => cases slot <;> first | rfl | exact absurd rfl h

theorem unmapped_set (cfg : Config) (setting : Setting) : (cfg.set setting).unmapped = cfg.unmapped := by
  cases setting with
  | rules slot rs => cases slot <;> rfl
  | _ => rfl

/-- A configuration has nothing but its settings and the builtin types that are not mapped. -/
theorem eq_of_setting_eq (h : ∀ slot, cfg.setting slot = cfg'.setting slot) (hunmapped : cfg.unmapped = cfg'.unmapped)
    : cfg = cfg' := by
  have hsink := Setting.sink.inj (h .sink)
  have hlevel := Setting.level.inj (h .level)
  have hpackage := Setting.package.inj (h .package)
  have htypeSteps := Setting.typeSteps.inj (h .typeSteps)
  have hdeclarationSteps := Setting.declarationSteps.inj (h .declarationSteps)
  have hattributes := Setting.attributeFilter.inj (h .attributeFilter)
  have helements := Setting.elementFilter.inj (h .elementFilter)
  have htypes := Setting.typeFilter.inj (h .typeFilter)
  have hrules (slot : RuleSlot) : cfg.rules slot = cfg'.rules slot := (Setting.rules.inj (h (.rules slot))).2
  have hall := hrules .all
  have htypeRules := hrules .types
  have helementRules := hrules .elements
  have hattributeRules := hrules .attributes
  cases cfg
  cases cfg'
  simp_all only [rules]

theorem setting_foldl_set_of_not_mem (h : slot ∉ settings.map (·.slot)) (cfg : Config)
    : (settings.foldl set cfg).setting slot = cfg.setting slot := by
  induction settings generalizing cfg with
  | nil => rfl
  | cons setting settings ih =>
    rw [List.map_cons] at h
    rw [List.mem_cons] at h
    rw [not_or] at h
    rw [List.foldl_cons]
    rw [ih h.2]
    exact setting_set_of_ne (Ne.symm h.1)

theorem setting_foldl_set_of_forall {value : Setting} (h : slot ∈ settings.map (·.slot))
    (hvalue : ∀ setting ∈ settings, setting.slot = slot → setting = value) (cfg : Config)
    : (settings.foldl set cfg).setting slot = value := by
  induction settings generalizing cfg with
  | nil => simp at h
  | cons setting settings ih =>
    rw [List.forall_mem_cons] at hvalue
    rw [List.foldl_cons]
    by_cases hlater : slot ∈ settings.map (·.slot)
    . exact ih hlater hvalue.2 _
    . rw [List.map_cons] at h
      have hslot := (List.mem_cons.mp h).resolve_right hlater
      rw [setting_foldl_set_of_not_mem hlater]
      rw [hslot]
      rw [setting_set_self]
      exact hvalue.1 hslot.symm

theorem setting_foldl_set_congr (h : slot ∈ settings.map (·.slot)) (cfg cfg' : Config)
    : (settings.foldl set cfg).setting slot = (settings.foldl set cfg').setting slot := by
  induction settings generalizing cfg cfg' with
  | nil => simp at h
  | cons setting settings ih =>
    rw [List.foldl_cons]
    rw [List.foldl_cons]
    by_cases hlater : slot ∈ settings.map (·.slot)
    . exact ih hlater _ _
    . rw [List.map_cons] at h
      have hslot := (List.mem_cons.mp h).resolve_right hlater
      rw [setting_foldl_set_of_not_mem hlater]
      rw [setting_foldl_set_of_not_mem hlater]
      rw [hslot]
      rw [setting_set_self]
      rw [setting_set_self]

theorem unmapped_foldl_set (settings : List Setting) (cfg : Config)
    : (settings.foldl set cfg).unmapped = cfg.unmapped := by
  induction settings generalizing cfg with
  | nil => rfl
  | cons setting settings ih =>
    rw [List.foldl_cons]
    rw [ih]
    exact unmapped_set cfg setting

end Config

/-! ### Snapshots -/

namespace Snapshot

variable {s t u : Snapshot} {before between after : Config} {slot : Slot}

theorem nil_merge (s : Snapshot) : (⟨[]⟩ : Snapshot).merge s = s := by
  unfold merge
  rw [List.nil_append]
  rw [List.filter_eq_self.mpr (by simp [slots])]

theorem merge_nil (s : Snapshot) : s.merge ⟨[]⟩ = s := by
  simp [merge]

theorem slots_merge (s t : Snapshot)
    : (s.merge t).slots = s.slots ++ t.slots.filter fun slot => !s.slots.contains slot := by
  unfold merge
  rw [slots]
  rw [List.map_append]
  rw [show t.slots = t.settings.map (·.slot) from rfl]
  rw [List.filter_map]
  rfl

theorem mem_slots_merge : slot ∈ (s.merge t).slots ↔ slot ∈ s.slots ∨ slot ∈ t.slots := by
  rw [slots_merge]
  rw [List.mem_append]
  rw [List.mem_filter]
  by_cases h : slot ∈ s.slots <;> simp [h]

theorem nodup_slots_merge (hs : s.slots.Nodup) (ht : t.slots.Nodup) : (s.merge t).slots.Nodup := by
  rw [slots_merge]
  rw [List.nodup_append]
  refine ⟨hs, ht.filter _, ?_⟩
  rintro slot hslot _ hlater rfl
  have := (List.mem_filter.mp hlater).2
  simp [hslot] at this

theorem merge_assoc (s t u : Snapshot) : (s.merge t).merge u = s.merge (t.merge u) := by
  have hslots : (s.merge t).slots = s.slots ++ t.slots.filter fun slot => !s.slots.contains slot := slots_merge s t
  rw [merge]
  rw [hslots]
  unfold merge
  simp only [List.append_assoc, List.filter_append, List.filter_filter]
  congr 3
  apply List.filter_congr
  intro setting _
  by_cases hs : setting.slot ∈ s.slots <;> by_cases ht : setting.slot ∈ t.slots <;> simp [hs, ht]

/-- The snapshot has the values of `before`, and has them for all slots in which `after` is different. -/
structure LeadsBack (s : Snapshot) (before after : Config) : Prop where
  former : ∀ setting ∈ s.settings, setting = before.setting setting.slot
  others : ∀ slot, slot ∉ s.slots → after.setting slot = before.setting slot
  unmapped : after.unmapped = before.unmapped

theorem leadsBack_nil (cfg : Config) : (⟨[]⟩ : Snapshot).LeadsBack cfg cfg where
  former := by simp
  others _ _ := rfl
  unmapped := rfl

theorem slots_replace (cfg : Config) (changes : List Setting)
    : (cfg.replace changes).2.slots = changes.map (·.slot) := by
  unfold Config.replace slots
  simp

theorem leadsBack_replace (cfg : Config) (changes : List Setting)
    : (cfg.replace changes).2.LeadsBack cfg (cfg.replace changes).1 where
  former := by
    intro setting hsetting
    obtain ⟨change, -, rfl⟩ := List.mem_map.mp hsetting
    rw [Config.slot_setting]
  others := by
    intro slot hslot
    rw [slots_replace] at hslot
    exact Config.setting_foldl_set_of_not_mem hslot cfg
  unmapped := Config.unmapped_foldl_set changes cfg

/-- Of two changes of one slot the value from before the first one is kept. -/
theorem LeadsBack.merge (hs : s.LeadsBack before between) (ht : t.LeadsBack between after)
    : (s.merge t).LeadsBack before after where
  former := by
    intro setting hsetting
    cases List.mem_append.mp hsetting with
    | inl hmem => exact hs.former setting hmem
    | inr hmem =>
      obtain ⟨hmem, hnot⟩ := List.mem_filter.mp hmem
      rw [← hs.others setting.slot (by simpa using hnot)]
      exact ht.former setting hmem
  others := by
    intro slot hslot
    rw [mem_slots_merge] at hslot
    rw [not_or] at hslot
    rw [ht.others slot hslot.2]
    exact hs.others slot hslot.1
  unmapped := ht.unmapped.trans hs.unmapped

theorem LeadsBack.restore (h : s.LeadsBack before after) : (after.restore s).1 = before := by
  apply Config.eq_of_setting_eq
  . intro slot
    by_cases hslot : slot ∈ s.slots
    . apply Config.setting_foldl_set_of_forall hslot
      rintro setting hsetting rfl
      exact h.former setting hsetting
    . exact (Config.setting_foldl_set_of_not_mem hslot after).trans (h.others slot hslot)
  . exact (Config.unmapped_foldl_set s.settings after).trans h.unmapped

end Snapshot

/-! ### Directives -/

namespace Config

open Snapshot

variable {cfg : Config} {ds : List Directive}

theorem option_nil (cfg : Config) : cfg.option [] = (cfg, ⟨[]⟩) :=
  rfl

/-- What was gathered before stays in front of what the directives add. -/
theorem foldl_apply_eq (earliest : Snapshot) (cfg : Config) (ds : List Directive)
    : ds.foldl
        (fun (p : Config × Snapshot) d => ((d.apply p.1).1, p.2.merge (d.apply p.1).2))
        (cfg, earliest) =
      ((cfg.option ds).1, earliest.merge (cfg.option ds).2) := by
  induction ds generalizing earliest cfg with
  | nil =>
    rw [option_nil]
    rw [merge_nil]
    rfl
  | cons d ds ih =>
    have hcons : cfg.option (d :: ds) =
        ds.foldl
          (fun (p : Config × Snapshot) d => ((d.apply p.1).1, p.2.merge (d.apply p.1).2))
          ((d.apply cfg).1, Snapshot.merge ⟨[]⟩ (d.apply cfg).2) := rfl
    rw [List.foldl_cons]
    rw [ih]
    rw [hcons]
    rw [ih]
    rw [nil_merge]
    rw [merge_assoc]

theorem option_cons (cfg : Config) (d : Directive) (ds : List Directive)
    : cfg.option (d :: ds) =
        (((d.apply cfg).1.option ds).1, (d.apply cfg).2.merge ((d.apply cfg).1.option ds).2) := by
  refine (foldl_apply_eq (Snapshot.merge ⟨[]⟩ (d.apply cfg).2) (d.apply cfg).1 ds).trans ?_
  rw [nil_merge]

theorem option_append (cfg : Config) (ds es : List Directive)
    : cfg.option (ds ++ es) =
        (((cfg.option ds).1.option es).1, (cfg.option ds).2.merge ((cfg.option ds).1.option es).2) := by
  induction ds generalizing cfg with
  | nil => simp [option_nil, nil_merge]
  | cons d ds ih =>
    rw [List.cons_append]
    rw [option_cons]
    rw [option_cons]
    simp only [ih, merge_assoc]

theorem option_restore (cfg : Config) (s : Snapshot) : cfg.option [.restore s] = cfg.restore s := by
  rw [option_cons]
  rw [option_nil]
  rw [merge_nil]
  rfl

theorem leadsBack_option (cfg : Config) (ds : List Directive)
    : (cfg.option ds).2.LeadsBack cfg (cfg.option ds).1 := by
  induction ds generalizing cfg with
  | nil => exact leadsBack_nil cfg
  | cons d ds ih =>
    rw [option_cons]
    exact (leadsBack_replace cfg (d.changes cfg)).merge (ih _)

theorem slots_apply (cfg : Config) (d : Directive) : (d.apply cfg).2.slots = d.slots := by
  unfold Directive.apply
  rw [slots_replace]
  exact d.map_slot_changes cfg

theorem mem_slots_option {slot : Slot} : slot ∈ (cfg.option ds).2.slots ↔ ∃ d ∈ ds, slot ∈ d.slots := by
  induction ds generalizing cfg with
  | nil => simp [option_nil, slots]
  | cons d ds ih =>
    rw [option_cons]
    rw [mem_slots_merge]
    rw [slots_apply]
    rw [ih]
    simp

theorem nodup_slots_option (h : ∀ s, .restore s ∈ ds → s.slots.Nodup) (cfg : Config)
    : (cfg.option ds).2.slots.Nodup := by
  induction ds generalizing cfg with
  | nil => simp [option_nil, slots]
  | cons d ds ih =>
    rw [option_cons]
    apply nodup_slots_merge
    . rw [slots_apply]
      cases d with
      | restore s => exact h s List.mem_cons_self
      | _ => simp [Directive.slots]
    . exact ih (fun s hs => h s (List.mem_cons_of_mem d hs)) _

/-- Directives can be taken back and done again, all at once or part by part. The snapshot has exactly the slots that
they change, each of them once if that is so in the snapshots among them. -/
theorem restore_option (cfg : Config) (ds : List Directive)
    : let changed := (cfg.option ds).1
      let undo := (cfg.option ds).2
      let undone := (changed.restore undo).1
      let redo := (changed.restore undo).2
      undone = cfg ∧ (undone.restore redo).1 = changed ∧
        (∀ (cfg : Config) (s : Snapshot),
          Directive.apply cfg (.restore s) = cfg.restore s ∧ cfg.option [.restore s] = cfg.restore s) ∧
        (∀ first last, ds = first ++ last →
          let between := cfg.option first
          let final := between.1.option last
          final.1 = changed ∧ ((final.1.restore final.2).1.restore between.2).1 = undone) ∧
        (∀ slot, slot ∈ undo.slots ↔ ∃ d ∈ ds, slot ∈ d.slots) ∧ redo.slots = undo.slots ∧
        ((∀ s, .restore s ∈ ds → s.slots.Nodup) → undo.slots.Nodup) := by
  intro changed undo undone redo
  have hundone : undone = cfg := (leadsBack_option cfg ds).restore
  refine ⟨hundone, ?_, ?_, ?_, ?_, ?_, ?_⟩
  . exact (leadsBack_replace changed undo.settings).restore
  . intro cfg s
    exact ⟨rfl, option_restore cfg s⟩
  . intro first last hds
    have happend := option_append cfg first last
    rw [← hds] at happend
    refine ⟨(congrArg Prod.fst happend).symm, ?_⟩
    rw [(leadsBack_option _ last).restore]
    rw [(leadsBack_option cfg first).restore]
    exact hundone.symm
  . intro slot
    exact mem_slots_option
  . exact slots_replace changed undo.settings
  . intro h
    exact nodup_slots_option h cfg

/-- Directives that change some slots more than once, with a snapshot among them. -/
def overlapping : List Directive :=
  [.packageName "first", .errorLog true 4, .restore ⟨[.package "", .level 1]⟩, .nameRule (.of .all "x" "y"),
    .packageName "last", .nameRule (.of .all "y" "z")]

theorem restore_option_overlapping
    : let changed := (empty.option overlapping).1
      let undo := (empty.option overlapping).2
      (∀ s, .restore s ∈ overlapping → s.slots.Nodup) ∧
        changed.package = "last" ∧ changed.level = 1 ∧
        changed.allRules.map (·.pattern) = ["x", "y"] ∧
        undo.slots = [.package, .sink, .level, .rules .all] ∧ undo.slots.Nodup ∧
        (changed.restore undo).1 = empty ∧
        ((changed.restore undo).1.restore (changed.restore undo).2).1 = changed := by
  obtain ⟨hundone, hredone, -, -, -, -, hnodup⟩ := restore_option empty overlapping
  have hcaptured : ∀ s, .restore s ∈ overlapping → s.slots.Nodup := by
    intro s hs
    simp only [overlapping, List.mem_cons, Directive.restore.injEq, reduceCtorEq, List.not_mem_nil, or_false,
      false_or] at hs
    rw [hs]
    decide
  exact ⟨hcaptured, rfl, rfl, rfl, rfl, hnodup hcaptured, hundone, hredone⟩

end Config

end XmlBinding
