import XmlBinding.Report

/-!
This module contains when reports have a result, which of their notices are errors, and how edits of a store go
on after one another.
-/

namespace XmlBinding

def Notice.errors (notices : List Notice) : List Notice :=
  notices.filter (·.tier == .error)

@[simp]
theorem Notice.errors_append (before after : List Notice)
    : errors (before ++ after) = errors before ++ errors after := by
  unfold errors
  rw [List.filter_append]

namespace Report

variable {α β : Type}

theorem bind_of_ok {r : Report α} {a : α} (h : r.result = .ok a) (f : α → Report β)
    : r >>= f = ⟨(f a).result, r.notices ++ (f a).notices⟩ := by
  change Report.bind r f = _
  unfold Report.bind
  rw [h]

theorem bind_of_error {r : Report α} {e : Fault} (h : r.result = .error e) (f : α → Report β)
    : r >>= f = ⟨.error e, r.notices⟩ := by
  change Report.bind r f = _
  unfold Report.bind
  rw [h]

theorem bind_pure_of_ok {r : Report α} {a : α} {notices : List Notice} (h : r = ⟨.ok a, notices⟩) (f : α → β)
    : (r >>= fun a => pure (f a)) = ⟨.ok (f a), notices⟩ := by
  rw [h]
  rw [bind_of_ok rfl]
  change (⟨.ok (f a), notices ++ []⟩ : Report β) = _
  rw [List.append_nil]

theorem result_bind_eq_ok_iff {r : Report α} {f : α → Report β} {b : β}
    : (r >>= f).result = .ok b ↔ ∃ a, r.result = .ok a ∧ (f a).result = .ok b := by
  change (Report.bind r f).result = .ok b ↔ _
  unfold Report.bind
  cases h : r.result with
  | error e => simp
  | ok a => simp

theorem result_pure_eq_ok_iff {a b : α} : (pure a : Report α).result = .ok b ↔ a = b := by
  change Except.ok a = Except.ok b ↔ _
  rw [Except.ok.injEq]

theorem result_fail_ne_ok {e : Fault} {a : α} : (fail e).result ≠ .ok a := by
  intro h
  cases h

instance : LawfulMonad Report :=
  LawfulMonad.mk' Report
    (by
      intro α r
      change Report.bind r (fun a => pure a) = r
      cases r with
      | mk result notices =>
        cases result with
        | error e => rfl
        | ok a =>
          change (⟨.ok a, notices ++ []⟩ : Report α) = _
          rw [List.append_nil])
    (by
      intro α β a f
      change (⟨(f a).result, [] ++ (f a).notices⟩ : Report β) = f a
      rw [List.nil_append])
    (by
      intro α β γ r f g
      cases h : r.result with
      | error e =>
        rw [bind_of_error h]
        rw [bind_of_error h]
        rw [bind_of_error rfl]
      | ok a =>
        rw [bind_of_ok h]
        rw [bind_of_ok h]
        cases hnext : (f a).result with
        | error e =>
          rw [bind_of_error hnext]
          rw [bind_of_error rfl]
        | ok b =>
          rw [bind_of_ok hnext]
          rw [bind_of_ok rfl]
          rw [List.append_assoc])

/-! ### Reports without errors -/

/-- There is no notice of an error, and a fault only concerns the declaration at hand. -/
structure IsCalm (r : Report α) : Prop where
  errors : Notice.errors r.notices = []
  recoverable : ∀ e, r.result = .error e → e.isRecoverable = true

theorem isCalm_pure (a : α) : (pure a : Report α).IsCalm where
  errors := rfl
  recoverable := by
    intro e h
    cases h

theorem isCalm_fail {e : Fault} (h : e.isRecoverable = true) : (fail e : Report α).IsCalm where
  errors := rfl
  recoverable := by
    intro e' he'
    rw [← Except.error.inj he']
    exact h

theorem isCalm_note {n : Notice} (h : n.tier ≠ .error) : (note n).IsCalm where
  errors := by simpa [note, Notice.errors] using h
  recoverable := by
    intro e he
    cases he

theorem IsCalm.bind {r : Report α} {f : α → Report β} (hr : r.IsCalm)
    (hf : ∀ a, r.result = .ok a → (f a).IsCalm)
    : (r >>= f).IsCalm := by
  cases h : r.result with
  | error e =>
    rw [bind_of_error h]
    refine ⟨hr.errors, ?_⟩
    intro e' he'
    rw [← Except.error.inj he']
    exact hr.recoverable e h
  | ok a =>
    rw [bind_of_ok h]
    refine ⟨?_, (hf a h).recoverable⟩
    rw [Notice.errors_append]
    rw [hr.errors]
    rw [(hf a h).errors]
    rfl

theorem isCalm_foldlM {f : α → β → Report α} {xs : List β} (hf : ∀ a, ∀ x ∈ xs, (f a x).IsCalm) (a : α)
    : (xs.foldlM f a).IsCalm := by
  induction xs generalizing a with
  | nil => exact isCalm_pure a
  | cons x xs ih =>
    rw [List.foldlM_cons]
    apply (hf a x List.mem_cons_self).bind
    intro b _
    exact ih (fun c y hy => hf c y (List.mem_cons_of_mem x hy)) b

/-! ### Reports that only fail in certain ways -/

def FailsWith (r : Report α) (P : Fault → Prop) : Prop :=
  ∀ e, r.result = .error e → P e

section

variable {P Q : Fault → Prop} {r : Report α}

theorem failsWith_of_ok {a : α} (h : r.result = .ok a) (P : Fault → Prop) : r.FailsWith P := by
  intro e he
  rw [h] at he
  cases he

theorem failsWith_fail {e : Fault} (h : P e) : (fail e : Report α).FailsWith P := by
  intro e' he'
  rw [← Except.error.inj he']
  exact h

theorem FailsWith.mono (h : r.FailsWith P) (hPQ : ∀ e, P e → Q e) : r.FailsWith Q :=
  fun e he => hPQ e (h e he)

theorem FailsWith.bind {f : α → Report β} (hr : r.FailsWith P) (hf : ∀ a, r.result = .ok a → (f a).FailsWith P)
    : (r >>= f).FailsWith P := by
  cases h : r.result with
  | error e =>
    rw [bind_of_error h]
    intro e' he'
    rw [← Except.error.inj he']
    exact hr e h
  | ok a =>
    rw [bind_of_ok h]
    exact hf a h

end

/-- There is no fault that only concerns the declaration at hand. -/
def IsGrave (r : Report α) : Prop :=
  ∀ e, r.result = .error e → e.isRecoverable = false

/-- A fault would have to be of both kinds. -/
theorem IsGrave.exists_of_isCalm {r : Report α} (h : r.IsGrave) (hr : r.IsCalm) : ∃ a, r.result = .ok a := by
  cases hresult : r.result with
  | ok a => exact ⟨a, rfl⟩
  | error e =>
    have hfault := h e hresult
    rw [hr.recoverable e hresult] at hfault
    cases hfault

end Report

/-! ### Edits -/

namespace Edit

variable {α β : Type}

theorem bind_of_ok {e : Edit α} {s s' : Store} {a : α} {notices : List Notice}
    (h : e s = (s', ⟨.ok a, notices⟩)) (f : α → Edit β)
    : (e >>= f) s = ((f a s').1, ⟨(f a s').2.result, notices ++ (f a s').2.notices⟩) := by
  change Edit.bind e f s = _
  unfold Edit.bind
  rw [h]

theorem bind_of_error {e : Edit α} {s s' : Store} {fault : Fault} {notices : List Notice}
    (h : e s = (s', ⟨.error fault, notices⟩)) (f : α → Edit β)
    : (e >>= f) s = (s', ⟨.error fault, notices⟩) := by
  change Edit.bind e f s = _
  unfold Edit.bind
  rw [h]

theorem result_bind_eq_ok_iff {e : Edit α} {f : α → Edit β} {s : Store} {b : β}
    : ((e >>= f) s).2.result = .ok b ↔ ∃ a, (e s).2.result = .ok a ∧ (f a (e s).1).2.result = .ok b := by
  cases hs : e s with
  | mk s' report =>
    obtain ⟨result, notices⟩ := report
    cases result with
    | error fault =>
      rw [bind_of_error hs]
      simp
    | ok a =>
      rw [bind_of_ok hs]
      simp

theorem bind_pure_of_ok {e : Edit α} {s s' : Store} {a : α} {notices : List Notice}
    (h : e s = (s', ⟨.ok a, notices⟩)) (f : α → β)
    : (e >>= fun a => pure (f a)) s = (s', ⟨.ok (f a), notices⟩) := by
  rw [bind_of_ok h]
  change (s', (⟨.ok (f a), notices ++ []⟩ : Report β)) = _
  rw [List.append_nil]

theorem ofReport_bind_ofReport (f : Store → Report α) (g : α → Store → Report β)
    : (ofReport f >>= fun a => ofReport (g a)) = ofReport fun s => f s >>= fun a => g a s := by
  funext s
  cases h : f s with
  | mk result notices =>
    cases result with
    | error fault =>
      rw [bind_of_error (congrArg (Prod.mk s) h)]
      dsimp only [ofReport]
      rw [h]
      rfl
    | ok a =>
      rw [bind_of_ok (congrArg (Prod.mk s) h)]
      dsimp only [ofReport]
      rw [h]
      rfl

theorem recover_of_ok {e : Edit α} {s s' : Store} {a : α} {notices : List Notice}
    (h : e s = (s', ⟨.ok a, notices⟩)) (f : Fault → Report α)
    : e.recover f s = (s', ⟨.ok a, notices⟩) := by
  unfold Edit.recover Report.recover
  rw [h]

theorem recover_of_error {e : Edit α} {s s' : Store} {fault : Fault} {notices : List Notice}
    (h : e s = (s', ⟨.error fault, notices⟩)) (hfault : fault.isRecoverable = true) (f : Fault → Report α)
    : e.recover f s = (s', ⟨(f fault).result, notices ++ (f fault).notices⟩) := by
  unfold Edit.recover Report.recover
  rw [h]
  simp only [hfault, if_true]

theorem store_bind (f : Store → Edit β) (s : Store) : (Edit.store >>= f) s = f s s :=
  rfl

theorem note_bind (n : Notice) (f : Unit → Edit β) (s : Store)
    : (Edit.note n >>= f) s = ((f () s).1, ⟨(f () s).2.result, n :: (f () s).2.notices⟩) :=
  rfl

end Edit

end XmlBinding
