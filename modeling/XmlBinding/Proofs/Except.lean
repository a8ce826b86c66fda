import Mathlib.Data.List.Forall2

/-!
This module contains when computations that can fail have a result, and what lists that are related item by item share.
-/

namespace XmlBinding

variable {ε α β γ : Type}

theorem isOk_iff {x : Except ε α} : x.isOk = true ↔ ∃ a, x = .ok a := by
  cases x with
  | error e => simp [Except.isOk, Except.toBool]
  | ok a => simp [Except.isOk, Except.toBool]

theorem eq_ok_of_toOption {x : Except ε α} {a : α} (h : x.toOption = some a) : x = .ok a := by
  cases x with
  | error e => cases h
  | ok b => exact congrArg Except.ok (Option.some.inj h)

theorem exists_of_toOption_map {x : Except ε α} {f : α → β} {b : β} (h : x.toOption.map f = some b)
    : ∃ a, x = .ok a ∧ f a = b := by
  obtain ⟨a, ha, hf⟩ := Option.map_eq_some_iff.mp h
  exact ⟨a, eq_ok_of_toOption ha, hf⟩

theorem bind_eq_ok_iff {x : Except ε α} {f : α → Except ε β} {b : β}
    : (x >>= f) = .ok b ↔ ∃ a, x = .ok a ∧ f a = .ok b := by
  cases x with
  | error e => simp [bind, Except.bind]
  | ok a => simp [bind, Except.bind]

theorem bind_ok_eq_map {x : Except ε α} {f : α → β} : (x >>= fun a => .ok (f a)) = x.map f := by
  cases x with
  | error e => rfl
  | ok a => rfl

theorem exists_mem_of_forall₂ {R : α → β → Prop} {xs : List α} {ys : List β} (h : List.Forall₂ R xs ys)
    : ∀ y ∈ ys, ∃ x ∈ xs, R x y := by
  induction h with
  | nil => simp
  | @cons x y xs ys hxy _ ih =>
    rw [List.forall_mem_cons]
    refine ⟨⟨x, List.mem_cons_self, hxy⟩, ?_⟩
    intro y' hy'
    obtain ⟨x', hx', h⟩ := ih y' hy'
    exact ⟨x', List.mem_cons_of_mem x hx', h⟩

theorem mapM_eq_ok_iff {f : α → Except ε β} {xs : List α} {ys : List β}
    : xs.mapM f = .ok ys ↔ List.Forall₂ (fun x y => f x = .ok y) xs ys := by
  induction xs generalizing ys with
  | nil => simp [pure, Except.pure, eq_comm]
  | cons x xs ih =>
    rw [List.mapM_cons]
    rw [bind_eq_ok_iff]
    constructor
    . rintro ⟨y, hy, h⟩
      obtain ⟨rest, hrest, heq⟩ := bind_eq_ok_iff.mp h
      obtain rfl := Except.ok.inj heq
      exact .cons hy (ih.mp hrest)
    . rintro (_ | ⟨hy, hrest⟩)
      exact ⟨_, hy, bind_eq_ok_iff.mpr ⟨_, ih.mpr hrest, rfl⟩⟩

theorem mapM_congr {f g : α → Except ε β} {xs : List α} (h : ∀ x ∈ xs, f x = g x) : xs.mapM f = xs.mapM g := by
  induction xs with
  | nil => rfl
  | cons x xs ih =>
    rw [List.forall_mem_cons] at h
    rw [List.mapM_cons]
    rw [List.mapM_cons]
    rw [h.1]
    rw [ih h.2]

theorem map_eq_of_mapM_eq_ok {f : α → Except ε β} {g : β → α} {xs : List α} {ys : List β}
    (h : xs.mapM f = .ok ys) (hg : ∀ x y, f x = .ok y → g y = x)
    : ys.map g = xs := by
  have hall := mapM_eq_ok_iff.mp h
  clear h
  induction hall with
  | nil => rfl
  | cons hy _ ih =>
    rw [List.map_cons]
    rw [hg _ _ hy]
    rw [ih]

theorem forall_of_mapM_eq_ok {f : α → Except ε β} {P : β → Prop} {xs : List α} {ys : List β}
    (h : xs.mapM f = .ok ys) (hP : ∀ x y, f x = .ok y → P y)
    : ∀ y ∈ ys, P y := by
  have hall := mapM_eq_ok_iff.mp h
  clear h
  induction hall with
  | nil => simp
  | cons hy _ ih =>
    intro y hmem
    cases List.mem_cons.mp hmem with
    | inl heq =>
      rw [heq]
      exact hP _ _ hy
    | inr hmem => exact ih y hmem

theorem exists_mapM_eq_ok {f : α → Except ε β} {P : β → γ → Prop} {xs : List α} {zs : List γ}
    (h : List.Forall₂ (fun x z => ∃ y, f x = .ok y ∧ P y z) xs zs)
    : ∃ ys, xs.mapM f = .ok ys ∧ List.Forall₂ P ys zs := by
  induction h with
  | nil => exact ⟨[], rfl, .nil⟩
  | cons hx _ ih =>
    obtain ⟨y, hy, hP⟩ := hx
    obtain ⟨ys, hys, hPs⟩ := ih
    refine ⟨y :: ys, ?_, .cons hP hPs⟩
    rw [mapM_eq_ok_iff] at hys ⊢
    exact .cons hy hys

theorem exists_mapM_eq_ok_iff {f : α → Except ε β} {xs : List α}
    : (∃ ys, xs.mapM f = .ok ys) ↔ ∀ x ∈ xs, ∃ y, f x = .ok y := by
  induction xs with
  | nil => exact iff_of_true ⟨[], rfl⟩ (List.forall_mem_nil _)
  | cons x xs ih =>
    rw [List.forall_mem_cons]
    rw [← ih]
    rw [List.mapM_cons]
    constructor
    . rintro ⟨_, h⟩
      obtain ⟨y, hy, h⟩ := bind_eq_ok_iff.mp h
      obtain ⟨ys, hys, -⟩ := bind_eq_ok_iff.mp h
      exact ⟨⟨y, hy⟩, ys, hys⟩
    . rintro ⟨⟨y, hy⟩, ys, hys⟩
      exact ⟨y :: ys, bind_eq_ok_iff.mpr ⟨y, hy, bind_eq_ok_iff.mpr ⟨ys, hys, rfl⟩⟩⟩

/-- A run over a list fails with the first failure. -/
theorem mapM_eq_error_iff {f : α → Except ε β} {xs : List α} {e : ε}
    : xs.mapM f = .error e ↔
        ∃ before x after, xs = before ++ x :: after ∧ (∀ x ∈ before, ∃ y, f x = .ok y) ∧ f x = .error e := by
  induction xs with
  | nil => simp [pure, Except.pure]
  | cons x xs ih =>
    rw [List.mapM_cons]
    cases hx : f x with
    | error e' =>
      constructor
      . intro h
        cases h
        exact ⟨[], x, xs, rfl, List.forall_mem_nil _, hx⟩
      . rintro ⟨before, x', after, heq, hbefore, hx'⟩
        cases before with
        | nil =>
          cases heq
          rw [hx] at hx'
          cases hx'
          rfl
        | cons first before =>
          cases heq
          obtain ⟨y, hy⟩ := hbefore x List.mem_cons_self
          rw [hx] at hy
          cases hy
    | ok y =>
      have hrest : (xs.mapM f >>= fun ys => pure (y :: ys)) = .error e ↔ xs.mapM f = .error e := by
        cases xs.mapM f with
        | error e' => exact Iff.rfl
        | ok ys => simp [bind, Except.bind, pure, Except.pure]
      refine hrest.trans (ih.trans ?_)
      constructor
      . rintro ⟨before, x', after, rfl, hbefore, hx'⟩
        exact ⟨x :: before, x', after, rfl, List.forall_mem_cons.mpr ⟨⟨y, hx⟩, hbefore⟩, hx'⟩
      . rintro ⟨before, x', after, heq, hbefore, hx'⟩
        cases before with
        | nil =>
          cases heq
          rw [hx] at hx'
          cases hx'
        | cons first before =>
          cases heq
          exact ⟨before, x', after, rfl, (List.forall_mem_cons.mp hbefore).2, hx'⟩

theorem mapM_eq_some_iff {f : α → Option β} {g : β → α} (h : ∀ x y, f x = some y ↔ x = g y) {xs : List α}
    {ys : List β}
    : xs.mapM f = some ys ↔ xs = ys.map g := by
  induction xs generalizing ys with
  | nil => cases ys <;> simp
  | cons x xs ih =>
    rw [List.mapM_cons]
    simp only [Option.bind_eq_bind, Option.bind_eq_some_iff, h, ih, Option.pure_def, Option.some.injEq]
    constructor
    . rintro ⟨y, rfl, ys, rfl, rfl⟩
      rfl
    . intro heq
      cases ys with
      | nil => cases heq
      | cons y ys =>
        rw [List.map_cons] at heq
        obtain ⟨hx, hxs⟩ := List.cons.inj heq
        exact ⟨y, hx, ys, hxs, rfl⟩

end XmlBinding
