import Mathlib.Data.List.Induction
import Mathlib.Data.List.Nodup
import Mathlib.Data.List.Perm.Subperm
import XmlBinding.Entries

/-!
This module contains what is found in entries after some of them were set, and what all of them keep. Where values are
set one after another, each key is there once, with one of its values.
-/

namespace XmlBinding.Entries

variable {α β : Type} [BEq α]

theorem forall_mem_set {P : β → Prop} {entries : List (α × β)} {key : α} {value : β} (h : ∀ entry ∈ entries, P entry.2)
    (hvalue : P value)
    : ∀ entry ∈ set entries key value, P entry.2 := by
  induction entries with
  | nil => simpa [set] using hvalue
  | cons entry entries ih =>
    rw [List.forall_mem_cons] at h
    rw [set]
    split
    . rw [List.forall_mem_cons]
      exact ⟨hvalue, h.2⟩
    . rw [List.forall_mem_cons]
      exact ⟨h.1, ih h.2⟩

theorem forall_mem_ofList {P : β → Prop} {entries : List (α × β)} (h : ∀ entry ∈ entries, P entry.2)
    : ∀ entry ∈ ofList entries, P entry.2 := by
  have hfoldl {before : List (α × β)} (hbefore : ∀ entry ∈ before, P entry.2)
      : ∀ entry ∈ entries.foldl (fun acc entry => set acc entry.1 entry.2) before, P entry.2 := by
    induction entries generalizing before with
    | nil => exact hbefore
    | cons entry entries ih =>
      rw [List.forall_mem_cons] at h
      exact ih h.2 (forall_mem_set hbefore h.1)
  exact hfoldl (List.forall_mem_nil _)

theorem ofList_concat (entries : List (α × β)) (entry : α × β)
    : ofList (entries ++ [entry]) = set (ofList entries) entry.1 entry.2 := by
  unfold ofList
  rw [List.foldl_append]
  rfl

variable [LawfulBEq α]

theorem lookup_set_self (entries : List (α × β)) (key : α) (value : β)
    : (set entries key value).lookup key = some value := by
  induction entries with
  | nil => simp [set]
  | cons entry rest ih =>
    rcases entry with ⟨k, v⟩
    rw [set]
    split
    . next heq =>
      rw [beq_iff_eq.mp heq]
      simp
    . next hne =>
      have : (key == k) = false := by
        rw [beq_eq_false_iff_ne]
        rintro rfl
        simp at hne
      rw [List.lookup_cons]
      rw [this]
      exact ih

theorem lookup_set_of_ne (entries : List (α × β)) {key key' : α} (value : β) (h : key' ≠ key)
    : (set entries key value).lookup key' = entries.lookup key' := by
  induction entries with
  | nil => simp [set, h]
  | cons entry rest ih =>
    rcases entry with ⟨k, v⟩
    rw [set]
    split
    . next heq =>
      have : (key' == k) = false := by
        rw [beq_iff_eq.mp heq]
        simpa using h
      rw [List.lookup_cons]
      rw [List.lookup_cons]
      rw [this]
    . rw [List.lookup_cons]
      rw [List.lookup_cons]
      rw [ih]

theorem lookup_foldl_set_of_ne {news entries : List (α × β)} {key : α} (h : ∀ new ∈ news, new.1 ≠ key)
    : (news.foldl (fun acc new => set acc new.1 new.2) entries).lookup key = entries.lookup key := by
  induction news generalizing entries with
  | nil => rfl
  | cons new news ih =>
    rw [List.foldl_cons]
    rw [ih]
    . apply lookup_set_of_ne
      exact (h new List.mem_cons_self).symm
    . intro other hother
      exact h other (List.mem_cons_of_mem new hother)

theorem lookup_eq_some_iff_mem {entries : List (α × β)} (h : (entries.map (·.1)).Nodup) {key : α} {value : β}
    : entries.lookup key = some value ↔ (key, value) ∈ entries := by
  rw [List.lookup_eq_some_iff]
  constructor
  . rintro ⟨before, after, rfl, -⟩
    simp
  . intro hmem
    obtain ⟨before, after, rfl⟩ := List.append_of_mem hmem
    refine ⟨before, after, rfl, ?_⟩
    intro entry hentry
    rw [bne_iff_ne]
    rintro rfl
    rw [List.map_append] at h
    exact (List.nodup_append.mp h).2.2 _ (List.mem_map_of_mem hentry) _ List.mem_cons_self rfl

theorem lookup_eq_none_iff_not_mem {entries : List (α × β)} {key : α}
    : entries.lookup key = none ↔ key ∉ entries.map (·.1) := by
  rw [List.lookup_eq_none_iff]
  simp only [List.mem_map, bne_iff_ne, ne_eq]
  constructor
  . rintro h ⟨p, hp, rfl⟩
    exact h p hp rfl
  . rintro h p hp rfl
    exact h ⟨p, hp, rfl⟩

theorem set_of_not_mem {entries : List (α × β)} {key : α} (h : key ∉ entries.map (·.1)) (value : β)
    : set entries key value = entries ++ [(key, value)] := by
  induction entries with
  | nil => rfl
  | cons entry rest ih =>
    rw [List.map_cons] at h
    rw [List.mem_cons] at h
    rw [not_or] at h
    rw [set]
    rw [if_neg (by simpa using Ne.symm h.1)]
    rw [ih h.2]
    rfl

theorem foldl_set_of_nodup {news entries : List (α × β)} (h : ((entries ++ news).map (·.1)).Nodup)
    : news.foldl (fun acc new => set acc new.1 new.2) entries = entries ++ news := by
  induction news generalizing entries with
  | nil => rw [List.append_nil]; rfl
  | cons new news ih =>
    have hassoc : entries ++ new :: news = entries ++ [new] ++ news := by simp
    have hnot : new.1 ∉ entries.map (·.1) := by
      rw [List.map_append] at h
      intro hmem
      exact (List.nodup_append.mp h).2.2 _ hmem _ List.mem_cons_self rfl
    rw [List.foldl_cons]
    rw [set_of_not_mem hnot]
    rw [hassoc]
    apply ih
    rwa [← hassoc]

theorem ofList_of_nodup {entries : List (α × β)} (h : (entries.map (·.1)).Nodup) : ofList entries = entries :=
  foldl_set_of_nodup h

/-! ### One entry for each key -/

theorem keys_set (entries : List (α × β)) (key : α) (value : β)
    : (set entries key value).map (·.1) =
        if key ∈ entries.map (·.1) then entries.map (·.1) else entries.map (·.1) ++ [key] := by
  induction entries with
  | nil => simp [set]
  | cons entry rest ih =>
    rcases entry with ⟨k, v⟩
    rw [set]
    by_cases heq : k = key
    . simp [heq]
    . rw [if_neg (by simpa using heq)]
      rw [List.map_cons]
      rw [ih]
      have hiff : key ∈ ((k, v) :: rest).map (·.1) ↔ key ∈ rest.map (·.1) := by simp [Ne.symm heq]
      simp only [hiff]
      split
      . rfl
      . rfl

theorem eq_or_mem_of_mem_set {entries : List (α × β)} {key : α} {value : β} {entry : α × β}
    (h : entry ∈ set entries key value)
    : entry = (key, value) ∨ entry ∈ entries := by
  induction entries with
  | nil => exact .inl (List.mem_singleton.mp h)
  | cons first rest ih =>
    rcases first with ⟨k, v⟩
    rw [set] at h
    split at h
    . next heq =>
      rw [beq_iff_eq] at heq
      rw [heq] at h
      exact (List.mem_cons.mp h).imp_right (List.mem_cons_of_mem _)
    . rw [List.mem_cons] at h ⊢
      rcases h with rfl | h
      . exact .inr (.inl rfl)
      . exact (ih h).imp_right .inr

theorem ofList_subset (entries : List (α × β)) : ofList entries ⊆ entries := by
  induction entries using List.reverseRecOn with
  | nil => exact List.Subset.refl _
  | append_singleton entries entry ih =>
    intro found hfound
    rw [ofList_concat] at hfound
    rcases eq_or_mem_of_mem_set hfound with rfl | hmem
    . simp
    . exact List.mem_append_left _ (ih hmem)

theorem mem_keys_ofList {entries : List (α × β)} {key : α}
    : key ∈ (ofList entries).map (·.1) ↔ key ∈ entries.map (·.1) := by
  induction entries using List.reverseRecOn with
  | nil => exact Iff.rfl
  | append_singleton entries entry ih =>
    rw [ofList_concat]
    rw [keys_set]
    rw [List.map_append]
    rw [List.mem_append]
    rw [← ih]
    split
    . next hmem =>
      constructor
      . exact .inl
      . rintro (hkey | hkey)
        . exact hkey
        . rw [List.mem_singleton.mp hkey]
          exact hmem
    . rw [List.mem_append]
      rfl

theorem nodup_keys_ofList (entries : List (α × β)) : ((ofList entries).map (·.1)).Nodup := by
  induction entries using List.reverseRecOn with
  | nil => exact List.nodup_nil
  | append_singleton entries entry ih =>
    rw [ofList_concat]
    rw [keys_set]
    split
    . exact ih
    . next hnot =>
      rw [List.nodup_append]
      refine ⟨ih, List.nodup_singleton _, ?_⟩
      rintro key hkey _ hentry rfl
      rw [List.mem_singleton.mp hentry] at hkey
      exact hnot hkey

theorem ofList_subperm (entries : List (α × β)) : (ofList entries).Subperm entries :=
  (List.Nodup.of_map _ (nodup_keys_ofList entries)).subperm (ofList_subset entries)

/-- A value is found for its key if no other one is set for that. -/
theorem lookup_ofList_of_unique {entries : List (α × β)} {entry : α × β} (h : entry ∈ entries)
    (hunique : ∀ other ∈ entries, other.1 = entry.1 → other = entry)
    : (ofList entries).lookup entry.1 = some entry.2 := by
  obtain ⟨other, hmem, hkey⟩ := List.mem_map.mp (mem_keys_ofList.mpr (List.mem_map_of_mem h))
  rw [lookup_eq_some_iff_mem (nodup_keys_ofList entries)]
  rw [hunique other (ofList_subset entries hmem) hkey] at hmem
  exact hmem

end XmlBinding.Entries
