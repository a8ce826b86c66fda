import XmlBinding.Proofs.Declaration.Order
import XmlBinding.Proofs.Except
import XmlBinding.Render.Module

/-!
This module contains when the source of a module can be written: no structure has a constant without a tag.
-/

namespace XmlBinding

def Struct.IsTagged (s : Struct) : Prop :=
  ∀ c ∈ s.constants, c.tag?.isSome = true

def Declaration.IsTagged (d : Declaration) : Prop :=
  ∀ s, d.shape = .struct s → s.IsTagged

theorem Struct.IsTagged.exists_constantTags {s : Struct} (h : s.IsTagged) : ∃ tags, s.constantTags = .ok tags := by
  unfold Struct.constantTags
  refine ⟨_, bind_eq_ok_iff.mpr ⟨s.constants.map fun c => (c.tag?.getD "", c.name), ?_, rfl⟩⟩
  rw [mapM_eq_ok_iff]
  rw [List.forall₂_map_right_iff]
  rw [List.forall₂_same]
  intro c hc
  obtain ⟨tag, htag⟩ := Option.isSome_iff_exists.mp (h c hc)
  rw [htag]
  rfl

namespace Render

theorem exists_page {d : Declaration} (h : d.IsTagged) : ∃ p, page d = .ok p := by
  unfold page
  dsimp only
  split
  . next s hs =>
    obtain ⟨tags, htags⟩ := (h s hs).exists_constantTags
    rw [htags]
    exact ⟨_, rfl⟩
  . split
    . exact ⟨_, rfl⟩
    . exact ⟨_, rfl⟩

theorem exists_declarationTexts {ds : List Declaration} (h : ∀ d ∈ ds, d.IsTagged)
    : ∃ texts, declarationTexts ds = .ok texts := by
  induction ds with
  | nil => exact ⟨[], rfl⟩
  | cons d ds ih =>
    rw [List.forall_mem_cons] at h
    obtain ⟨p, hp⟩ := exists_page h.1
    obtain ⟨rest, hrest⟩ := ih h.2
    rw [declarationTexts]
    rw [hp]
    rw [hrest]
    exact ⟨_, rfl⟩

theorem exists_moduleText (package : String) {ds : List Declaration} (h : ∀ d ∈ ds, d.IsTagged)
    : ∃ text, moduleText package ds = .ok text := by
  obtain ⟨texts, htexts⟩ :=
    exists_declarationTexts fun d hd => h d ((Declaration.inOrder_visited ds).sound.mem d hd)
  unfold moduleText
  dsimp only
  rw [htexts]
  exact ⟨_, rfl⟩

end Render

end XmlBinding
