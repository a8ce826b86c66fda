import XmlBinding.Name.Tag
import XmlBinding.Proofs.Name.Legal
import XmlBinding.Proofs.Text.Cut

/-!
This module contains which names come back from the tags that are written for them. A tag is cut at commas
before its name is taken apart at blanks, so a name is kept if and only if it has neither a comma nor a blank.
-/

namespace XmlBinding

open Text

/-- There is a local part, and neither commas nor blanks are in the name. -/
@[mk_iff]
structure QName.IsUnbroken (n : QName) : Prop where
  localPart_ne_empty : n.localPart ≠ ""
  space : ∀ c ∈ n.space.toList, c ≠ ',' ∧ isBlank c = false
  localPart : ∀ c ∈ n.localPart.toList, c ≠ ',' ∧ isBlank c = false

-- Like for legal names, only the characters of the name are gone through.
instance (n : QName) : Decidable n.IsUnbroken :=
  have : Decidable (∀ c ∈ n.space.toList, c ≠ ',' ∧ isBlank c = false) := List.decidableBAll _ _
  have : Decidable (∀ c ∈ n.localPart.toList, c ≠ ',' ∧ isBlank c = false) := List.decidableBAll _ _
  decidable_of_iff _ n.isUnbroken_iff.symm

namespace Tag

/-- The flags in the pieces of a tag after its name. -/
def flagsOf (pieces : List String) : List String :=
  (pieces.map strip).filter (!·.isEmpty)

theorem read_eq_of_wordsOf_one {text word : String} {rest : List String}
    (hp : (pieces ',' text).drop 1 = rest) (hw : wordsOf ((pieces ',' text).headD "") = [word])
    : read text = .ok ⟨"", word, flagsOf rest⟩ := by
  unfold read
  simp only [hp, hw, flagsOf]

theorem read_eq_of_wordsOf_two {text first second : String} {rest : List String}
    (hp : (pieces ',' text).drop 1 = rest)
    (hw : wordsOf ((pieces ',' text).headD "") = [first, second])
    : read text = .ok ⟨first, second, flagsOf rest⟩ := by
  unfold read
  simp only [hp, hw, flagsOf]

theorem read_of_pieces {n : QName} {text : String} {rest : List String} (hne : n.localPart ≠ "")
    (hl : ∀ c ∈ n.localPart.toList, isBlank c = false) (hs : ∀ c ∈ n.space.toList, isBlank c = false)
    (hp : pieces ',' text = ofName n :: rest)
    : read text = .ok ⟨n.space, n.localPart, flagsOf rest⟩ := by
  have hlocal : wordsOf n.localPart = [n.localPart] := wordsOf_of_forall_not_blank hne hl
  unfold ofName at hp
  split at hp
  . next hempty =>
    have hspace : n.space = "" := String.isEmpty_iff.mp hempty
    rw [hspace]
    apply read_eq_of_wordsOf_one
    . simp [hp]
    . simp [hp, hlocal]
  . next hempty =>
    have hspace : n.space ≠ "" := by
      intro heq
      exact hempty (String.isEmpty_iff.mpr heq)
    apply read_eq_of_wordsOf_two
    . simp [hp]
    . rw [hp]
      simp only [List.headD_cons]
      rw [wordsOf_append_space]
      rw [wordsOf_of_forall_not_blank hspace hs]
      rw [hlocal]
      rfl

theorem comma_not_mem_ofName {n : QName} (hl : ',' ∉ n.localPart.toList) (hs : ',' ∉ n.space.toList)
    : ',' ∉ (ofName n).toList := by
  unfold ofName
  split
  . exact hl
  . simp [hs, hl]

theorem pieces_ofName {n : QName} (hl : ',' ∉ n.localPart.toList) (hs : ',' ∉ n.space.toList)
    : pieces ',' (ofName n) = [ofName n] := by
  apply pieces_of_not_mem
  exact comma_not_mem_ofName hl hs

theorem pieces_attr (text : String) : pieces ',' (text ++ ",attr") = pieces ',' text ++ ["attr"] := by
  have hattr : pieces ',' "attr" = ["attr"] := by decide
  rw [pieces_append text (t := "attr") (by decide)]
  rw [hattr]

theorem wildcardTag_not_blank : ∀ c ∈ wildcardTag.toList, isBlank c = false := by
  have : wildcardTag.toList.all (fun c => !isBlank c) = true := by decide
  simpa using this

theorem flags_of_read_eq_ok {text : String} {tag : Tag} (h : read text = .ok tag)
    : tag.flags = flagsOf ((pieces ',' text).drop 1) := by
  unfold read at h
  dsimp only at h
  split at h
  . obtain rfl := Except.ok.inj h
    rfl
  . obtain rfl := Except.ok.inj h
    rfl
  . obtain rfl := Except.ok.inj h
    rfl
  . cases h

theorem isAttribute_of_read_attr {text : String} {tag : Tag} (h : read (text ++ ",attr") = .ok tag)
    : tag.isAttribute = true := by
  have hdrop : (pieces ',' text ++ ["attr"]).drop 1 = (pieces ',' text).drop 1 ++ ["attr"] := by
    apply List.drop_append_of_le_length
    exact List.length_pos_iff.mpr (pieces_ne_nil ',' text)
  unfold isAttribute
  rw [flags_of_read_eq_ok h]
  rw [pieces_attr]
  rw [hdrop]
  simp [flagsOf, show strip "attr" = "attr" by decide]

theorem of_read_eq_ok {text : String} {tag : Tag} (h : read text = .ok tag)
    : ',' ∉ tag.space.toList ∧ ∀ c ∈ tag.localPart.toList, isBlank c = false := by
  have hcomma : ',' ∉ ((pieces ',' text).headD "").toList := by
    cases hp : pieces ',' text with
    | nil => decide
    | cons first rest =>
      apply not_mem_of_mem_pieces (s := text)
      rw [hp]
      exact List.mem_cons_self
  unfold read at h
  dsimp only at h
  split at h
  . obtain rfl := Except.ok.inj h
    exact ⟨by simp, wildcardTag_not_blank⟩
  . next word hw =>
    obtain rfl := Except.ok.inj h
    refine ⟨by simp, ?_⟩
    intro c hc
    exact (mem_wordsOf (hw ▸ List.mem_cons_self) hc).2
  . next first second hw =>
    obtain rfl := Except.ok.inj h
    constructor
    . intro hmem
      exact hcomma (mem_wordsOf (hw ▸ List.mem_cons_self) hmem).1
    . intro c hc
      exact (mem_wordsOf (hw ▸ List.mem_cons_of_mem first List.mem_cons_self) hc).2
  . cases h

theorem of_read_eq_name {n : QName} {text : String} {flags : List String}
    (h : read text = .ok ⟨n.space, n.localPart, flags⟩)
    : ',' ∉ n.space.toList ∧ NcName.oghamSpace ∉ n.localPart.toList := by
  obtain ⟨hspace, hlocal⟩ := of_read_eq_ok h
  refine ⟨hspace, ?_⟩
  intro hmem
  have := hlocal NcName.oghamSpace hmem
  simp [show isBlank NcName.oghamSpace = true by decide] at this

theorem read_ofName {n : QName} (h : n.IsLegal) (hs : ',' ∉ n.space.toList)
    (hl : NcName.oghamSpace ∉ n.localPart.toList)
    : read (ofName n) = .ok ⟨n.space, n.localPart, []⟩ := by
  rw [read_of_pieces h.localPart_ne_empty (h.localPart_not_blank hl) h.space_not_blank
    (pieces_ofName h.comma_not_mem hs)]
  rfl

theorem read_attr_of_isUnbroken {n : QName} (h : n.IsUnbroken)
    : read (ofName n ++ ",attr") = .ok ⟨n.space, n.localPart, ["attr"]⟩ := by
  have hl : ',' ∉ n.localPart.toList := fun hmem => (h.localPart ',' hmem).1 rfl
  have hs : ',' ∉ n.space.toList := fun hmem => (h.space ',' hmem).1 rfl
  have hpieces : pieces ',' (ofName n ++ ",attr") = [ofName n, "attr"] := by
    rw [pieces_attr]
    rw [pieces_ofName hl hs]
    rfl
  rw [read_of_pieces h.localPart_ne_empty (fun c hc => (h.localPart c hc).2) (fun c hc => (h.space c hc).2) hpieces]
  rfl

theorem isUnbroken_of_isLegal {n : QName} (h : n.IsLegal) (hs : ',' ∉ n.space.toList)
    (hl : NcName.oghamSpace ∉ n.localPart.toList)
    : n.IsUnbroken where
  localPart_ne_empty := h.localPart_ne_empty
  space c hc := ⟨fun heq => hs (heq ▸ hc), h.space_not_blank c hc⟩
  localPart c hc := ⟨fun heq => h.comma_not_mem (heq ▸ hc), h.localPart_not_blank hl c hc⟩

theorem read_ofName_attr {n : QName} (h : n.IsLegal) (hs : ',' ∉ n.space.toList)
    (hl : NcName.oghamSpace ∉ n.localPart.toList)
    : read (ofName n ++ ",attr") = .ok ⟨n.space, n.localPart, ["attr"]⟩ :=
  read_attr_of_isUnbroken (isUnbroken_of_isLegal h hs hl)

theorem isAttribute_of_read_ofName {n : QName} (hl : ',' ∉ n.localPart.toList) (hs : ',' ∉ n.space.toList) {tag : Tag}
    (h : read (ofName n) = .ok tag)
    : tag.isAttribute = false := by
  unfold isAttribute
  rw [flags_of_read_eq_ok h]
  rw [pieces_ofName hl hs]
  rfl

/-- The tag of a legal name is read as that name, with or without the flag of attributes, if and only if the
namespace has no comma and the local part has no blank. -/
theorem read_ofName_iff {n : QName} (h : n.IsLegal)
    : (read (ofName n) = .ok ⟨n.space, n.localPart, []⟩
          ↔
        ',' ∉ n.space.toList ∧ NcName.oghamSpace ∉ n.localPart.toList)
      ∧ (read (ofName n ++ ",attr") = .ok ⟨n.space, n.localPart, ["attr"]⟩
          ↔
        ',' ∉ n.space.toList ∧ NcName.oghamSpace ∉ n.localPart.toList) := by
  constructor
  . constructor
    . intro hread
      exact of_read_eq_name hread
    . rintro ⟨hs, hl⟩
      exact read_ofName h hs hl
  . constructor
    . intro hread
      exact of_read_eq_name hread
    . rintro ⟨hs, hl⟩
      exact read_ofName_attr h hs hl

theorem read_ofName_item
    : (QName.mk "urn:inv" "item").IsLegal
      ∧ read (ofName ⟨"urn:inv", "item"⟩) = .ok ⟨"urn:inv", "item", []⟩
      ∧ read (ofName ⟨"urn:inv", "item"⟩ ++ ",attr") = .ok ⟨"urn:inv", "item", ["attr"]⟩ := by
  have h : (QName.mk "urn:inv" "item").IsLegal := by decide
  refine ⟨h, ?_, ?_⟩
  . exact (read_ofName_iff h).1.mpr ⟨by decide, by decide⟩
  . exact (read_ofName_iff h).2.mpr ⟨by decide, by decide⟩

/-- A comma in a namespace is taken for the end of the name, and the blank of a local part for the one
between namespace and local part. -/
theorem read_ofName_comma
    : (QName.mk "urn:a,b" "x").IsLegal
      ∧ read (ofName ⟨"urn:a,b", "x"⟩) = .ok ⟨"", "urn:a", ["b x"]⟩
      ∧ read (ofName ⟨"urn:a,b", "x"⟩ ++ ",attr") = .ok ⟨"", "urn:a", ["b x", "attr"]⟩
      ∧ (QName.mk "" "a\u1680b").IsLegal
      ∧ read (ofName ⟨"", "a\u1680b"⟩) = .ok ⟨"a", "b", []⟩ := by
  refine ⟨by decide, ?_, ?_, by decide, ?_⟩
  . rfl
  . rfl
  . rfl

/-- At most a namespace and a local part stand before the flags. -/
def IsWellFormed (text : String) : Prop :=
  (wordsOf ((pieces ',' text).headD "")).length ≤ 2

theorem exists_read_of_isWellFormed {text : String} (h : IsWellFormed text) : ∃ tag, read text = .ok tag := by
  unfold IsWellFormed at h
  unfold read
  dsimp only
  split
  . exact ⟨_, rfl⟩
  . exact ⟨_, rfl⟩
  . exact ⟨_, rfl⟩
  -- More words than the shapes above have are too many.
  . next hnone hone htwo =>
    match hwords : wordsOf ((pieces ',' text).headD "") with
    | [] => exact absurd hwords hnone
    | [word] => exact absurd hwords (hone word)
    | [first, second] => exact absurd hwords (htwo first second)
    | _ :: _ :: _ :: rest =>
      rw [hwords] at h
      simp at h

theorem read_of_not_isWellFormed {text : String} (h : ¬ IsWellFormed text) : read text = .error ⟨text⟩ := by
  unfold IsWellFormed at h
  unfold read
  dsimp only
  split
  . next hwords =>
    rw [hwords] at h
    exact absurd (Nat.zero_le 2) h
  . next hwords =>
    rw [hwords] at h
    exact absurd (Nat.le_succ 1) h
  . next hwords =>
    rw [hwords] at h
    exact absurd (Nat.le_refl 2) h
  . rfl

end Tag

namespace ItemTag

theorem read_eq (text : String) : read text = (Tag.read text).map fun tag => ⟨tag.space, tag.localPart⟩ := by
  unfold read
  split
  . next hempty =>
    rw [String.isEmpty_iff.mp hempty]
    rfl
  . rfl

theorem exists_read_of_isWellFormed {text : String} (h : Tag.IsWellFormed text) : ∃ tag, read text = .ok tag := by
  obtain ⟨tag, htag⟩ := Tag.exists_read_of_isWellFormed h
  rw [read_eq]
  rw [htag]
  exact ⟨_, rfl⟩

theorem read_of_not_isWellFormed {text : String} (h : ¬ Tag.IsWellFormed text) : read text = .error ⟨text⟩ := by
  rw [read_eq]
  rw [Tag.read_of_not_isWellFormed h]
  rfl

end ItemTag

end XmlBinding
