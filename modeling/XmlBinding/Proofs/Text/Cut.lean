import XmlBinding.Text.Blank

/-!
This module contains what cutting a text gives: pieces without separators, words without blanks, and the
parts of a text that was put together from such parts.
-/

namespace XmlBinding.Text

section

variable {α : Type} {p : α → Bool}

theorem cutWhen_eq_splitOnP (xs : List α) : cutWhen p xs = xs.splitOnP p := by
  induction xs with
  | nil => rfl
  | cons x xs ih =>
    rw [cutWhen]
    rw [List.splitOnP_cons_eq_if_modifyHead]
    rw [ih]
    split
    . rfl
    . cases h : xs.splitOnP p with
      | nil => exact absurd h (List.splitOnP_ne_nil p xs)
      | cons piece pieces => rfl

theorem cutWhen_of_forall_not {xs : List α} (h : ∀ x ∈ xs, p x = false) : cutWhen p xs = [xs] := by
  rw [cutWhen_eq_splitOnP]
  apply List.splitOnP_eq_singleton
  intro x hx
  simp [h x hx]

theorem cutWhen_append (xs ys : List α) {x : α} (hx : p x = true)
    : cutWhen p (xs ++ x :: ys) = cutWhen p xs ++ cutWhen p ys := by
  simp only [cutWhen_eq_splitOnP]
  exact List.splitOnP_append_cons xs ys hx

theorem mem_cutWhen {xs piece : List α} {x : α} (h : piece ∈ cutWhen p xs) (hx : x ∈ piece)
    : x ∈ xs ∧ p x = false := by
  induction xs generalizing piece with
  | nil =>
    have : piece = [] := by simpa [cutWhen] using h
    simp [this] at hx
  | cons y ys ih =>
    rw [cutWhen] at h
    split at h
    . cases List.mem_cons.mp h with
      | inl heq => simp [heq] at hx
      | inr hmem =>
        obtain ⟨hys, hp⟩ := ih hmem hx
        exact ⟨List.mem_cons_of_mem y hys, hp⟩
    . next hy =>
      split at h
      . next hnil => exact absurd hnil (cutWhen_ne_nil p ys)
      . next first rest hcut =>
        rw [hcut] at ih
        cases List.mem_cons.mp h with
        | inl heq =>
          rw [heq] at hx
          cases List.mem_cons.mp hx with
          | inl hxy =>
            subst hxy
            simpa using hy
          | inr hmem =>
            obtain ⟨hys, hp⟩ := ih List.mem_cons_self hmem
            exact ⟨List.mem_cons_of_mem y hys, hp⟩
        | inr hmem =>
          obtain ⟨hys, hp⟩ := ih (List.mem_cons_of_mem first hmem) hx
          exact ⟨List.mem_cons_of_mem y hys, hp⟩

end

theorem words_of_forall_not_blank {cs : List Char} (hne : cs ≠ []) (h : ∀ c ∈ cs, isBlank c = false)
    : words cs = [cs] := by
  unfold words
  rw [cutWhen_of_forall_not h]
  simp [hne]

theorem words_append (cs ds : List Char) {b : Char} (hb : isBlank b = true)
    : words (cs ++ b :: ds) = words cs ++ words ds := by
  unfold words
  rw [cutWhen_append cs ds hb]
  rw [List.filter_append]

theorem mem_words {cs word : List Char} {c : Char} (h : word ∈ words cs) (hc : c ∈ word)
    : c ∈ cs ∧ isBlank c = false := by
  exact mem_cutWhen (List.mem_filter.mp h).1 hc

theorem cutAt_of_not_mem {sep : Char} {cs : List Char} (h : sep ∉ cs) : cutAt sep cs = [cs] := by
  apply cutWhen_of_forall_not
  intro c hc
  simp only [beq_eq_false_iff_ne]
  rintro rfl
  exact h hc

theorem cutAt_append (sep : Char) (cs ds : List Char)
    : cutAt sep (cs ++ sep :: ds) = cutAt sep cs ++ cutAt sep ds := by
  apply cutWhen_append
  simp

theorem exists_cutAt_cons {sep c : Char} (hc : c ≠ sep) (cs : List Char)
    : ∃ piece pieces, cutAt sep cs = piece :: pieces ∧ cutAt sep (c :: cs) = (c :: piece) :: pieces := by
  unfold cutAt
  rw [cutWhen]
  rw [if_neg (by simpa using hc)]
  split
  . next hnil => exact absurd hnil (cutWhen_ne_nil _ cs)
  . next piece pieces hcut => exact ⟨piece, pieces, hcut, rfl⟩

theorem not_mem_of_mem_cutAt {sep : Char} {cs piece : List Char} (h : piece ∈ cutAt sep cs)
    : sep ∉ piece := by
  intro hmem
  obtain ⟨-, hp⟩ := mem_cutWhen h hmem
  simp at hp

theorem wordsOf_of_forall_not_blank {s : String} (hne : s ≠ "") (h : ∀ c ∈ s.toList, isBlank c = false)
    : wordsOf s = [s] := by
  unfold wordsOf
  rw [words_of_forall_not_blank]
  . simp
  . simpa using hne
  . exact h

theorem wordsOf_append_space (s t : String) : wordsOf (s ++ " " ++ t) = wordsOf s ++ wordsOf t := by
  unfold wordsOf
  have htext : (s ++ " " ++ t).toList = s.toList ++ ' ' :: t.toList := by simp
  rw [htext]
  rw [words_append _ _ (by decide)]
  rw [List.map_append]

theorem mem_wordsOf {s word : String} {c : Char} (h : word ∈ wordsOf s) (hc : c ∈ word.toList)
    : c ∈ s.toList ∧ isBlank c = false := by
  obtain ⟨cs, hcs, rfl⟩ := List.mem_map.mp h
  rw [String.toList_ofList] at hc
  exact mem_words hcs hc

theorem pieces_ne_nil (sep : Char) (s : String) : pieces sep s ≠ [] := by
  unfold pieces cutAt
  simp [cutWhen_ne_nil]

theorem pieces_of_not_mem {sep : Char} {s : String} (h : sep ∉ s.toList) : pieces sep s = [s] := by
  unfold pieces
  rw [cutAt_of_not_mem h]
  simp

theorem pieces_append {sep : Char} (s : String) {t u : String} (hu : u.toList = sep :: t.toList)
    : pieces sep (s ++ u) = pieces sep s ++ pieces sep t := by
  unfold pieces
  rw [String.toList_append]
  rw [hu]
  rw [cutAt_append]
  rw [List.map_append]

theorem not_mem_of_mem_pieces {sep : Char} {s piece : String} (h : piece ∈ pieces sep s)
    : sep ∉ piece.toList := by
  obtain ⟨cs, hcs, rfl⟩ := List.mem_map.mp h
  rw [String.toList_ofList]
  exact not_mem_of_mem_cutAt hcs

/-! ### Texts without blanks -/

theorem dropWhile_of_forall_not_blank {cs : List Char} (h : ∀ c ∈ cs, isBlank c = false)
    : cs.dropWhile isBlank = cs := by
  cases cs with
  | nil => rfl
  | cons c cs =>
    rw [List.dropWhile_cons]
    rw [if_neg (by simp [h c List.mem_cons_self])]

theorem trim_of_forall_not_blank {cs : List Char} (h : ∀ c ∈ cs, isBlank c = false) : trim cs = cs := by
  have hreverse : ∀ c ∈ cs.reverse, isBlank c = false := fun c hc => h c (List.mem_reverse.mp hc)
  unfold trim trimEnd trimStart
  rw [dropWhile_of_forall_not_blank h]
  rw [dropWhile_of_forall_not_blank hreverse]
  rw [List.reverse_reverse]

theorem strip_of_forall_not_blank {s : String} (h : ∀ c ∈ s.toList, isBlank c = false) : strip s = s := by
  unfold strip
  rw [trim_of_forall_not_blank h]
  exact String.ofList_toList

/-- A text of words is cut into just these words. -/
theorem wordsOf_intercalate {texts : List String}
    (h : ∀ s ∈ texts, s ≠ "" ∧ ∀ c ∈ s.toList, isBlank c = false)
    : wordsOf (" ".intercalate texts) = texts := by
  induction texts with
  | nil => decide
  | cons s texts ih =>
    rw [List.forall_mem_cons] at h
    have ih := ih h.2
    have hs := wordsOf_of_forall_not_blank h.1.1 h.1.2
    cases texts with
    | nil =>
      rw [String.intercalate_singleton]
      exact hs
    | cons t texts =>
      rw [String.intercalate_cons_cons]
      rw [wordsOf_append_space]
      rw [hs]
      rw [ih]
      rfl

end XmlBinding.Text
