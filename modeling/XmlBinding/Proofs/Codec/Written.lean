import XmlBinding.Proofs.Codec.RoundTrip

/-!
This module contains what is written for the fields of an instance, apart from the attributes that are there already.
Only fields for attributes add to these.
-/

namespace XmlBinding.Codec

/-- What is written for one field: attributes and children. -/
def writeField (t : Table) (v : Value) (f : FieldDef) : Except Fault (List (String × String) × List Xml) :=
  match StructDef.fieldTag? f with
  | .error e => .error e
  | .ok none => .ok ([], [])
  | .ok (some tag) =>
    if v.isNothing then
      .ok ([], [])
    else if tag.isAttribute then
      (formatText t v).map fun text => ([(tag.name.clark, text)], [])
    else
      (writeChildren t v f tag).map fun mine => ([], mine)

/-- What is written for the fields of an instance, whatever attributes there are already. -/
def writeFields (t : Table) : List Value → List FieldDef → Except Fault (List (String × String) × List Xml)
  | v :: vs, f :: fs => do
    let (news, mine) ← writeField t v f
    let (others, children) ← writeFields t vs fs
    .ok (news ++ others, mine ++ children)
  | _, _ => .ok ([], [])

def setAll (attributes news : List (String × String)) : List (String × String) :=
  news.foldl (fun acc new => Entries.set acc new.1 new.2) attributes

variable {t : Table}

theorem encodeFields_cons (v : Value) (values : List Value) (f : FieldDef) (fields : List FieldDef)
    (attributes : List (String × String))
    : encodeFields t (v :: values) (f :: fields) attributes =
        writeField t v f >>= fun w =>
          (encodeFields t values fields (setAll attributes w.1)).map fun rest => (rest.1, w.2 ++ rest.2) := by
  have hnone (x : Except Fault (List (String × String) × List Xml))
      : x.map (fun rest => (rest.1, [] ++ rest.2)) = x := by
    cases x <;> rfl
  unfold writeField
  cases hf : StructDef.fieldTag? f with
  | error e =>
    rw [encodeFields]
    rw [hf]
    rfl
  | ok tag? =>
    cases tag? with
    | none =>
      rw [encodeFields_of_untagged hf]
      exact (hnone _).symm
    | some tag =>
      cases hv : v.isNothing with
      | true =>
        rw [encodeFields_of_isNothing hf hv]
        exact (hnone _).symm
      | false =>
        cases htag : tag.isAttribute with
        | true =>
          rw [encodeFields_of_isAttribute hf htag hv]
          simp only [htag]
          cases formatText t v with
          | error e => rfl
          | ok text => exact (hnone _).symm
        | false =>
          rw [encodeFields_of_isElement hf htag hv]
          simp only [htag]
          cases writeChildren t v f tag with
          | error e => rfl
          | ok mine => rfl

theorem encodeFields_eq_writeFields (t : Table) (values : List Value) (fields : List FieldDef)
    (attributes : List (String × String))
    : encodeFields t values fields attributes =
        (writeFields t values fields).map fun w => (setAll attributes w.1, w.2) := by
  induction fields generalizing values attributes with
  | nil => cases values <;> rfl
  | cons f fields ih =>
    cases values with
    | nil => rfl
    | cons v values =>
      rw [encodeFields_cons]
      rw [writeFields]
      cases writeField t v f with
      | error e => rfl
      | ok w =>
        change (encodeFields t values fields (setAll attributes w.1)).map _ = _
        rw [ih]
        change _ = Except.map _ (writeFields t values fields >>= fun rest => _)
        rw [bind_ok_eq_map]
        cases writeFields t values fields with
        | error e => rfl
        | ok rest =>
          simp only [Except.map, setAll, List.foldl_append]

theorem mem_writeField {v : Value} {f : FieldDef} {w : List (String × String) × List Xml} (h : writeField t v f = .ok w)
    : ∀ new ∈ w.1, ∃ tag, StructDef.fieldTag? f = .ok (some tag) ∧ tag.isAttribute = true ∧ tag.name.clark = new.1 := by
  unfold writeField at h
  split at h
  . cases h
  . cases h
    simp
  . next tag htag =>
    split at h
    . cases h
      simp
    . split at h
      . next hattribute =>
        rw [← bind_ok_eq_map] at h
        obtain ⟨text, -, h⟩ := bind_eq_ok_iff.mp h
        cases h
        rw [List.forall_mem_singleton]
        exact ⟨tag, htag, hattribute, rfl⟩
      . rw [← bind_ok_eq_map] at h
        obtain ⟨mine, -, h⟩ := bind_eq_ok_iff.mp h
        cases h
        simp

theorem mem_writeFields {values : List Value} {fields : List FieldDef} {w : List (String × String) × List Xml}
    (h : writeFields t values fields = .ok w)
    : ∀ new ∈ w.1, ∃ f ∈ fields, ∃ tag, StructDef.fieldTag? f = .ok (some tag) ∧ tag.isAttribute = true ∧
        tag.name.clark = new.1 := by
  induction fields generalizing values w with
  | nil =>
    cases values <;> cases h <;> simp
  | cons f fields ih =>
    cases values with
    | nil =>
      cases h
      simp
    | cons v values =>
      rw [writeFields] at h
      obtain ⟨first, hfirst, h⟩ := bind_eq_ok_iff.mp h
      obtain ⟨others, hothers, h⟩ := bind_eq_ok_iff.mp h
      cases h
      rw [List.forall_mem_append]
      constructor
      . intro new hnew
        exact ⟨f, List.mem_cons_self, mem_writeField hfirst new hnew⟩
      . intro new hnew
        obtain ⟨g, hg, htag⟩ := ih hothers new hnew
        exact ⟨g, List.mem_cons_of_mem f hg, htag⟩

end XmlBinding.Codec
