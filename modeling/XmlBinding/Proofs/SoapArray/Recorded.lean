import XmlBinding.Proofs.Generate.Run
import XmlBinding.Proofs.SoapArray.Altered

/-!
This module contains which attributes a type has after its item type was resolved. They are those that it had, with the
annotation recorded, whatever became of the item type.
-/

namespace XmlBinding

namespace SoapArray

/-- The attributes with the annotation of an item type recorded, if there is one. -/
def recorded (attributes : List Member) : List Member :=
  match record? attributes with
  | .ok (some (attributes, _)) => attributes
  | _ => attributes

variable {find? : QName → Option TypeRef} {s s' : Store} {r : TypeRef} {t : ComplexType}

theorem recorded_of_record?_eq {attributes attributes' : List Member} {name : QName}
    (h : record? attributes = .ok (some (attributes', name)))
    : recorded attributes = attributes' := by
  unfold recorded
  rw [h]

theorem recorded_recorded (attributes : List Member) : recorded (recorded attributes) = recorded attributes := by
  rcases h : record? attributes with e | _ | ⟨attributes', name⟩
  . have : recorded attributes = attributes := by
      unfold recorded
      rw [h]
    rw [this]
    exact this
  . have : recorded attributes = attributes := by
      unfold recorded
      rw [h]
    rw [this]
    exact this
  . rw [recorded_of_record?_eq h]
    exact recorded_of_record?_eq (record?_of_record?_eq h)

theorem recorded_eq_self_of_forall {attributes : List Member}
    (h : ∀ attributes' name, record? attributes ≠ .ok (some (attributes', name)))
    : recorded attributes = attributes := by
  unfold recorded
  split
  . next attributes' name hrecord => exact absurd hrecord (h attributes' name)
  . rfl

theorem map_name_of_record? {attributes attributes' : List Member} {name : QName}
    (h : record? attributes = .ok (some (attributes', name)))
    : attributes'.map (·.name) = attributes.map (·.name) := by
  induction attributes generalizing attributes' with
  | nil => cases h
  | cons m ms ih =>
    cases hm : m.name.localPart == annotation.localPart with
    | false =>
      obtain ⟨rest, rfl, hrest⟩ := exists_of_record?_cons_of_ne hm h
      rw [List.map_cons]
      rw [ih hrest]
      rfl
    | true =>
      obtain ⟨a, value, rfl, -, rfl, -⟩ := exists_of_record?_cons_of_eq hm h
      rfl

/-- Recording the annotation leaves all names as they are. -/
theorem map_name_recorded (attributes : List Member)
    : (recorded attributes).map (·.name) = attributes.map (·.name) := by
  unfold recorded
  split
  . next hrecord => exact map_name_of_record? hrecord
  . rfl

/-- Once the annotation is recorded, nothing else happens to the attributes. -/
theorem Alters.attributesOf_eq (h : Alters find? s s') (hrecorded : recorded (s.attributesOf t) = s.attributesOf t)
    : s'.attributesOf t = s.attributesOf t := by
  cases h.attributes t.members with
  | inl hsame => exact hsame
  | inr hchanged =>
    obtain ⟨name, hname⟩ := hchanged
    rw [← hrecorded]
    exact (recorded_of_record?_eq hname).symm

/-- It makes no difference if the annotation was recorded before. -/
theorem resolveItems_setAttributes (hr : s.get r = .complex t) {attributes : List Member} {name : QName}
    (h : record? (s.attributesOf t) = .ok (some (attributes, name)))
    : resolveItems find? r (s.setAttributes t attributes) = resolveItems find? r s := by
  have hr' : (s.setAttributes t attributes).get r = .complex t := hr
  have h' : record? ((s.setAttributes t attributes).attributesOf t) = .ok (some (attributes, name)) := by
    rw [attributesOf_setAttributes h]
    exact record?_of_record?_eq h
  have hagain : (s.setAttributes t attributes).setAttributes t attributes = s.setAttributes t attributes := by
    have hlt := Store.lt_length_of_attributesOf_ne_nil (ne_nil_of_record? h)
    simp only [Store.setAttributes_eq_putMembers, Store.putMembers_putMembers, Store.elementsOf,
      Store.membersAt_putMembers_of_lt hlt]
  rw [resolveItems_of_record?_eq_some find? hr h]
  rw [resolveItems_of_record?_eq_some find? hr' h']
  rw [hagain]

theorem attributesOf_resolveItems (find? : QName → Option TypeRef) (hr : s.get r = .complex t)
    : (resolveItems find? r s).1.attributesOf t = recorded (s.attributesOf t) := by
  by_cases hfound : ∃ attributes name, record? (s.attributesOf t) = .ok (some (attributes, name))
  . obtain ⟨attributes, name, h⟩ := hfound
    have hattributes := attributesOf_setAttributes h
    rw [recorded_of_record?_eq h]
    rw [← resolveItems_setAttributes hr h]
    rw [(resolves_resolveItems find? _ r).alters.attributesOf_eq]
    . exact hattributes
    . rw [hattributes]
      exact recorded_of_record?_eq (record?_of_record?_eq h)
  . have hself := recorded_eq_self_of_forall fun attributes name h => hfound ⟨attributes, name, h⟩
    rw [hself]
    exact (resolves_resolveItems find? s r).alters.attributesOf_eq hself

end SoapArray

namespace Generate

open SoapArray

variable {find? : QName → Option TypeRef} {s : Store} {r : TypeRef} {t : ComplexType}

/-- The steps for arrays go on with the same type. They record its annotation, no matter how often they are taken. -/
theorem attributesOf_preprocess {steps : List TypeStep} (hsteps : ∀ step ∈ steps, step = .soapArrays)
    (hr : s.get r = .complex t) {s' : Store} {r? : Option TypeRef} {notices : List Notice}
    (h : preprocess find? steps (some r) s = (s', ⟨.ok r?, notices⟩))
    : r? = some r ∧ s'.get r = .complex t ∧
        s'.attributesOf t = if steps.isEmpty then s.attributesOf t else recorded (s.attributesOf t) := by
  have hresolves := resolves_preprocess hsteps find? s r
  rw [h] at hresolves
  refine ⟨hresolves.2 r? rfl, (Store.get_congr hresolves.1.alters.nodes r).trans hr, ?_⟩
  cases steps with
  | nil =>
    obtain rfl : s = s' := congrArg Prod.fst h
    rfl
  | cons step steps =>
    rw [List.forall_mem_cons] at hsteps
    obtain ⟨rfl, hsteps⟩ := hsteps
    rw [preprocess] at h
    cases hresolve : resolveItems find? r s with
    | mk between report =>
      obtain ⟨result, notices'⟩ := report
      have hbetween := attributesOf_resolveItems find? hr
      rw [hresolve] at hbetween
      cases result with
      | error fault =>
        have hstep : runTypeStep find? (some r) .soapArrays s = (between, ⟨.error fault, notices'⟩) :=
          Edit.bind_of_error hresolve _
        rw [Edit.bind_of_error hstep] at h
        cases congrArg (Report.result ∘ Prod.snd) h
      | ok =>
        have hstep : runTypeStep find? (some r) .soapArrays s = (between, ⟨.ok (some r), notices' ++ []⟩) :=
          Edit.bind_of_ok hresolve _
        rw [Edit.bind_of_ok hstep] at h
        have hs' : (preprocess find? steps (some r) between).1 = s' := congrArg Prod.fst h
        rw [← hs']
        rw [(resolves_preprocess hsteps find? between r).1.alters.attributesOf_eq]
        . exact hbetween
        . rw [hbetween]
          exact recorded_recorded _

end Generate

end XmlBinding
