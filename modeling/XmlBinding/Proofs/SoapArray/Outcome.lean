import XmlBinding.Generate.Drafts
import XmlBinding.Proofs.SoapArray.Altered

/-!
This module contains what the step for arrays comes to, for any type of any store. It leaves the type as it is, or
cannot find the type of its items, or searches for the wildcard that holds them. Nothing but the attributes and elements
of the type is changed. The step only fails on entries of the other kind, and does not end where bases run in a circle.
-/

namespace XmlBinding

namespace SoapArray

variable {find? : QName → Option TypeRef} {s s' : Store} {r item : TypeRef} {t : ComplexType} {a : Attribute}
  {value : String} {ms : List Member} {m : Member}

/-! ### Annotations -/

/-- The first entry with the name of attributes that can have an annotation. -/
def named? (ms : List Member) : Option Member :=
  ms.find? (·.name.localPart == annotation.localPart)

theorem record?_append {before : List Member}
    (h : ∀ m ∈ before, (m.name.localPart == annotation.localPart) = false) (ms : List Member)
    : record? (before ++ ms) =
        (record? ms).map fun found? => found?.map fun found => (before ++ found.1, found.2) := by
  induction before with
  | nil =>
    rw [List.nil_append]
    cases record? ms with
    | error e => rfl
    | ok found? =>
      cases found? with
      | none => rfl
      | some found => rfl
  | cons m before ih =>
    rw [List.forall_mem_cons] at h
    rw [List.cons_append]
    rw [record?_cons_of_ne h.1]
    rw [ih h.2]
    cases record? ms with
    | error e => rfl
    | ok found? =>
      cases found? with
      | none => rfl
      | some found => rfl

theorem exists_append_of_named? (h : named? ms = some m)
    : ∃ before after, ms = before ++ m :: after ∧
        (∀ m ∈ before, (m.name.localPart == annotation.localPart) = false) ∧
        (m.name.localPart == annotation.localPart) = true := by
  obtain ⟨hm, before, after, hms, hbefore⟩ := List.find?_eq_some_iff_append.mp h
  refine ⟨before, after, hms, ?_, hm⟩
  intro first hfirst
  simpa using hbefore first hfirst

theorem record?_of_named?_eq_none (h : named? ms = none) : record? ms = .ok none := by
  have hms : ∀ m ∈ ms, (m.name.localPart == annotation.localPart) = false := by
    intro m hm
    simpa using List.find?_eq_none.mp h m hm
  have happend := record?_append hms []
  rw [List.append_nil] at happend
  exact happend

theorem record?_of_named?_eq_element {e : Element} (h : named? ms = some (.element e))
    : record? ms = .error (.noProperty "Element" "attrs") := by
  obtain ⟨before, after, rfl, hbefore, he⟩ := exists_append_of_named? h
  rw [record?_append hbefore]
  rw [record?]
  rw [if_pos he]
  rfl

theorem record?_of_annotated?_eq_none (h : named? ms = some (.attribute a)) (ha : annotated? a = none)
    : record? ms = .ok none := by
  obtain ⟨before, after, rfl, hbefore, hname⟩ := exists_append_of_named? h
  rw [record?_append hbefore]
  rw [record?_cons_of_eq hname]
  rw [ha]
  rfl

/-- The attributes after the step: an annotation of the first attribute that can have one is its fixed value. -/
inductive IsRecorded (ms : List Member) : List Member → Prop
  | unannotated : (∀ a, named? ms = some (.attribute a) → annotated? a = none) → IsRecorded ms ms
  | annotated {before after : List Member} {a : Attribute} {value : String} : ms = before ++ .attribute a :: after →
      named? ms = some (.attribute a) → annotated? a = some value →
      IsRecorded ms (before ++ .attribute { a with fixed := value } :: after)

theorem exists_record?_of_annotated?_eq_some (h : named? ms = some (.attribute a)) (ha : annotated? a = some value)
    : ∃ attributes, record? ms = .ok (some (attributes, resolve a.namespaces value)) ∧ IsRecorded ms attributes := by
  obtain ⟨before, after, rfl, hbefore, hname⟩ := exists_append_of_named? h
  refine ⟨before ++ .attribute { a with fixed := value } :: after, ?_, .annotated rfl h ha⟩
  rw [record?_append hbefore]
  rw [record?_cons_of_eq hname]
  rw [ha]
  rfl

/-! ### Outcomes -/

/-- What the step for arrays comes to. -/
inductive Outcome
  /-- The type is no array, or it names no type of items. -/
  | left
  | unknownItem (name : QName)
  /-- There is a type of items, and the wildcard was searched for. -/
  | searched (item : TypeRef) (x : Search)

namespace Outcome

/-- What is noticed about the type with the local name `array`. -/
def notices (s : Store) (array : String) : Outcome → List Notice
  | .left => []
  | .unknownItem name => [.unknownItem name]
  | .searched item x => [x.notice s array item]

def tiers : Outcome → List Tier
  | .left => []
  | .unknownItem _ => [.info]
  | .searched _ (.found _ _) => [.debug]
  | .searched _ _ => [.info]

/-- What becomes of the elements of the type. -/
def elements (ms : List Member) : Outcome → List Member
  | .searched item x => x.elements item ms
  | _ => ms

/-- The step makes `s'` of the store `s`: nothing but the attributes and elements of the type `r` is changed. -/
def Changes (o : Outcome) (s : Store) (r : TypeRef) (s' : Store) : Prop :=
  match s.get r with
  | .complex t => ∃ attributes, IsRecorded (s.attributesOf t) attributes ∧
      s' = s.putMembers t.members ⟨attributes, o.elements (s.elementsOf t)⟩
  | _ => s' = s

theorem map_tier_notices (s : Store) (array : String) (o : Outcome) : (o.notices s array).map (·.tier) = o.tiers := by
  cases o with
  | left => rfl
  | unknownItem name => rfl
  | searched item x =>
    cases x with
    | found owner w => rfl
    | missing => rfl
    | broken ancestor => rfl

theorem changes_of_complex {o : Outcome} (hr : s.get r = .complex t) {attributes : List Member}
    (h : IsRecorded (s.attributesOf t) attributes)
    : o.Changes s r (s.putMembers t.members ⟨attributes, o.elements (s.elementsOf t)⟩) := by
  unfold Changes
  rw [hr]
  exact ⟨attributes, h, rfl⟩

theorem changes_left_of_complex (hr : s.get r = .complex t) (h : IsRecorded (s.attributesOf t) (s.attributesOf t))
    : Outcome.left.Changes s r s := by
  have hchanges := changes_of_complex (o := .left) hr h
  rw [show s.putMembers t.members ⟨s.attributesOf t, Outcome.left.elements (s.elementsOf t)⟩ = s from
    s.putMembers_membersAt t.members] at hchanges
  exact hchanges

end Outcome

/-- The attribute `a` of the type `r` names its type of items. -/
structure IsAnnotated (s : Store) (r : TypeRef) (a : Attribute) (value : String) : Prop where
  exists_named : ∃ t, s.get r = .complex t ∧ named? (s.attributesOf t) = some (.attribute a)
  annotated : annotated? a = some value

/-- The type `r` names the type `name` for its items. -/
def NamesItem (s : Store) (r : TypeRef) (name : QName) : Prop :=
  ∃ a value, IsAnnotated s r a value ∧ (resolve a.namespaces value).localPart ≠ "" ∧
    normalize (resolve a.namespaces value) = name

/-- When the step for arrays comes to what. -/
inductive IsOutcome (find? : QName → Option TypeRef) (s : Store) (r : TypeRef) : Outcome → Prop
  | notComplex : (∀ t, s.get r ≠ .complex t) → IsOutcome find? s r .left
  | notNamed {t : ComplexType} : s.get r = .complex t → named? (s.attributesOf t) = none → IsOutcome find? s r .left
  | notAnnotated {t : ComplexType} {a : Attribute} : s.get r = .complex t →
      named? (s.attributesOf t) = some (.attribute a) → annotated? a = none → IsOutcome find? s r .left
  | nameless {a : Attribute} {value : String} : IsAnnotated s r a value →
      (resolve a.namespaces value).localPart = "" → IsOutcome find? s r .left
  | unknownItem {name : QName} : NamesItem s r name → find? name = none → IsOutcome find? s r (.unknownItem name)
  | searched {name : QName} {item : TypeRef} {x : Search} : NamesItem s r name → find? name = some item →
      Finds s (some r) x → IsOutcome find? s r (.searched item x)

theorem IsAnnotated.unique {a' : Attribute} {value' : String} (h : IsAnnotated s r a value)
    (h' : IsAnnotated s r a' value')
    : a = a' ∧ value = value' := by
  obtain ⟨⟨t, hr, hnamed⟩, hvalue⟩ := h
  obtain ⟨⟨t', hr', hnamed'⟩, hvalue'⟩ := h'
  obtain rfl := Entity.complex.inj (hr.symm.trans hr')
  cases hnamed.symm.trans hnamed'
  exact ⟨rfl, Option.some.inj (hvalue.symm.trans hvalue')⟩

theorem NamesItem.unique {name name' : QName} (h : NamesItem s r name) (h' : NamesItem s r name') : name = name' := by
  obtain ⟨a, value, ha, -, rfl⟩ := h
  obtain ⟨a', value', ha', -, rfl⟩ := h'
  obtain ⟨rfl, rfl⟩ := ha.unique ha'
  rfl

/-- A type is not left if it names the type of its items. -/
theorem NamesItem.not_left {name : QName} (h : NamesItem s r name) : ¬ IsOutcome find? s r .left := by
  obtain ⟨a, value, ha, hname, -⟩ := h
  obtain ⟨t, hr, hnamed⟩ := ha.exists_named
  intro hleft
  cases hleft with
  | notComplex hnot => exact hnot t hr
  | notNamed hr' hnone =>
    obtain rfl := Entity.complex.inj (hr.symm.trans hr')
    rw [hnamed] at hnone
    cases hnone
  | notAnnotated hr' hnamed' hnone =>
    obtain rfl := Entity.complex.inj (hr.symm.trans hr')
    cases hnamed.symm.trans hnamed'
    rw [ha.annotated] at hnone
    cases hnone
  | nameless ha' hname' =>
    obtain ⟨rfl, rfl⟩ := ha.unique ha'
    exact hname hname'

theorem IsOutcome.unique {o o' : Outcome} (h : IsOutcome find? s r o) (h' : IsOutcome find? s r o') : o = o' := by
  cases o with
  | left =>
    cases o' with
    | left => rfl
    | unknownItem name =>
      cases h' with
      | unknownItem hname _ => exact absurd h hname.not_left
    | searched item x =>
      cases h' with
      | searched hname _ _ => exact absurd h hname.not_left
  | unknownItem name =>
    cases h with
    | unknownItem hname hfind =>
      cases o' with
      | left => exact absurd h' hname.not_left
      | unknownItem name' =>
        cases h' with
        | unknownItem hname' _ => rw [hname.unique hname']
      | searched item x =>
        cases h' with
        | searched hname' hfind' _ =>
          obtain rfl := hname.unique hname'
          rw [hfind] at hfind'
          cases hfind'
  | searched item x =>
    cases h with
    | searched hname hfind hx =>
      cases o' with
      | left => exact absurd h' hname.not_left
      | unknownItem name' =>
        cases h' with
        | unknownItem hname' hfind' =>
          obtain rfl := hname.unique hname'
          rw [hfind] at hfind'
          cases hfind'
      | searched item' x' =>
        cases h' with
        | searched hname' hfind' hx' =>
          obtain rfl := hname.unique hname'
          obtain rfl := Option.some.inj (hfind.symm.trans hfind')
          rw [hx.unique hx']

/-! ### The run -/

theorem overrideWildcard_of_error {fault : Fault} (h : findWildcard s r = .error fault) (item? : Option TypeRef)
    : overrideWildcard r item? s = (s, ⟨.error fault, []⟩) := by
  unfold overrideWildcard
  rw [Edit.store_bind]
  simp only [h]
  rfl

theorem replaceWildcards_of_attribute_mem {e : Element} (h : .attribute a ∈ ms)
    : (replaceWildcards e ms).2 = .error (.noProperty "Attribute" "wildcard") := by
  induction ms with
  | nil => cases h
  | cons m ms ih =>
    cases m with
    | «attribute» a' => rfl
    | element old =>
      have hrest := ih (by simpa using h)
      rw [replaceWildcards]
      dsimp only
      split
      . dsimp only
        rw [hrest]
        rfl
      . exact hrest

/-- Past an attribute among its own elements the search does not go. -/
theorem exists_found_of_attribute_mem {x : Search} (hr : s.get r = .complex t) (ha : .attribute a ∈ s.elementsOf t)
    (hx : findWildcard s r = .ok x)
    : ∃ w, x = .found r w := by
  unfold findWildcard Store.walkLimit at hx
  rw [search_of_complex hr] at hx
  obtain ⟨e?, hfirst, hx⟩ := bind_eq_ok_iff.mp hx
  cases e? with
  | some w => exact ⟨w, (Except.ok.inj hx).symm⟩
  | none => cases firstWildcard?_eq_none_iff.mp hfirst _ ha

theorem overrideWildcard_of_attribute_mem {x : Search} (hr : s.get r = .complex t) (ha : .attribute a ∈ s.elementsOf t)
    (hx : findWildcard s r = .ok x) (item : TypeRef)
    : (overrideWildcard r (some item) s).2.result = .error (.noProperty "Attribute" "wildcard") := by
  obtain ⟨w, rfl⟩ := exists_found_of_attribute_mem hr ha hx
  have hreplace : (replaceWildcards (typed item w) (s.elementsOf t)).2 = .error (.noProperty "Attribute" "wildcard") :=
    replaceWildcards_of_attribute_mem ha
  unfold overrideWildcard
  rw [Edit.store_bind]
  simp only [hx, arrayName_of_complex hr, Edit.note_bind, hr]
  rw [show ({ w with type? := some item } : Element) = typed item w from rfl]
  cases h : replaceWildcards (typed item w) (s.elementsOf t) with
  | mk elements replaced? =>
    rw [h] at hreplace
    obtain rfl : replaced? = .error (.noProperty "Attribute" "wildcard") := hreplace
    rfl

/-- Why the step does not come to an outcome. -/
inductive IsFault (find? : QName → Option TypeRef) (s : Store) (r : TypeRef) : Fault → Prop
  | stray {owner property : String} : HasStray s r → IsFault find? s r (.noProperty owner property)
  | circular {name : QName} {item : TypeRef} : NamesItem s r name → find? name = some item → IsCircular s r →
      IsFault find? s r .endlessHierarchy

theorem isElement_of_not_attribute (h : ∀ a, .attribute a ∉ ms) : ∀ m ∈ ms, m.isElement = true := by
  intro m hm
  cases m with
  | «attribute» a => exact absurd hm (h a)
  | element e => rfl

/-- The search and what is done with it, when the annotation `name` was recorded. -/
theorem overrideWildcard_cases (hr : s.get r = .complex t) {attributes : List Member} {name : QName}
    (hrecord : record? (s.attributesOf t) = .ok (some (attributes, name))) (item : TypeRef)
    : (∃ x, Finds s (some r) x ∧
          overrideWildcard r (some item) (s.setAttributes t attributes) =
            (s.putMembers t.members ⟨attributes, x.elements item (s.elementsOf t)⟩,
              ⟨.ok (), [x.notice s t.name.localPart item]⟩))
      ∨ (HasStray s r ∧
          (overrideWildcard r (some item) (s.setAttributes t attributes)).2.result =
            .error (.noProperty "Attribute" "wildcard"))
      ∨ (IsCircular s r ∧
          (overrideWildcard r (some item) (s.setAttributes t attributes)).2.result = .error .endlessHierarchy) := by
  have hsearch := findWildcard_setAttributes s t attributes r
  obtain ⟨x, hx⟩ | ⟨hx, hstray⟩ | ⟨hx, hcircular⟩ := findWildcard_cases s r
  . by_cases hown : ∃ a, .attribute a ∈ s.elementsOf t
    . obtain ⟨a, ha⟩ := hown
      refine .inr (.inl ⟨hasStray_of_attribute_mem hr ha, ?_⟩)
      rw [← s.elementsOf_setAttributes t t attributes] at ha
      exact overrideWildcard_of_attribute_mem (s := s.setAttributes t attributes) hr ha (hsearch.trans hx) item
    . have ht := isElement_of_not_attribute (not_exists.mp hown)
      exact .inl ⟨x, finds_of_findWildcard hx, overrideWildcard_setAttributes hr hx ht hrecord item⟩
  . refine .inr (.inl ⟨hstray, ?_⟩)
    rw [overrideWildcard_of_error (hsearch.trans hx)]
  . refine .inr (.inr ⟨hcircular, ?_⟩)
    rw [overrideWildcard_of_error (hsearch.trans hx)]

theorem NamesItem.exists_record? {name : QName} (h : NamesItem s r name)
    : ∃ t attributes reference, s.get r = .complex t ∧ record? (s.attributesOf t) = .ok (some (attributes, reference)) ∧
        reference.localPart.isEmpty = false ∧ normalize reference = name := by
  obtain ⟨a, value, ⟨⟨t, hr, hnamed⟩, hvalue⟩, hreference, hname⟩ := h
  obtain ⟨attributes, hrecord, -⟩ := exists_record?_of_annotated?_eq_some hnamed hvalue
  exact ⟨t, attributes, _, hr, hrecord, by simpa using hreference, hname⟩

theorem resolveItems_of_isCircular {name : QName} (hname : NamesItem s r name) (hfind : find? name = some item)
    (h : IsCircular s r)
    : (resolveItems find? r s).2.result = .error .endlessHierarchy := by
  obtain ⟨t, attributes, reference, hr, hrecord, hempty, rfl⟩ := hname.exists_record?
  have hsearch := (findWildcard_setAttributes s t attributes r).trans (findWildcard_eq_endless_iff.mpr h)
  rw [resolveItems_of_record?_eq_some find? hr hrecord]
  simp only [hempty, Bool.false_eq_true, if_false, hfind]
  rw [overrideWildcard_of_error hsearch]

/-- The step on a type with an annotation. -/
theorem IsAnnotated.resolveItems_cases (h : IsAnnotated s r a value) (find? : QName → Option TypeRef)
    : (∃ o s', IsOutcome find? s r o ∧ o.Changes s r s' ∧
          resolveItems find? r s = (s', ⟨.ok (), o.notices s (s.nameOf r).localPart⟩))
      ∨ ∃ fault, IsFault find? s r fault ∧ (resolveItems find? r s).2.result = .error fault := by
  obtain ⟨t, hr, hnamed⟩ := h.exists_named
  obtain ⟨attributes, hrecord, hrecorded⟩ := exists_record?_of_annotated?_eq_some hnamed h.annotated
  have hchanges (o : Outcome) := Outcome.changes_of_complex (o := o) hr hrecorded
  have hname : s.nameOf r = t.name := congrArg Entity.name hr
  rw [hname]
  rw [resolveItems_of_record?_eq_some find? hr hrecord]
  by_cases hempty : (resolve a.namespaces value).localPart = ""
  . refine .inl ⟨.left, _, .nameless h hempty, hchanges .left, ?_⟩
    rw [if_pos (by simpa using hempty)]
    rw [Store.setAttributes_eq_putMembers]
    rfl
  . have hnames : NamesItem s r (normalize (resolve a.namespaces value)) := ⟨a, value, h, hempty, rfl⟩
    rw [if_neg (by simpa using hempty)]
    cases hfind : find? (normalize (resolve a.namespaces value)) with
    | none =>
      refine .inl ⟨_, _, .unknownItem hnames hfind, hchanges _, ?_⟩
      rw [Store.setAttributes_eq_putMembers]
      rfl
    | some item =>
      dsimp only
      obtain ⟨x, hx, hrun⟩ | ⟨hstray, hrun⟩ | ⟨hcircular, hrun⟩ := overrideWildcard_cases hr hrecord item
      . exact .inl ⟨_, _, .searched hnames hfind hx, hchanges _, hrun⟩
      . exact .inr ⟨_, .stray hstray, hrun⟩
      . exact .inr ⟨_, .circular hnames hfind hcircular, hrun⟩

/-- Every run of the step comes to one of the outcomes, or fails for one of the two reasons. -/
theorem resolveItems_cases (find? : QName → Option TypeRef) (s : Store) (r : TypeRef)
    : (∃ o s', IsOutcome find? s r o ∧ o.Changes s r s' ∧
          resolveItems find? r s = (s', ⟨.ok (), o.notices s (s.nameOf r).localPart⟩))
      ∨ ∃ fault, IsFault find? s r fault ∧ (resolveItems find? r s).2.result = .error fault := by
  by_cases hcomplex : ∃ t, s.get r = .complex t
  . obtain ⟨t, hr⟩ := hcomplex
    cases hnamed : named? (s.attributesOf t) with
    | none =>
      refine .inl ⟨.left, s, .notNamed hr hnamed, ?_, ?_⟩
      . exact Outcome.changes_left_of_complex hr (.unannotated (by simp [hnamed]))
      . exact resolveItems_of_record?_eq_none find? hr (record?_of_named?_eq_none hnamed)
    | some m =>
      cases m with
      | element e =>
        have he : .element e ∈ s.attributesOf t := List.mem_of_find?_eq_some hnamed
        refine .inr ⟨.noProperty "Element" "attrs", .stray (hasStray_of_element_mem hr he), ?_⟩
        rw [resolveItems_of_record?_eq_error find? hr (record?_of_named?_eq_element hnamed)]
      | «attribute» a =>
        cases hvalue : annotated? a with
        | none =>
          refine .inl ⟨.left, s, .notAnnotated hr hnamed hvalue, ?_, ?_⟩
          . apply Outcome.changes_left_of_complex hr
            refine .unannotated ?_
            intro a' ha'
            cases hnamed.symm.trans ha'
            exact hvalue
          . exact resolveItems_of_record?_eq_none find? hr (record?_of_annotated?_eq_none hnamed hvalue)
        | some value => exact IsAnnotated.resolveItems_cases ⟨⟨t, hr, hnamed⟩, hvalue⟩ find?
  . have hnot := not_exists.mp hcomplex
    refine .inl ⟨.left, s, .notComplex hnot, ?_, resolveItems_of_not_complex find? hnot⟩
    unfold Outcome.Changes
    split
    . next t ht => exact absurd ht (hnot t)
    . rfl

end SoapArray

namespace Generate

open SoapArray

variable {find? : QName → Option TypeRef} {s s' : Store} {r item : TypeRef} {notices : List Notice}

theorem runTypeStep_of_ok (h : resolveItems find? r s = (s', ⟨.ok (), notices⟩))
    : runTypeStep find? (some r) .soapArrays s = (s', ⟨.ok (some r), notices⟩) :=
  Edit.bind_pure_of_ok h fun _ => some r

theorem runTypeStep_of_error {fault : Fault} (h : (resolveItems find? r s).2.result = .error fault)
    : (runTypeStep find? (some r) .soapArrays s).2.result = .error fault := by
  cases hrun : resolveItems find? r s with
  | mk s' report =>
    obtain ⟨result, notices⟩ := report
    rw [hrun] at h
    obtain rfl : result = .error fault := h
    exact congrArg (fun run : Store × Report (Option TypeRef) => run.2.result) (Edit.bind_of_error hrun _)

theorem delivered_loud (cfg : Config) (notices : List Notice)
    : ({ cfg with hasSink := true, level := 5 } : Config).delivered notices = notices := by
  unfold Config.delivered
  rw [if_pos rfl]
  rw [List.filter_eq_self]
  intro n _
  cases n.tier with
  | error => rfl
  | info => rfl
  | debug => rfl

/-! ### The outcomes of the step -/

/-- Where no base runs in a circle, the step goes on with the type itself. It comes to exactly one of the outcomes, with
its notice, or fails because of an entry of the other kind. -/
theorem runTypeStep_outcome (cfg : Config) (schema : Schema) (r : TypeRef)
    (hchain : ∀ ancestor, Relation.ReflTransGen schema.store.HasBase r ancestor →
      ¬ Relation.TransGen schema.store.HasBase ancestor ancestor)
    : (∃ o s', runTypeStep schema.findType? (some r) .soapArrays schema.store =
            (s', ⟨.ok (some r), o.notices schema.store (schema.store.nameOf r).localPart⟩)
          ∧ IsOutcome schema.findType? schema.store r o
          ∧ (∀ o', IsOutcome schema.findType? schema.store r o' → o' = o)
          ∧ (o.notices schema.store (schema.store.nameOf r).localPart).map (·.tier) = o.tiers
          ∧ ({ cfg with hasSink := true, level := 5 } : Config).delivered
                (o.notices schema.store (schema.store.nameOf r).localPart) =
              o.notices schema.store (schema.store.nameOf r).localPart
          ∧ o.Changes schema.store r s')
      ∨ (HasStray schema.store r ∧ ∃ owner property,
          (runTypeStep schema.findType? (some r) .soapArrays schema.store).2.result =
            .error (.noProperty owner property)) := by
  obtain ⟨o, s', ho, hchanges, hrun⟩ | ⟨fault, hfault, hrun⟩ := resolveItems_cases schema.findType? schema.store r
  . exact .inl ⟨o, s', runTypeStep_of_ok hrun, ho, fun o' ho' => ho'.unique ho, o.map_tier_notices _ _,
      delivered_loud cfg _, hchanges⟩
  . cases hfault with
    | stray hstray => exact .inr ⟨hstray, _, _, runTypeStep_of_error hrun⟩
    | circular _ _ hcircular => exact absurd hcircular (not_isCircular_of_acyclic hchain)

/-- The attribute of an array with whole numbers for items. -/
def ofInts : Attribute where
  name := ⟨"", "arrayType"⟩
  type? := some (.builtin .string)
  fixed := ""
  defaultText := ""
  isOptional := true
  written := [⟨ annotation, "xs:int[]"⟩]
  namespaces := [("xs", Builtin.namespaceUri)]

/-- An array that inherits its wildcard from a list of anything. -/
def numbers : Schema where
  targetNamespace := "urn:numbers"
  store :=
    ⟨[.complex ⟨⟨"urn:numbers", "Anything"⟩, none, 0, false, false, none⟩,
        .complex ⟨⟨"urn:numbers", "Numbers"⟩, some (.declared 0), 1, false, false, none⟩],
      [⟨[], [.element ⟨⟨"", ""⟩, none, true, true, true, false⟩]⟩,
        ⟨[.attribute ofInts], []⟩]⟩
  types := [(⟨"urn:numbers", "Anything"⟩, .declared 0), (⟨"urn:numbers", "Numbers"⟩, .declared 1)]

theorem runTypeStep_outcome_numbers
    : (∀ ancestor, Relation.ReflTransGen numbers.store.HasBase (.declared 1) ancestor →
          ¬ Relation.TransGen numbers.store.HasBase ancestor ancestor)
        ∧ ∃ s', runTypeStep numbers.findType? (some (.declared 1)) .soapArrays numbers.store =
            (s', ⟨.ok (some (.declared 1)), [.overriding "Numbers" "" "int"]⟩)
          ∧ (Outcome.searched (.builtin .int) (.found (.declared 0) ⟨⟨"", ""⟩, none, true, true, true, false⟩)).Changes
              numbers.store (.declared 1) s' := by
  have hregular : numbers.store.IsRegular :=
    Store.isRegular_of_inOrder (by decide) (by decide) (by decide) (by decide)
  have hchain : ∀ ancestor, Relation.ReflTransGen numbers.store.HasBase (.declared 1) ancestor →
      ¬ Relation.TransGen numbers.store.HasBase ancestor ancestor := fun ancestor _ => hregular.acyclic ancestor
  have hnames : NamesItem numbers.store (.declared 1) ⟨Builtin.namespaceUri, "int"⟩ :=
    ⟨_, _, ⟨⟨_, rfl, rfl⟩, rfl⟩, by decide, by decide⟩
  have hsearched : IsOutcome numbers.findType? numbers.store (.declared 1)
      (.searched (.builtin .int) (.found (.declared 0) ⟨⟨"", ""⟩, none, true, true, true, false⟩)) :=
    .searched hnames (by decide) (.inherited rfl rfl (.own rfl rfl))
  refine ⟨hchain, ?_⟩
  obtain ⟨o, s', hrun, -, hunique, -, -, hchanges⟩ | ⟨hstray, -⟩ :=
    runTypeStep_outcome .empty numbers (.declared 1) hchain
  . obtain rfl := hunique _ hsearched
    exact ⟨s', hrun, hchanges⟩
  . exact absurd hstray (not_hasStray hregular _)

/-- An array whose base has an attribute among its elements. -/
def misplaced : Schema where
  targetNamespace := "urn:numbers"
  store :=
    ⟨[.complex ⟨⟨"urn:numbers", "Anything"⟩, none, 0, false, false, none⟩,
        .complex ⟨⟨"urn:numbers", "Numbers"⟩, some (.declared 0), 1, false, false, none⟩],
      [⟨[], [.attribute ⟨⟨"", "id"⟩, none, "", "", true, [], []⟩]⟩,
        ⟨[.attribute ofInts], []⟩]⟩
  types := [(⟨"urn:numbers", "Numbers"⟩, .declared 1)]

/-- The step does not go on with the array, though its bases do not run in a circle. -/
theorem not_runTypeStep_outcome_misplaced
    : (∀ ancestor, Relation.ReflTransGen misplaced.store.HasBase (.declared 1) ancestor →
          ¬ Relation.TransGen misplaced.store.HasBase ancestor ancestor)
        ∧ ¬ ∃ s' r? notices, runTypeStep misplaced.findType? (some (.declared 1)) .soapArrays misplaced.store =
            (s', ⟨.ok r?, notices⟩) := by
  have hbases : ∀ i j, misplaced.store.HasBase (.declared i) (.declared j) → j < i := by
    intro i j hbase
    match i with
    | 0 => cases hbase
    | 1 =>
      cases hbase
      decide
    | _ + 2 => cases hbase
  refine ⟨fun ancestor _ => Store.acyclic_of_lt hbases ancestor, ?_⟩
  rintro ⟨s', r?, notices, hrun⟩
  have hfault : (runTypeStep misplaced.findType? (some (.declared 1)) .soapArrays misplaced.store).2.result =
      .error (.noProperty "Attribute" "wildcard") := rfl
  rw [hrun] at hfault
  cases hfault

/-! ### The end of the step -/

/-- The walk over the bases of a type ends after no more steps than there are types, or the type leads to one that it
leads back to, and the walk never ends. In the latter case alone the step does not end either, if it gets that far. -/
theorem runTypeStep_ends (find? : QName → Option TypeRef) (s : Store) (r : TypeRef)
    : ((IsCircular s r ∧ ∀ n, ¬ IsEnd s ((s.baseOf?)^[n] (some r)))
          ∨ (¬ IsCircular s r ∧ ∃ n ≤ s.nodes.length, IsEnd s ((s.baseOf?)^[n] (some r))))
        ∧ ((runTypeStep find? (some r) .soapArrays s).2.result = .error .endlessHierarchy ↔
            IsCircular s r ∧ ∃ name item, NamesItem s r name ∧ find? name = some item)
        ∧ ((runTypeStep find? (some r) .soapArrays s).2.result = .ok (some r)
          ∨ (runTypeStep find? (some r) .soapArrays s).2.result = .error .endlessHierarchy
          ∨ (HasStray s r ∧ ∃ owner property,
              (runTypeStep find? (some r) .soapArrays s).2.result = .error (.noProperty owner property))) := by
  refine ⟨?_, ?_, ?_⟩
  . by_cases hcircular : IsCircular s r
    . exact .inl ⟨hcircular, hcircular.not_isEnd⟩
    . exact .inr ⟨hcircular, exists_isEnd_iff.mpr hcircular⟩
  . constructor
    . intro hendless
      obtain ⟨o, s', -, -, hrun⟩ | ⟨fault, hfault, hrun⟩ := resolveItems_cases find? s r
      . rw [runTypeStep_of_ok hrun] at hendless
        cases hendless
      . rw [runTypeStep_of_error hrun] at hendless
        cases hendless
        cases hfault with
        | circular hname hfind hcircular => exact ⟨hcircular, _, _, hname, hfind⟩
    . rintro ⟨hcircular, name, item, hname, hfind⟩
      exact runTypeStep_of_error (resolveItems_of_isCircular hname hfind hcircular)
  . obtain ⟨o, s', -, -, hrun⟩ | ⟨fault, hfault, hrun⟩ := resolveItems_cases find? s r
    . rw [runTypeStep_of_ok hrun]
      exact .inl rfl
    . cases hfault with
      | stray hstray => exact .inr (.inr ⟨hstray, _, _, runTypeStep_of_error hrun⟩)
      | circular _ _ _ => exact .inr (.inl (runTypeStep_of_error hrun))

/-- Two types that are based on one another, the first of them an array. -/
def ring : Schema where
  targetNamespace := "urn:ring"
  store :=
    ⟨[.complex ⟨⟨"urn:ring", "Numbers"⟩, some (.declared 1), 0, false, false, none⟩,
        .complex ⟨⟨"urn:ring", "Rows"⟩, some (.declared 0), 1, false, false, none⟩],
      [⟨[.attribute ofInts], []⟩, ⟨[], []⟩]⟩
  types := [(⟨"urn:ring", "Numbers"⟩, .declared 0), (⟨"urn:ring", "Rows"⟩, .declared 1)]

theorem isCircular_ring : IsCircular ring.store (.declared 0) := by
  have hfirst : Passes ring.store (.declared 0) (.declared 1) := ⟨_, rfl, by decide, rfl⟩
  have hsecond : Passes ring.store (.declared 1) (.declared 0) := ⟨_, rfl, by decide, rfl⟩
  exact ⟨.declared 0, .refl, .head hfirst (.single hsecond)⟩

/-- The walk from the array never ends, and neither does the step. Where an attribute is misplaced, the walk ends, but
the step fails. -/
theorem not_runTypeStep_ends_ring
    : (∃ t, ring.store.get (.declared 0) = .complex t)
        ∧ (∀ n, ¬ IsEnd ring.store ((ring.store.baseOf?)^[n] (some (.declared 0))))
        ∧ (runTypeStep ring.findType? (some (.declared 0)) .soapArrays ring.store).2.result =
            .error .endlessHierarchy
        ∧ (runTypeStep misplaced.findType? (some (.declared 1)) .soapArrays misplaced.store).2.result =
            .error (.noProperty "Attribute" "wildcard") :=
  ⟨⟨_, rfl⟩, isCircular_ring.not_isEnd, rfl, rfl⟩

end Generate

end XmlBinding
