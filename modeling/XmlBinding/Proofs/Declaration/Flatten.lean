import XmlBinding.Config.Basic
import XmlBinding.Proofs.Name.Tag
import XmlBinding.Proofs.Report

/-!
This module contains that flattening is all or nothing. A structure with one list field becomes that list and gets two
methods, unless its tag or the type of its items is refused: then an error is noted and nothing is changed. Any other
declaration is passed over.
-/

namespace XmlBinding

open Text

/-! ### Methods -/

/-- The names from which an expression starts: the first part of a dotted name, and the name of the lists around it. -/
def TypeExpr.identifiers : TypeExpr → List String
  | .named name _ => [(pieces '.' name).headD ""]
  | .list item => "list" :: item.identifiers

namespace Method

variable {item : TypeExpr} {tag : ItemTag}

/-- Methods for values of a type can be made when no constant stands where the type has a name. -/
def IsNameable (item : TypeExpr) : Prop :=
  ∀ name ∈ item.identifiers, name ∉ constants

theorem isNameable_iff (item : TypeExpr) : IsNameable item ↔ headName item ∉ constants := by
  induction item with
  | named name imports =>
    unfold IsNameable TypeExpr.identifiers
    rw [List.forall_mem_singleton]
    rfl
  | list item ih =>
    have hlist : "list" ∉ constants := by decide
    have hhead : headName (.list item) = headName item := rfl
    unfold IsNameable TypeExpr.identifiers
    rw [List.forall_mem_cons]
    rw [hhead]
    rw [← ih]
    exact and_iff_right hlist

theorem reading_of_isNameable (h : IsNameable item) (tag : ItemTag) : reading item tag = .ok (.fromXml item tag) := by
  unfold reading
  rw [if_neg]
  simpa using (isNameable_iff item).mp h

theorem reading_of_not_isNameable (h : ¬ IsNameable item) (tag : ItemTag)
    : reading item tag = .error (.constantName (headName item)) := by
  unfold reading
  rw [if_pos]
  simpa using (not_congr (isNameable_iff item)).mp h

end Method

namespace Declaration

open Method

variable {d : Declaration} {f : Field} {item : TypeExpr} {methods : List Method} {fault : Fault}

/-! ### Structures with one list -/

/-- The declaration is a structure with a list as its only field. It may have any constants. -/
def HasOnlyList (d : Declaration) (f : Field) (item : TypeExpr) : Prop :=
  (∃ constants, d.shape = .struct ⟨[f], constants⟩) ∧ f.type = .list item

theorem onlyList?_eq_some_iff : d.onlyList? = some (f, item) ↔ d.HasOnlyList f item := by
  constructor
  . intro h
    unfold onlyList? at h
    split at h
    . next f' constants hshape =>
      split at h
      . next item' htype =>
        cases h
        exact ⟨⟨constants, hshape⟩, htype⟩
      . cases h
    . cases h
  . rintro ⟨⟨constants, hshape⟩, htype⟩
    unfold onlyList?
    rw [hshape]
    dsimp only
    rw [htype]

/-! ### Outcomes -/

theorem flatten_of_onlyList?_eq_none (h : d.onlyList? = none) : d.flatten = ⟨.ok d, []⟩ := by
  unfold flatten
  rw [h]
  rfl

theorem flatten_of_listMethods_eq_error (h : d.onlyList? = some (f, item)) (hfault : listMethods f item = .error fault)
    : d.flatten = ⟨.ok d, [.flattening d.name, .notFlattened d.name fault]⟩ := by
  unfold flatten
  rw [h]
  dsimp only
  rw [hfault]
  rfl

theorem flatten_of_listMethods_eq_ok (h : d.onlyList? = some (f, item)) (hmethods : listMethods f item = .ok methods)
    : d.flatten =
        ⟨.ok { d with shape := .type (.list item), methods := d.methods ++ methods }, [.flattening d.name]⟩ := by
  unfold flatten
  rw [h]
  dsimp only
  rw [hmethods]
  rfl

/-- Why the list field of a structure is refused: its tag cannot be read, or else a method would have a constant for a
name. -/
inductive IsRefused (f : Field) (item : TypeExpr) : Fault → Prop
  | tag : ¬ Tag.IsWellFormed f.tag → IsRefused f item (.malformedTag ⟨f.tag⟩)
  | item : Tag.IsWellFormed f.tag → ¬ IsNameable item → IsRefused f item (.constantName (headName item))

theorem listMethods_of_isRefused (h : IsRefused f item fault) : listMethods f item = .error fault := by
  unfold listMethods
  cases h with
  | tag htag => rw [ItemTag.read_of_not_isWellFormed htag]
  | item htag hitem =>
    obtain ⟨tag, htag⟩ := ItemTag.exists_read_of_isWellFormed htag
    rw [htag]
    dsimp only
    rw [reading_of_not_isNameable hitem]
    rfl

theorem listMethods_of_isNameable {tag : ItemTag} (htag : ItemTag.read f.tag = .ok tag) (hitem : IsNameable item)
    : listMethods f item = .ok [.toXml, .fromXml item tag] := by
  unfold listMethods
  rw [htag]
  dsimp only
  rw [reading_of_isNameable hitem]
  rfl

theorem listMethods_cases (f : Field) (item : TypeExpr)
    : (∃ fault, IsRefused f item fault) ∨
        Tag.IsWellFormed f.tag ∧ IsNameable item ∧
          ∃ tag, ItemTag.read f.tag = .ok tag ∧ listMethods f item = .ok [.toXml, .fromXml item tag] := by
  by_cases htag : Tag.IsWellFormed f.tag
  . by_cases hitem : IsNameable item
    . obtain ⟨tag, hread⟩ := ItemTag.exists_read_of_isWellFormed htag
      exact .inr ⟨htag, hitem, tag, hread, listMethods_of_isNameable hread hitem⟩
    . exact .inl ⟨_, .item htag hitem⟩
  . exact .inl ⟨_, .tag htag⟩

/-- There is a list field whose tag can be read and for whose items methods can be made. -/
def IsFlattenable (d : Declaration) : Prop :=
  ∃ f item, d.HasOnlyList f item ∧ Tag.IsWellFormed f.tag ∧ IsNameable item

/-- The list field stands in the place of the structure, and the two methods come after those that were there. -/
def BecomesList (d out : Declaration) : Prop :=
  ∃ f item tag, d.HasOnlyList f item ∧ ItemTag.read f.tag = .ok tag ∧
    out = { d with shape := .type f.type, methods := d.methods ++ [.toXml, .fromXml item tag] }

theorem BecomesList.ne {out : Declaration} (h : d.BecomesList out) : out ≠ d := by
  obtain ⟨f, item, tag, -, -, rfl⟩ := h
  intro heq
  have hmethods := congrArg Declaration.methods heq
  simp at hmethods

/-- A list has no fields, and so no field that is a list. -/
theorem BecomesList.flatten_eq {out : Declaration} (h : d.BecomesList out) : out.flatten = ⟨.ok out, []⟩ := by
  obtain ⟨f, item, tag, -, -, rfl⟩ := h
  exact flatten_of_onlyList?_eq_none rfl

theorem HasOnlyList.unique {f' : Field} {item' : TypeExpr} (h : d.HasOnlyList f item) (h' : d.HasOnlyList f' item')
    : f' = f ∧ item' = item := by
  have honly := onlyList?_eq_some_iff.mpr h
  rw [onlyList?_eq_some_iff.mpr h'] at honly
  exact Prod.mk.inj (Option.some.inj honly)

theorem IsRefused.unique {fault' : Fault} (h : IsRefused f item fault) (h' : IsRefused f item fault')
    : fault' = fault := by
  have hmethods := listMethods_of_isRefused h
  rw [listMethods_of_isRefused h'] at hmethods
  exact Except.error.inj hmethods

theorem IsRefused.not_accepted (h : IsRefused f item fault) : ¬ (Tag.IsWellFormed f.tag ∧ IsNameable item) := by
  rintro ⟨htag, hitem⟩
  cases h with
  | tag hnot => exact hnot htag
  | item _ hnot => exact hnot hitem

theorem HasOnlyList.isFlattenable_iff (h : d.HasOnlyList f item)
    : d.IsFlattenable ↔ Tag.IsWellFormed f.tag ∧ IsNameable item := by
  constructor
  . rintro ⟨f', item', h', haccepted⟩
    obtain ⟨rfl, rfl⟩ := h.unique h'
    exact haccepted
  . intro haccepted
    exact ⟨f, item, h, haccepted⟩

/-- What flattening makes of a declaration, and the errors that are noted. -/
inductive Flattens (d : Declaration) : Declaration → List Notice → Prop
  | passedOver : (∀ f item, ¬ d.HasOnlyList f item) → Flattens d d []
  | refused {f : Field} {item : TypeExpr} {fault : Fault} : d.HasOnlyList f item → IsRefused f item fault →
      Flattens d d [.notFlattened d.name fault]
  | listed {out : Declaration} : d.IsFlattenable → d.BecomesList out → Flattens d out []

theorem exists_flattens (d : Declaration)
    : ∃ out notices, d.flatten = ⟨.ok out, notices⟩ ∧ d.Flattens out (Notice.errors notices) := by
  cases honly : d.onlyList? with
  | none =>
    refine ⟨d, [], flatten_of_onlyList?_eq_none honly, .passedOver ?_⟩
    intro f item h
    rw [onlyList?_eq_some_iff.mpr h] at honly
    cases honly
  | some only =>
    obtain ⟨f, item⟩ := only
    have h := onlyList?_eq_some_iff.mp honly
    obtain ⟨fault, hrefused⟩ | ⟨htag, hitem, tag, hread, hmethods⟩ := listMethods_cases f item
    . exact ⟨d, _, flatten_of_listMethods_eq_error honly (listMethods_of_isRefused hrefused), .refused h hrefused⟩
    . refine ⟨_, _, flatten_of_listMethods_eq_ok honly hmethods, .listed ⟨f, item, h, htag, hitem⟩ ?_⟩
      refine ⟨f, item, tag, h, hread, ?_⟩
      rw [h.2]

variable {out : Declaration} {errors : List Notice}

theorem Flattens.eq_or_becomesList (h : d.Flattens out errors) : out = d ∨ d.BecomesList out := by
  cases h with
  | passedOver => exact .inl rfl
  | refused => exact .inl rfl
  | listed _ hlist => exact .inr hlist

theorem eq_or_becomesList_of_flatten (h : d.flatten.result = .ok out) : out = d ∨ d.BecomesList out := by
  obtain ⟨out', notices, hflatten, hout⟩ := d.exists_flattens
  rw [hflatten] at h
  obtain rfl := Except.ok.inj h
  exact hout.eq_or_becomesList

theorem Flattens.becomesList_iff (h : d.Flattens out errors) : d.BecomesList out ↔ d.IsFlattenable := by
  cases h with
  | passedOver hnone =>
    refine iff_of_false (fun hlist => hlist.ne rfl) ?_
    rintro ⟨f, item, honly, -⟩
    exact hnone f item honly
  | refused honly hrefused =>
    refine iff_of_false (fun hlist => hlist.ne rfl) ?_
    rw [honly.isFlattenable_iff]
    exact hrefused.not_accepted
  | listed hflattenable hlist => exact iff_of_true hlist hflattenable

theorem Flattens.errors_eq_iff (h : d.Flattens out errors) (fault : Fault)
    : errors = [.notFlattened d.name fault] ↔ ∃ f item, d.HasOnlyList f item ∧ IsRefused f item fault := by
  cases h with
  | passedOver hnone =>
    refine iff_of_false (List.cons_ne_nil _ _).symm ?_
    rintro ⟨f, item, honly, -⟩
    exact hnone f item honly
  | refused honly hrefused =>
    constructor
    . intro herrors
      obtain ⟨-, rfl⟩ := Notice.notFlattened.inj (List.cons.inj herrors).1
      exact ⟨_, _, honly, hrefused⟩
    . rintro ⟨f', item', honly', hrefused'⟩
      obtain ⟨rfl, rfl⟩ := honly.unique honly'
      rw [hrefused.unique hrefused']
  | listed hflattenable =>
    refine iff_of_false (List.cons_ne_nil _ _).symm ?_
    rintro ⟨f, item, honly, hrefused⟩
    exact hrefused.not_accepted (honly.isFlattenable_iff.mp hflattenable)

theorem Flattens.errors_eq_nil_iff (h : d.Flattens out errors)
    : errors = [] ↔ ∀ f item, d.HasOnlyList f item → Tag.IsWellFormed f.tag ∧ IsNameable item := by
  cases h with
  | passedOver hnone => exact iff_of_true rfl fun f item honly => absurd honly (hnone f item)
  | refused honly hrefused =>
    refine iff_of_false (List.cons_ne_nil _ _) ?_
    intro haccepted
    exact hrefused.not_accepted (haccepted _ _ honly)
  | listed hflattenable =>
    refine iff_of_true rfl ?_
    intro f item honly
    exact honly.isFlattenable_iff.mp hflattenable

end Declaration

namespace Config

/-- Wherever there is a sink, it takes the errors. -/
theorem errors_delivered (cfg : Config) (notices : List Notice)
    : Notice.errors (cfg.delivered notices) = if cfg.hasSink then Notice.errors notices else [] := by
  unfold delivered
  cases cfg.hasSink with
  | false => rfl
  | true =>
    simp only [if_true, Notice.errors, List.filter_filter]
    apply List.filter_congr
    intro n _
    cases n.tier <;> rfl

end Config

namespace Declaration

open Method

/-- A declaration is left as it is, or else its list field stands in the place of the structure and two methods are added.
It is flattened when there is a list field whose tag can be read and whose items can be named in a method. If a list field
is refused, one error tells why, and there is no other error. A second application changes nothing. -/
theorem flatten_allOrNothing (cfg : Config) (d : Declaration)
    : ∃ out, d.flatten.result = .ok out ∧
        (out = d ∨ d.BecomesList out) ∧
        (d.BecomesList out ↔ d.IsFlattenable) ∧
        (cfg.hasSink = true →
          (∀ fault, Notice.errors (cfg.delivered d.flatten.notices) = [.notFlattened d.name fault] ↔
            ∃ f item, d.HasOnlyList f item ∧ IsRefused f item fault) ∧
          (Notice.errors (cfg.delivered d.flatten.notices) = [] ↔
            ∀ f item, d.HasOnlyList f item → Tag.IsWellFormed f.tag ∧ IsNameable item)) ∧
        (cfg.hasSink = false → cfg.delivered d.flatten.notices = []) ∧
        out.flatten.result = .ok out := by
  obtain ⟨out, notices, hflatten, h⟩ := d.exists_flattens
  have hresult : d.flatten.result = .ok out := congrArg Report.result hflatten
  have hnotices : d.flatten.notices = notices := congrArg Report.notices hflatten
  refine ⟨out, hresult, h.eq_or_becomesList, h.becomesList_iff, ?_, ?_, ?_⟩
  . intro hsink
    rw [hnotices]
    rw [cfg.errors_delivered]
    rw [if_pos hsink]
    exact ⟨h.errors_eq_iff, h.errors_eq_nil_iff⟩
  . intro hsink
    unfold Config.delivered
    rw [if_neg (by simp [hsink])]
  . cases h.eq_or_becomesList with
    | inl hsame =>
      rw [hsame] at hresult ⊢
      exact hresult
    | inr hlist => exact congrArg Report.result hlist.flatten_eq

end Declaration

end XmlBinding
