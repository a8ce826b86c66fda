import XmlBinding.Proofs.Config.Defaults
import XmlBinding.Proofs.Declaration.Order
import XmlBinding.Proofs.Except
import XmlBinding.Proofs.Generate.Alone
import XmlBinding.Proofs.Generate.Faults
import XmlBinding.Proofs.Generate.Origin
import XmlBinding.Proofs.Generate.Run
import XmlBinding.Render.Module

/-!
This module contains that no reference leads out of what is generated. If all types that are mentioned are registered,
each reference is to a builtin type or to a declaration that is there, whatever was retyped, flattened or left out
because its name was taken.
-/

namespace XmlBinding

open Report SoapArray

/-! ### What a schema mentions -/

def Entity.isBuiltin : Entity → Bool
  | .builtin _ => true
  | _ => false

/-- The type of a member that becomes a field. -/
def Member.fieldType? : Member → Option TypeRef
  | .attribute a => if a.fixed.isEmpty then a.type? else none
  | .element e => e.type?

namespace Schema

/-- The type is builtin, or it is registered under its own name. -/
def Covers (schema : Schema) (r : TypeRef) : Prop :=
  (schema.store.get r).isBuiltin = true ∨
    (schema.store.nameOf r, r) ∈ schema.types ∧ (schema.store.get r).isType = true

instance (schema : Schema) (r : TypeRef) : Decidable (schema.Covers r) :=
  inferInstanceAs (Decidable (_ ∨ _ ∧ _))

/-- The types that the declaration of a type mentions: those of elements, of attributes that are not fixed and of the
items of an array, or the base and the items of a simple type. -/
def mentioned (schema : Schema) (r : TypeRef) : List TypeRef :=
  match schema.store.get r with
  | .complex t =>
    let attributes := schema.store.attributesOf t
    (attributes ++ schema.store.elementsOf t).filterMap (·.fieldType?)
      ++ (arrayItem? schema.findType? attributes).toList
  | .simple t => t.base?.toList ++ t.listOf?.toList
  | _ => []

/-- The types of the attributes that are not fixed once the annotation of an array is recorded. -/
def revealed (schema : Schema) (r : TypeRef) : List TypeRef :=
  match schema.store.get r with
  | .complex t =>
    match record? (schema.store.attributesOf t) with
    | .ok (some (recorded, _)) => recorded.filterMap (·.fieldType?)
    | _ => []
  | _ => []

variable {schema : Schema} {s : Store} {r x : TypeRef} {t : ComplexType}

theorem mentioned_of_complex (hr : schema.store.get r = .complex t)
    : schema.mentioned r =
        (schema.store.attributesOf t ++ schema.store.elementsOf t).filterMap (·.fieldType?)
          ++ (arrayItem? schema.findType? (schema.store.attributesOf t)).toList := by
  unfold mentioned
  rw [hr]

theorem mem_mentioned_of_member {m : Member} (hr : schema.store.get r = .complex t)
    (hm : m ∈ schema.store.attributesOf t ++ schema.store.elementsOf t) (htype : m.fieldType? = some x)
    : x ∈ schema.mentioned r := by
  rw [mentioned_of_complex hr]
  exact List.mem_append_left _ (List.mem_filterMap.mpr ⟨m, hm, htype⟩)

/-- Arrays that are resolved mention nothing new. -/
theorem mem_of_uses (halters : Alters schema.findType? schema.store s) {x? : Option TypeRef}
    (h : Generate.Uses s r x?) (hx : x? = some x)
    : x ∈ schema.mentioned r ∨ x ∈ schema.revealed r := by
  have hget : s.get r = schema.store.get r := Store.get_congr halters.nodes r
  cases h with
  | «attribute» hr ha hfixed =>
    next t a =>
    rw [hget] at hr
    have htype : (Member.attribute a).fieldType? = some x := by
      rw [Member.fieldType?]
      rw [if_pos (String.isEmpty_iff.mpr hfixed)]
      exact hx
    cases halters.attributes t.members with
    | inl hsame =>
      left
      have hold : .attribute a ∈ schema.store.attributesOf t := by
        unfold Store.attributesOf
        rw [← hsame]
        exact ha
      exact mem_mentioned_of_member hr (List.mem_append_left _ hold) htype
    | inr hrecorded =>
      right
      obtain ⟨name, hname⟩ := hrecorded
      unfold revealed
      rw [hr]
      dsimp only
      rw [show record? (schema.store.attributesOf t) = _ from hname]
      exact List.mem_filterMap.mpr ⟨_, ha, htype⟩
  | element hr he =>
    next t e =>
    rw [hget] at hr
    left
    obtain hold | ⟨_, w, item, _, hitem, heq⟩ := halters.elements t.members _ he
    . exact mem_mentioned_of_member hr (List.mem_append_right _ hold) hx
    . cases heq
      obtain rfl := Option.some.inj hx
      rw [mentioned_of_complex hr]
      exact List.mem_append_right _ (Option.mem_toList.mpr hitem)
  | item hr hitem =>
    rw [hget] at hr
    left
    unfold mentioned
    rw [hr]
    rw [← Option.some.inj hx]
    exact List.mem_append_right _ (Option.mem_toList.mpr hitem)
  | base hr _ =>
    rw [hget] at hr
    left
    unfold mentioned
    rw [hr]
    exact List.mem_append_left _ (Option.mem_toList.mpr hx)

end Schema

/-! ### References -/

namespace Generate

variable {cfg : Config} {schema : Schema} {s : Store} {ds : List Declaration}

theorem mem_sortedImports {d : Declaration} (hnames : (ds.map (·.name)).Nodup) (hd : d ∈ ds) {text : String}
    (h : text ∈ d.shape.imports)
    : text ∈ Render.sortedImports ((Declaration.inOrder ds).flatMap (·.shape.imports)) := by
  unfold Render.sortedImports
  rw [List.mem_mergeSort]
  rw [List.mem_eraseDups]
  rw [List.mem_flatMap]
  exact ⟨d, (Declaration.inOrder_perm hnames).mem_iff.mpr hd, h⟩

/-- A type that is covered and not builtin has its name among the declarations. -/
theorem name_mem_of_covers (hcfg : cfg.IsRegular) (hmapped : cfg.unmapped = []) (hfilter : cfg.typeFilter? = none)
    (hds : IsDrafted cfg schema.findType? schema.store [] (schema.types.map (·.2)) ds) {x : TypeRef}
    (hx : schema.Covers x) (hbuiltin : ∀ b, schema.store.get x ≠ .builtin b) {name : String}
    (hname : (cfg.typeName (schema.store.nameOf x)).result = .ok name)
    : name ∈ ds.map (·.name) := by
  obtain hx | ⟨hregistered, htype⟩ := hx
  . exfalso
    cases hget : schema.store.get x with
    | builtin b => exact hbuiltin b hget
    | _ =>
      rw [hget] at hx
      cases hx
  . obtain ⟨s, halters, hsettled⟩ := hds.complete x (List.mem_map.mpr ⟨_, hregistered, rfl⟩)
    have hget := Store.get_congr halters.nodes x
    have hnameOf := Store.nameOf_congr halters.nodes x
    have hfinish : (∃ d, (finish cfg s (some x)).result = .ok (some d)) ∨
        ∃ e, (finish cfg s (some x)).result = .error e ∧ e.isRecoverable = false := by
      apply finish_of_isType hcfg hmapped
      . rw [hget]
        exact htype
      . rw [hget]
        exact hbuiltin
    cases hsettled with
    | excluded hexcluded =>
      unfold isExcluded at hexcluded
      rw [hfilter] at hexcluded
      cases hexcluded
    | named hd hmem =>
      have hsame := (of_finish hcfg hd).1
      rw [hnameOf] at hsame
      rw [hname] at hsame
      rw [Except.ok.inj hsame]
      simpa using hmem
    | undeclared hnone => simp [hnone] at hfinish
    | givenUp he hrecoverable => simp [he, hrecoverable] at hfinish

theorem reference_of_isFor (hcfg : cfg.IsRegular) (hmapped : cfg.unmapped = []) (hfilter : cfg.typeFilter? = none)
    (hds : IsDrafted cfg schema.findType? schema.store [] (schema.types.map (·.2)) ds)
    (hnodes : s.nodes = schema.store.nodes) {x? : Option TypeRef} (hcovers : ∀ x ∈ x?, schema.Covers x)
    {type : TypeExpr} (htype : IsFor cfg s x? type)
    : (∃ b : Builtin, type.rootName = b.typeExpr.rootName ∧ type.imports = b.typeExpr.imports) ∨
        type.rootName ∈ ds.map (·.name) := by
  obtain ⟨plain, hplain, htype⟩ := htype
  have hroot : type.rootName = plain.rootName ∧ type.imports = plain.imports := by
    obtain rfl | rfl := htype <;> exact ⟨rfl, rfl⟩
  rw [hroot.1]
  rw [hroot.2]
  by_cases hbuiltin : ∃ b, s.get (x?.getD (.builtin .anyType)) = .builtin b
  . obtain ⟨b, hb⟩ := hbuiltin
    rw [Config.typeExpr_of_builtin (Config.isMapped_of_unmapped_eq_nil hmapped s _) hb] at hplain
    rw [← result_pure_eq_ok_iff.mp hplain]
    exact .inl ⟨b, rfl, rfl⟩
  . have hdeclared := not_exists.mp hbuiltin
    rw [Config.typeExpr_of_not_builtin hdeclared] at hplain
    obtain ⟨name, hname, hplain⟩ := result_bind_eq_ok_iff.mp hplain
    rw [← result_pure_eq_ok_iff.mp hplain]
    right
    cases x? with
    -- Without a type the reference is to the root of all types.
    | none => exact absurd rfl (hdeclared .anyType)
    | some x =>
      rw [Store.nameOf_congr hnodes] at hname
      rw [Store.get_congr hnodes] at hdeclared
      exact name_mem_of_covers hcfg hmapped hfilter hds (hcovers x rfl) hdeclared hname

/-- With the defaults, each reference of a declaration is to a builtin type, whose import is there, or to a declaration,
if all types that a registered type mentions are covered, before and after the annotations of arrays are recorded. -/
theorem reference_mem_declarations (hcfg : Config.load true none [] .empty = .ok cfg)
    (hmentioned : ∀ p ∈ schema.types, ∀ x ∈ schema.mentioned p.2, schema.Covers x)
    (hrevealed : ∀ p ∈ schema.types, ∀ x ∈ schema.revealed p.2, schema.Covers x)
    : (schema.store.IsRegular → ∃ ds, (declarations cfg schema).2.result = .ok ds) ∧
        ∀ ds, (declarations cfg schema).2.result = .ok ds → ∀ d ∈ ds, ∀ name ∈ d.shape.references,
          (∃ b : Builtin, name = b.typeExpr.rootName ∧
            ∀ text ∈ b.typeExpr.imports,
              text ∈ Render.sortedImports ((Declaration.inOrder ds).flatMap (·.shape.imports))) ∨
          name ∈ ds.map (·.name) := by
  rw [Config.load_defaults] at hcfg
  obtain rfl := Except.ok.inj hcfg
  have hregular := Config.isRegular_defaults
  constructor
  . intro hs
    have hself := isReached_self .defaults schema.findType? schema.store
    obtain ⟨notices, -, hdrafts⟩ := hself.drafts_nil hregular hs (schema.types.map (·.2))
    exact ⟨_, congrArg (·.2.result) hdrafts⟩
  . intro ds hresult d hd name hname
    have hds := isDrafted_declarations hregular hresult
    obtain ⟨r, hr, s, halters, hfinish⟩ := hds.sound d hd
    obtain ⟨⟨name', r'⟩, hregistered, rfl⟩ := List.mem_map.mp hr
    rw [Shape.references_eq] at hname
    obtain ⟨type, htype, rfl⟩ := List.mem_map.mp hname
    obtain ⟨x?, huses, hfor⟩ := exists_uses_of_finish hregular hfinish type htype
    have hcovers : ∀ x ∈ x?, schema.Covers x := by
      intro x hx
      cases Schema.mem_of_uses halters huses hx with
      | inl hmem => exact hmentioned _ hregistered x hmem
      | inr hmem => exact hrevealed _ hregistered x hmem
    refine (reference_of_isFor hregular rfl rfl hds halters.nodes hcovers hfor).imp_left ?_
    rintro ⟨b, hroot, himports⟩
    refine ⟨b, hroot, ?_⟩
    intro text htext
    apply mem_sortedImports (by simpa using hds.nodup) hd
    rw [Shape.imports_eq]
    rw [List.mem_flatMap]
    exact ⟨type, htype, himports ▸ htext⟩

/-! ### Books -/

def booksAttribute : Attribute :=
  ⟨⟨"", "arrayType"⟩, none, "", "", true, [⟨SoapArray.annotation, "t:Book[]"⟩], [("t", "urn:t")]⟩

/-- An array of books, which refer back to such an array, and a type with the name of a book. -/
def library : Schema where
  targetNamespace := "urn:t"
  store :=
    ⟨[arrayOf "Array" none 0, arrayOf "Books" (some (.declared 0)) 1, arrayOf "Book" none 2, aliasOf "_isbn" .string,
        arrayOf "Author" none 3, aliasOf "book" .int],
      [⟨[], [.element anyItems]⟩,
        ⟨[.attribute booksAttribute], []⟩,
        ⟨[.attribute ⟨⟨"", "isbn"⟩, some (.declared 3), "", "", true, [], []⟩],
          [.element ⟨⟨"", "author"⟩, some (.declared 4), false, false, false, false⟩,
            .element ⟨⟨"", "printed"⟩, some (.builtin .date), false, false, false, false⟩]⟩,
        ⟨[], [.element ⟨⟨"", "books"⟩, some (.declared 1), false, false, false, false⟩]⟩]⟩
  types :=
    [(⟨"urn:t", "Array"⟩, .declared 0), (⟨"urn:t", "Books"⟩, .declared 1), (⟨"urn:t", "Book"⟩, .declared 2),
      (⟨"urn:t", "_isbn"⟩, .declared 3), (⟨"urn:t", "Author"⟩, .declared 4), (⟨"urn:t", "book"⟩, .declared 5)]

theorem isRegular_library : library.store.IsRegular :=
  Store.isRegular_of_inOrder (by decide) (by decide) (by decide) (by decide)

theorem names_library
    : ∃ ds, (declarations .defaults library).2.result = .ok ds ∧
        (ds.map fun d => (d.name, d.shape.references)) =
          [("Array", ["Any"]), ("Books", ["Book"]), ("Book", ["Isbn", "Author", "datetime.date"]),
            ("Isbn", ["str"]), ("Author", ["Books"])] := by
  apply exists_of_toOption_map
  decide +kernel

theorem reference_mem_declarations_library
    : Config.load true none [] .empty = .ok .defaults ∧
        (∀ p ∈ library.types, ∀ x ∈ library.mentioned p.2, library.Covers x) ∧
        (∀ p ∈ library.types, ∀ x ∈ library.revealed p.2, library.Covers x) ∧ library.store.IsRegular ∧
        ∃ ds, (declarations .defaults library).2.result = .ok ds ∧
          (ds.map fun d => (d.name, d.shape.references)) =
            [("Array", ["Any"]), ("Books", ["Book"]), ("Book", ["Isbn", "Author", "datetime.date"]),
              ("Isbn", ["str"]), ("Author", ["Books"])] ∧
          ∀ d ∈ ds, ∀ name ∈ d.shape.references,
            (∃ b : Builtin, name = b.typeExpr.rootName ∧
              ∀ text ∈ b.typeExpr.imports,
                text ∈ Render.sortedImports ((Declaration.inOrder ds).flatMap (·.shape.imports))) ∨
            name ∈ ds.map (·.name) := by
  have hmentioned : ∀ p ∈ library.types, ∀ x ∈ library.mentioned p.2, library.Covers x := by decide +kernel
  have hrevealed : ∀ p ∈ library.types, ∀ x ∈ library.revealed p.2, library.Covers x := by decide +kernel
  obtain ⟨-, hclosed⟩ := reference_mem_declarations Config.load_defaults hmentioned hrevealed
  obtain ⟨ds, hds, hnames⟩ := names_library
  exact ⟨Config.load_defaults, hmentioned, hrevealed, isRegular_library, ds, hds, hnames, hclosed ds hds⟩

/-- A fixed attribute of a type that is not registered, with an annotation that has no text. -/
def emptied : Schema where
  targetNamespace := "urn:t"
  store :=
    ⟨[arrayOf "Holder" none 0, aliasOf "Hidden" .string],
      [⟨[.attribute ⟨⟨"", "arrayType"⟩, some (.declared 1), "x", "", true, [⟨SoapArray.annotation, ""⟩], []⟩], []⟩]⟩
  types := [(⟨"urn:t", "Holder"⟩, .declared 0)]

theorem references_emptied
    : ∃ ds, (declarations .defaults emptied).2.result = .ok ds ∧
        (ds.map fun d => (d.name, d.shape.references)) = [("Holder", ["Hidden"])] := by
  apply exists_of_toOption_map
  decide +kernel

/-- The annotation takes the place of the fixed value, so the attribute becomes a field of a type that is not there. -/
theorem not_reference_mem_declarations_emptied
    : Config.load true none [] .empty = .ok .defaults ∧ emptied.store.IsRegular ∧
        (∀ p ∈ emptied.types, ∀ x ∈ emptied.mentioned p.2, emptied.Covers x) ∧
        ∃ ds, (declarations .defaults emptied).2.result = .ok ds ∧
          ∃ d ∈ ds, "Hidden" ∈ d.shape.references ∧ (∀ b : Builtin, "Hidden" ≠ b.typeExpr.rootName) ∧
            "Hidden" ∉ ds.map (·.name) := by
  have hregular : emptied.store.IsRegular :=
    Store.isRegular_of_inOrder (by decide) (by decide) (by decide) (by decide)
  refine ⟨Config.load_defaults, hregular, by decide +kernel, ?_⟩
  obtain ⟨ds, hds, hreferences⟩ := references_emptied
  obtain ⟨d, rfl, hd⟩ := List.map_eq_singleton_iff.mp hreferences
  obtain ⟨hname, hrefers⟩ := Prod.mk.inj hd
  refine ⟨[d], hds, d, List.mem_cons_self, ?_, ?_, ?_⟩
  . rw [hrefers]
    exact List.mem_cons_self
  . intro b
    cases b <;> decide
  . simp [hname]

end Generate

end XmlBinding
