import Mathlib.Data.List.Perm.Basic
import XmlBinding.Proofs.Codec.RoundTrip

/-!
This module contains that reading delivers each child of an element to one field, where all fields for children are
repeated and one of them is a wildcard. Each field gets its children in their order, and nothing else is decisive for
what is read.
-/

namespace XmlBinding

/-! ### Lists that are shared out -/

section

variable {α β : Type}

theorem countP_le_one {p : α → Bool} {xs : List α} (h : xs.Pairwise fun x y => ¬(p x = true ∧ p y = true))
    : xs.countP p ≤ 1 := by
  induction xs with
  | nil => exact Nat.zero_le 1
  | cons x xs ih =>
    obtain ⟨hx, hxs⟩ := List.pairwise_cons.mp h
    cases hp : p x with
    | false =>
      rw [List.countP_cons_of_neg (by simp [hp])]
      exact ih hxs
    | true =>
      have hnone : xs.countP p = 0 := by
        rw [List.countP_eq_zero]
        intro y hy hpy
        exact hx y hy ⟨hp, hpy⟩
      rw [List.countP_cons_of_pos hp]
      exact Nat.le_of_eq (congrArg (· + 1) hnone)

theorem flatMap_single (p : β → Bool) (x : α) (ys : List β)
    : (ys.flatMap fun y => if p y then [x] else []) = List.replicate (ys.countP p) x := by
  induction ys with
  | nil => rfl
  | cons y ys ih =>
    rw [List.flatMap_cons]
    rw [ih]
    cases hp : p y with
    | false => simp [hp]
    | true =>
      rw [List.countP_cons_of_pos hp]
      rfl

/-- If each element has one share, the shares have all elements between them. -/
theorem flatMap_filter_perm {p : β → α → Bool} {xs : List α} {ys : List β}
    (h : ∀ x ∈ xs, ys.countP (fun y => p y x) = 1)
    : (ys.flatMap fun y => xs.filter (p y)).Perm xs := by
  induction xs with
  | nil => simp
  | cons x xs ih =>
    rw [List.forall_mem_cons] at h
    have hsplit : (fun y => (x :: xs).filter (p y)) = fun y => (if p y x then [x] else []) ++ xs.filter (p y) := by
      funext y
      rw [List.filter_cons]
      split
      . rfl
      . rfl
    rw [hsplit]
    refine (List.flatMap_append_perm ys _ _).symm.trans ?_
    rw [flatMap_single (fun y => p y x)]
    rw [h.1]
    exact (ih h.2).cons x

end

namespace Codec

/-! ### Fields for children -/

namespace Slot

/-- Whether a field is read from children. -/
def isElement (s : Slot) : Bool :=
  s.elementTag?.isSome

/-- The children of an element that a field is read from, in their order. -/
def share (slots : List Slot) (children : List Xml) (s : Slot) : List Xml :=
  children.filter fun x => s.takes slots x.tag

variable {slots : List Slot} {s : Slot}

/-- The field names the children, or it is a wildcard and no field names them. -/
theorem takes_eq_true_iff {clark : String}
    : s.takes slots clark = true ↔
        s.isNamed = true ∧ s.accepts clark = true ∨
          s.isWildcard = true ∧ ∀ n ∈ slots, n.isNamed = true → n.accepts clark = false := by
  constructor
  . intro h
    cases isNamed_or_isWildcard_of_takes h with
    | inl hnamed =>
      rw [takes_of_isNamed hnamed] at h
      exact .inl ⟨hnamed, h⟩
    | inr hwildcard => exact .inr ⟨hwildcard, (takes_of_isWildcard hwildcard clark).mp h⟩
  . rintro (⟨hnamed, haccepts⟩ | ⟨hwildcard, hunnamed⟩)
    . rw [takes_of_isNamed hnamed]
      exact haccepts
    . exact (takes_of_isWildcard hwildcard clark).mpr hunnamed

theorem elementTag?_of_not_isElement (h : s.isElement = false) : s.elementTag? = none := by
  simpa [isElement] using h

theorem attributeName?_of_isElement (h : s.isElement = true) : s.attributeName? = none := by
  obtain ⟨tag, htag⟩ := Option.isSome_iff_exists.mp h
  obtain ⟨htag', hattribute⟩ := elementTag?_eq_some.mp htag
  simp [attributeName?, htag', hattribute]

theorem share_of_not_isElement (h : s.isElement = false) (children : List Xml) : s.share slots children = [] := by
  unfold share
  rw [List.filter_eq_nil_iff]
  intro x _
  simp [takes, elementTag?_of_not_isElement h]

end Slot

/-- All fields for children are repeated, no two of them name the same children, and one of them is a wildcard. -/
structure TakeAll (slots : List Slot) : Prop where
  repeated : ∀ s ∈ slots, s.isElement = true → s.field.isRepeated = true
  apart : slots.Pairwise fun f g =>
    f.isNamed = true → g.isNamed = true → ∀ clark, ¬(f.accepts clark = true ∧ g.accepts clark = true)
  oneWildcard : slots.countP (·.isWildcard) = 1

theorem TakeAll.countP_takes {slots : List Slot} (h : TakeAll slots) (clark : String)
    : slots.countP (·.takes slots clark) = 1 := by
  by_cases hnamed : ∃ n ∈ slots, n.isNamed = true ∧ n.accepts clark = true
  . -- Then the wildcard gets nothing, and the named fields do not compete.
    obtain ⟨n, hn, hnnamed, haccepts⟩ := hnamed
    have hclaims : ∀ s : Slot, s.takes slots clark = true → s.isNamed = true ∧ s.accepts clark = true := by
      intro s hs
      cases Slot.takes_eq_true_iff.mp hs with
      | inl hclaim => exact hclaim
      | inr hwildcard =>
        have := hwildcard.2 n hn hnnamed
        rw [haccepts] at this
        cases this
    have hle : slots.countP (·.takes slots clark) ≤ 1 := by
      apply countP_le_one
      refine h.apart.imp ?_
      rintro f g hfg ⟨hf, hg⟩
      exact hfg (hclaims f hf).1 (hclaims g hg).1 clark ⟨(hclaims f hf).2, (hclaims g hg).2⟩
    have hpos : 0 < slots.countP (·.takes slots clark) := by
      rw [List.countP_pos_iff]
      exact ⟨n, hn, Slot.takes_eq_true_iff.mpr (.inl ⟨hnnamed, haccepts⟩)⟩
    omega
  . rw [← h.oneWildcard]
    apply List.countP_congr
    intro s hs
    rw [Slot.takes_eq_true_iff]
    constructor
    . rintro (hclaim | hwildcard)
      . exact absurd ⟨s, hs, hclaim⟩ hnamed
      . exact hwildcard.1
    . intro hwildcard
      refine .inr ⟨hwildcard, ?_⟩
      intro n hn hnnamed
      rw [← Bool.not_eq_true]
      intro haccepts
      exact hnamed ⟨n, hn, hnnamed, haccepts⟩

/-! ### Values -/

namespace Value

/-- What a list consists of. -/
def items : Value → List Value
  | .list items => items
  | _ => []

end Value

/-- All items that an instance has for children. -/
def childItems (slots : List Slot) (values : List Value) : List Value :=
  (slots.zip values).flatMap fun (s, v) => if s.isElement then v.items else []

/-- The value of a field for children is the list of what its children are read as. -/
def IsDelivered (t : Table) (slots : List Slot) (children : List Xml) (s : Slot) (v : Value) : Prop :=
  s.isElement = true → ∃ item items, s.hint.item = .ok item ∧ v = .list items ∧
    List.Forall₂ (fun x i => decode t x item = .ok i) (s.share slots children) items

/-- All children of a field for children can be read as its items. -/
def CanDeliver (t : Table) (slots : List Slot) (children : List Xml) (s : Slot) : Prop :=
  s.isElement = true → ∃ item, s.hint.item = .ok item ∧ ∀ x ∈ s.share slots children, ∃ v, decode t x item = .ok v

/-- The text of its attribute, if there is one, can be read as the value of a field. -/
def ReadsAttribute (t : Table) (attributes : List (String × String)) (s : Slot) : Prop :=
  ∀ key, s.attributeName? = some key → ∀ raw, attributes.lookup key = some raw → ∃ v, parseText t s.hint raw = .ok v

variable {t : Table} {slots : List Slot} {s : Slot} {attributes : List (String × String)} {children : List Xml}

theorem filter_decodeAll (slots : List Slot) (s : Slot) (children : List Xml)
    : ((decodeAll t children).filter fun c => s.takes slots c.tag) = decodeAll t (s.share slots children) := by
  rw [decodeAll_eq_map]
  rw [decodeAll_eq_map]
  rw [List.filter_map]
  rfl

theorem read_of_isElement (h : s.isElement = true) (hs : s.field.isRepeated = true) {item : Hint}
    (hitem : s.hint.item = .ok item)
    : s.read t attributes slots (decodeAll t children) =
        ((s.share slots children).mapM fun x => decode t x item) >>= (.ok <| .list ·) := by
  obtain ⟨tag, htag⟩ := Option.isSome_iff_exists.mp h
  rw [read_of_elements htag hs hitem]
  rw [filter_decodeAll]
  rw [decodeAll_eq_map]
  rw [List.mapM_map]
  rfl

/-- A field that is not read from children has no use for them. -/
theorem read_of_not_isElement (h : s.isElement = false) (slots others : List Slot) (children rest : List Child)
    : s.read t attributes slots children = s.read t attributes others rest := by
  unfold Slot.read
  cases htag : s.tag? with
  | none => rfl
  | some tag =>
    have hattribute : tag.isAttribute = true := by
      rw [← Bool.not_eq_false]
      intro hchild
      have helement := Slot.elementTag?_eq_some.mpr ⟨htag, hchild⟩
      simp [Slot.isElement, helement] at h
    dsimp only
    rw [if_pos hattribute]
    rw [if_pos hattribute]

theorem read_congr {others : List Xml} (h : s.share slots others = s.share slots children)
    : s.read t attributes slots (decodeAll t others) = s.read t attributes slots (decodeAll t children) := by
  cases helement : s.isElement with
  | false => exact read_of_not_isElement helement _ _ _ _
  | true =>
    obtain ⟨tag, htag⟩ := Option.isSome_iff_exists.mp helement
    obtain ⟨htag', hattribute⟩ := Slot.elementTag?_eq_some.mp htag
    unfold Slot.read
    rw [htag']
    dsimp only
    rw [Slot.candidates_eq_filter htag]
    rw [Slot.candidates_eq_filter htag]
    rw [filter_decodeAll]
    rw [filter_decodeAll]
    rw [h]

/-- Without an attribute of its own a field keeps what it starts with. -/
theorem exists_read_iff (h : s.isElement = false) (slots : List Slot) (children : List Child)
    : (∃ v, s.read t attributes slots children = .ok v) ↔ ReadsAttribute t attributes s := by
  unfold ReadsAttribute
  cases hname : s.attributeName? with
  | none =>
    have hnone : s.tag? = none := by
      cases htag : s.tag? with
      | none => rfl
      | some tag =>
        cases hattribute : tag.isAttribute with
        | true => simp [Slot.attributeName?_eq_some.mpr ⟨tag, htag, hattribute, rfl⟩] at hname
        | false => simp [Slot.isElement, Slot.elementTag?_eq_some.mpr ⟨htag, hattribute⟩] at h
    refine iff_of_true ⟨s.field.initial, ?_⟩ (by simp)
    unfold Slot.read
    rw [hnone]
  | some key =>
    rw [read_of_attribute hname]
    cases hlookup : attributes.lookup key with
    | none => simp [hlookup]
    | some raw => simp [hlookup]

theorem exists_read_of_canDeliver (hs : s.isElement = true → s.field.isRepeated = true)
    (hchildren : CanDeliver t slots children s)
    : (∃ v, s.read t attributes slots (decodeAll t children) = .ok v) ↔ ReadsAttribute t attributes s := by
  cases helement : s.isElement with
  | false => exact exists_read_iff helement _ _
  | true =>
    obtain ⟨item, hitem, hread⟩ := hchildren helement
    obtain ⟨items, hitems⟩ := exists_mapM_eq_ok_iff.mpr hread
    refine iff_of_true ⟨.list items, ?_⟩ ?_
    . rw [read_of_isElement helement (hs helement) hitem]
      rw [hitems]
      rfl
    . intro key hkey
      rw [Slot.attributeName?_of_isElement helement] at hkey
      cases hkey

/-- Where its children can be read, a field only fails for the text of its attribute. -/
theorem exists_of_read_eq_error (hs : s.isElement = true → s.field.isRepeated = true)
    (hchildren : CanDeliver t slots children s) {e : Fault}
    (h : s.read t attributes slots (decodeAll t children) = .error e)
    : ∃ key raw, s.attributeName? = some key ∧ attributes.lookup key = some raw ∧
        parseText t s.hint raw = .error e := by
  have hnone : ¬∃ v, s.read t attributes slots (decodeAll t children) = .ok v := by
    rintro ⟨v, hv⟩
    cases h.symm.trans hv
  rw [exists_read_of_canDeliver hs hchildren] at hnone
  unfold ReadsAttribute at hnone
  push Not at hnone
  obtain ⟨key, hkey, raw, hraw, -⟩ := hnone
  rw [read_of_attribute hkey] at h
  rw [hraw] at h
  exact ⟨key, raw, hkey, hraw, h⟩

theorem isDelivered_of_read (hs : s.isElement = true → s.field.isRepeated = true)
    (hchildren : CanDeliver t slots children s) {v : Value}
    (h : s.read t attributes slots (decodeAll t children) = .ok v)
    : IsDelivered t slots children s v := by
  intro helement
  obtain ⟨item, hitem, -⟩ := hchildren helement
  rw [read_of_isElement helement (hs helement) hitem] at h
  obtain ⟨items, hitems, h⟩ := bind_eq_ok_iff.mp h
  exact ⟨item, items, hitem, (Except.ok.inj h).symm, mapM_eq_ok_iff.mp hitems⟩

/-- As many items are delivered as there are children in the shares of the fields. -/
theorem length_childItems {fields : List Slot} {values : List Value}
    (h : List.Forall₂ (IsDelivered t slots children) fields values)
    : (childItems fields values).length = (fields.flatMap (·.share slots children)).length := by
  induction h with
  | nil => rfl
  | @cons s v fields values hv _ ih =>
    unfold childItems at ih ⊢
    rw [List.zip_cons_cons]
    rw [List.flatMap_cons]
    rw [List.flatMap_cons]
    rw [List.length_append]
    rw [List.length_append]
    rw [ih]
    congr 1
    dsimp only
    cases helement : s.isElement with
    | false =>
      rw [Slot.share_of_not_isElement helement]
      rfl
    | true =>
      obtain ⟨item, items, -, rfl, hitems⟩ := hv helement
      exact hitems.length_eq.symm

/-! ### Instances -/

theorem decodeStruct_of_slots {d : StructDef} (hslots : d.slots t = .ok slots) (name : String)
    (attributes : List (String × String)) (children : List Child)
    : decodeStruct t name d attributes children =
        (slots.mapM (Slot.read t attributes slots children)).map (.struct name) := by
  unfold decodeStruct
  rw [hslots]
  exact bind_ok_eq_map

theorem decodeStruct_eq_ok_iff {d : StructDef} (hslots : d.slots t = .ok slots) {name : String}
    {children : List Child} {v : Value}
    : decodeStruct t name d attributes children = .ok v ↔
        ∃ values, slots.mapM (Slot.read t attributes slots children) = .ok values ∧ v = .struct name values := by
  rw [decodeStruct_of_slots hslots]
  cases slots.mapM (Slot.read t attributes slots children) with
  | error e => simp [Except.map]
  | ok values => simp [Except.map, eq_comm]

theorem decodeStruct_eq_error_iff {d : StructDef} (hslots : d.slots t = .ok slots) {name : String}
    {children : List Child} {e : Fault}
    : decodeStruct t name d attributes children = .error e ↔
        slots.mapM (Slot.read t attributes slots children) = .error e := by
  rw [decodeStruct_of_slots hslots]
  cases slots.mapM (Slot.read t attributes slots children) with
  | error e' => simp [Except.map]
  | ok values => simp [Except.map]

theorem exists_decodeStruct_iff {d : StructDef} (hslots : d.slots t = .ok slots) (hall : TakeAll slots)
    (hchildren : ∀ s ∈ slots, CanDeliver t slots children s) (name : String)
    : (∃ v, decodeStruct t name d attributes (decodeAll t children) = .ok v) ↔
        ∀ s ∈ slots, ReadsAttribute t attributes s := by
  have hreads : (∃ values, slots.mapM (Slot.read t attributes slots (decodeAll t children)) = .ok values) ↔
      ∀ s ∈ slots, ReadsAttribute t attributes s := by
    rw [exists_mapM_eq_ok_iff]
    exact forall₂_congr fun s hs => exists_read_of_canDeliver (hall.repeated s hs) (hchildren s hs)
  rw [← hreads]
  simp only [decodeStruct_eq_ok_iff hslots]
  exact ⟨fun ⟨_, values, hvalues, _⟩ => ⟨values, hvalues⟩, fun ⟨values, hvalues⟩ => ⟨_, values, hvalues, rfl⟩⟩

/-- The fault `e` is that of the first field whose attribute has a text that cannot be read. -/
def IsFirstUnread (t : Table) (attributes : List (String × String)) (slots : List Slot) (e : Fault) : Prop :=
  ∃ before s after, slots = before ++ s :: after ∧ (∀ earlier ∈ before, ReadsAttribute t attributes earlier) ∧
    ∃ key raw, s.attributeName? = some key ∧ attributes.lookup key = some raw ∧ parseText t s.hint raw = .error e

theorem mapM_read_eq_error_iff (hall : TakeAll slots) (hchildren : ∀ s ∈ slots, CanDeliver t slots children s)
    {e : Fault}
    : slots.mapM (Slot.read t attributes slots (decodeAll t children)) = .error e ↔
        IsFirstUnread t attributes slots e := by
  have hreads (s : Slot) (hs : s ∈ slots)
      : (∃ v, s.read t attributes slots (decodeAll t children) = .ok v) ↔ ReadsAttribute t attributes s :=
    exists_read_of_canDeliver (hall.repeated s hs) (hchildren s hs)
  rw [mapM_eq_error_iff]
  constructor
  . rintro ⟨before, s, after, heq, hbefore, herror⟩
    have hmem : s ∈ slots := by simp [heq]
    refine ⟨before, s, after, heq, ?_, exists_of_read_eq_error (hall.repeated s hmem) (hchildren s hmem) herror⟩
    intro earlier hearlier
    exact (hreads earlier (by simp [heq, hearlier])).mp (hbefore earlier hearlier)
  . rintro ⟨before, s, after, heq, hbefore, key, raw, hkey, hraw, herror⟩
    refine ⟨before, s, after, heq, ?_, ?_⟩
    . intro earlier hearlier
      exact (hreads earlier (by simp [heq, hearlier])).mpr (hbefore earlier hearlier)
    . rw [read_of_attribute hkey]
      rw [hraw]
      exact herror

/-- Each child is taken by one field: one that names it, or else the wildcard. What is read is the same with the children
in another order, as long as those of each field stay in theirs. If the children can be read, then reading an instance
only fails for the text of an attribute, the first one that cannot be read. Otherwise each field for children has the
list of what is read from its own children in their order, which makes as many items as there are children. -/
theorem decodeStruct_delivers {d : StructDef} (hslots : d.slots t = .ok slots) (hall : TakeAll slots) (name : String)
    (attributes : List (String × String)) (children : List Xml)
    : (∀ x ∈ children, slots.countP (·.takes slots x.tag) = 1 ∧
          ∀ s : Slot, s.takes slots x.tag = true ↔
            s.isNamed = true ∧ s.accepts x.tag = true ∨
              s.isWildcard = true ∧ ∀ n ∈ slots, n.isNamed = true → n.accepts x.tag = false) ∧
        (∀ others, (∀ s ∈ slots, s.share slots others = s.share slots children) →
          decodeStruct t name d attributes (decodeAll t others) =
            decodeStruct t name d attributes (decodeAll t children)) ∧
        ((∀ s ∈ slots, CanDeliver t slots children s) →
          ((∃ v, decodeStruct t name d attributes (decodeAll t children) = .ok v) ↔
            ∀ s ∈ slots, ReadsAttribute t attributes s) ∧
          (∀ e, decodeStruct t name d attributes (decodeAll t children) = .error e ↔
            IsFirstUnread t attributes slots e) ∧
          ∀ v, decodeStruct t name d attributes (decodeAll t children) = .ok v →
            ∃ values, v = .struct name values ∧ List.Forall₂ (IsDelivered t slots children) slots values ∧
              (childItems slots values).length = children.length) := by
  have hone : ∀ x ∈ children, slots.countP (·.takes slots x.tag) = 1 := fun x _ => hall.countP_takes x.tag
  refine ⟨fun x hx => ⟨hone x hx, fun s => Slot.takes_eq_true_iff⟩, ?_, ?_⟩
  . intro others hsame
    rw [decodeStruct_of_slots hslots]
    rw [decodeStruct_of_slots hslots]
    congr 1
    apply mapM_congr
    intro s hs
    exact read_congr (hsame s hs)
  . intro hchildren
    refine ⟨?_, ?_, ?_⟩
    . exact exists_decodeStruct_iff hslots hall hchildren name
    . intro e
      rw [decodeStruct_eq_error_iff hslots]
      exact mapM_read_eq_error_iff hall hchildren
    . intro v hv
      obtain ⟨values, hvalues, rfl⟩ := (decodeStruct_eq_ok_iff hslots).mp hv
      have hdelivered : List.Forall₂ (IsDelivered t slots children) slots values := by
        have hmem : ∀ s ∈ slots, s ∈ slots := fun _ => id
        refine ((List.forall₂_and_left _ _).mpr ⟨hmem, mapM_eq_ok_iff.mp hvalues⟩).imp ?_
        rintro s w ⟨hs, hw⟩
        exact isDelivered_of_read (hall.repeated s hs) (hchildren s hs) hw
      refine ⟨values, rfl, hdelivered, ?_⟩
      rw [length_childItems hdelivered]
      exact (flatMap_filter_perm hone).length_eq

/-! ### A parcel -/

/-- A parcel has lines of one namespace, notes of any namespace, and everything else. -/
def parcelClass : StructDef where
  fields :=
    [⟨"paid", .either (.scalar .bool) .nothing, some "paid,attr", false, .nothing⟩,
      ⟨"lines", .list (.scalar .text), some "urn:p line", true, .nothing⟩,
      ⟨"notes", .list (.scalar .text), some "note", true, .nothing⟩,
      ⟨"others", .list (.scalar .any), some wildcardTag, true, .nothing⟩]
  constants := []
  constantTags := []

def lineSlot : Slot :=
  ⟨⟨"lines", .list (.scalar .text), some "urn:p line", true, .nothing⟩, .list (.scalar .text),
    some ⟨"urn:p", "line", []⟩⟩

def noteSlot : Slot :=
  ⟨⟨"notes", .list (.scalar .text), some "note", true, .nothing⟩, .list (.scalar .text), some ⟨"", "note", []⟩⟩

def parcelSlots : List Slot :=
  [⟨⟨"paid", .either (.scalar .bool) .nothing, some "paid,attr", false, .nothing⟩, .scalar .bool,
      some ⟨"", "paid", ["attr"]⟩⟩,
    lineSlot, noteSlot,
    ⟨⟨"others", .list (.scalar .any), some wildcardTag, true, .nothing⟩, .list (.scalar .any),
      some ⟨"", wildcardTag, ["any"]⟩⟩]

theorem slots_parcelClass : parcelClass.slots noTypes = .ok parcelSlots := by
  rfl

theorem takeAll_parcelSlots : TakeAll parcelSlots where
  repeated := by decide
  apart := by
    have hline : ∀ clark, ¬(lineSlot.accepts clark = true ∧ noteSlot.accepts clark = true) := by
      rintro clark ⟨hline, hnote⟩
      obtain rfl : clark = "\x7burn:p\x7dline" := beq_iff_eq.mp hline
      revert hnote
      decide
    simp only [parcelSlots, List.pairwise_cons, List.forall_mem_cons]
    refine ⟨⟨?_, ?_, ?_, by simp⟩, ⟨fun _ _ => hline, ?_, by simp⟩, ⟨?_, by simp⟩, by simp, .nil⟩
    -- All other pairs have an attribute or the wildcard in them.
    . exact fun h => absurd h (by decide)
    . exact fun h => absurd h (by decide)
    . exact fun h => absurd h (by decide)
    . exact fun _ h => absurd h (by decide)
    . exact fun _ h => absurd h (by decide)
  oneWildcard := by decide

def textChild (tag text : String) : Xml :=
  .element tag [] (some text) []

def parcelChildren : List Xml :=
  [textChild "\x7burn:p\x7dline" "a", textChild "line" "b", textChild "note" "c",
    textChild "\x7burn:q\x7dnote" "d", textChild "\x7burn:p\x7dline" "e"]

def parcelChildrenByField : List Xml :=
  [textChild "note" "c", textChild "\x7burn:q\x7dnote" "d", textChild "\x7burn:p\x7dline" "a",
    textChild "\x7burn:p\x7dline" "e", textChild "line" "b"]

theorem decode_text (t : Table) (x : Xml) : decode t x (.scalar .text) = .ok (.text (x.text?.getD "")) := by
  cases x
  rfl

theorem decode_any (t : Table) (x : Xml) : decode t x (.scalar .any) = .ok (.text (x.text?.getD "")) := by
  cases x
  rfl

theorem canDeliver_parcelSlots (children : List Xml)
    : ∀ s ∈ parcelSlots, CanDeliver noTypes parcelSlots children s := by
  simp only [parcelSlots, List.forall_mem_cons]
  refine ⟨fun h => absurd h (by decide), ?_, ?_, ?_, by simp⟩
  . exact fun _ => ⟨.scalar .text, rfl, fun x _ => ⟨_, decode_text _ x⟩⟩
  . exact fun _ => ⟨.scalar .text, rfl, fun x _ => ⟨_, decode_text _ x⟩⟩
  . exact fun _ => ⟨.scalar .any, rfl, fun x _ => ⟨_, decode_any _ x⟩⟩

theorem decodeStruct_delivers_parcel
    : parcelClass.slots noTypes = .ok parcelSlots ∧ TakeAll parcelSlots ∧
        (∀ s ∈ parcelSlots, CanDeliver noTypes parcelSlots parcelChildren s) ∧
        ∃ values,
          decodeStruct noTypes "Parcel" parcelClass [("paid", "1")] (decodeAll noTypes parcelChildren) =
              .ok (.struct "Parcel" values) ∧
            values =
              [.bool true, .list [.text "a", .text "e"], .list [.text "c", .text "d"], .list [.text "b"]] ∧
            (childItems parcelSlots values).length = 5 ∧
            decodeStruct noTypes "Parcel" parcelClass [("paid", "1")] (decodeAll noTypes parcelChildrenByField) =
              .ok (.struct "Parcel" values) := by
  obtain ⟨-, hothers, hread⟩ := decodeStruct_delivers slots_parcelClass takeAll_parcelSlots "Parcel"
    [("paid", "1")] parcelChildren
  obtain ⟨-, -, hdelivered⟩ := hread (canDeliver_parcelSlots parcelChildren)
  have hvalue : decodeStruct noTypes "Parcel" parcelClass [("paid", "1")] (decodeAll noTypes parcelChildren) =
      .ok (.struct "Parcel"
        [.bool true, .list [.text "a", .text "e"], .list [.text "c", .text "d"], .list [.text "b"]]) := rfl
  obtain ⟨values, hvalues, -, hlength⟩ := hdelivered _ hvalue
  obtain rfl := (Value.struct.inj hvalues).2
  refine ⟨slots_parcelClass, takeAll_parcelSlots, canDeliver_parcelSlots _, _, hvalue, rfl, hlength, ?_⟩
  rw [← hvalue]
  apply hothers
  simp only [parcelSlots, List.forall_mem_cons]
  exact ⟨rfl, rfl, rfl, rfl, by simp⟩

/-- The children could be read, but the text of the attribute is no truth value. -/
theorem not_decodeStruct_delivers_unpaid
    : parcelClass.slots noTypes = .ok parcelSlots ∧ TakeAll parcelSlots ∧
        (∀ s ∈ parcelSlots, CanDeliver noTypes parcelSlots parcelChildren s) ∧
        decodeStruct noTypes "Parcel" parcelClass [("paid", "no")] (decodeAll noTypes parcelChildren) =
          .error (.notBoolean "no") :=
  ⟨slots_parcelClass, takeAll_parcelSlots, canDeliver_parcelSlots _, rfl⟩

end Codec

end XmlBinding
