import XmlBinding.Proofs.Codec.Parts
import XmlBinding.Proofs.Except

/-!
This module contains that a value is read back as it was written. It follows the value: for each field of a
structure there is a part of the element, and a field that finds its own part reads its own value.
-/

namespace XmlBinding.Codec

def Value.isLeaf : Value → Bool
  | .struct _ _ => false
  | .sequence _ _ => false
  | _ => true

/-- Values of one form that differ only in leaves which are taken for the same. -/
inductive Agree (same : Value → Value → Prop) : Value → Value → Prop
  | leaf {w v : Value} : same w v → Agree same w v
  | nothing : Agree same .nothing .nothing
  | list {ws vs : List Value} : List.Forall₂ (Agree same) ws vs → Agree same (.list ws) (.list vs)
  | struct {name : String} {ws vs : List Value}
    : List.Forall₂ (Agree same) ws vs → Agree same (.struct name ws) (.struct name vs)
  | sequence {name : String} {ws vs : List Value}
    : List.Forall₂ (Agree same) ws vs → Agree same (.sequence name ws) (.sequence name vs)

mutual

theorem Agree.eq {w : Value} : (v : Value) → Agree Eq w v → w = v
  | _, .leaf h => h
  | .nothing, .nothing => rfl
  | .list vs, .list h => congrArg Value.list (Agree.eq_of_forall₂ vs h)
  | .struct _ vs, .struct h => congrArg (Value.struct _) (Agree.eq_of_forall₂ vs h)
  | .sequence _ vs, .sequence h => congrArg (Value.sequence _) (Agree.eq_of_forall₂ vs h)

theorem Agree.eq_of_forall₂ {ws : List Value} : (vs : List Value) → List.Forall₂ (Agree Eq) ws vs → ws = vs
  | [], .nil => rfl
  | v :: vs, .cons h hs => congrArg₂ List.cons (Agree.eq v h) (Agree.eq_of_forall₂ vs hs)

end

mutual

/-- A value of a type that is read as it is written. What is read from the text of a leaf is taken for the
same as the leaf. -/
inductive Holds (same : Value → Value → Prop) (t : Table) : Hint → Value → Prop
  | leaf {h : Hint} {v w : Value} {text : String} : (∀ name, h ≠ .named name) → v.isLeaf = true →
      formatText t v = .ok text → parseText t h text = .ok w → same w v → Holds same t h v
  | struct {name : String} {d : StructDef} {slots : List Slot} {values : List Value} :
      t.find? name = some (.struct d) → d.slots t = .ok slots → d.IsSeparable slots → d.HoldsConstants →
      slots.length = values.length → (∀ r ∈ slots.zip values, FieldHolds same t r.1 r.2) →
      Holds same t (.named name) (.struct name values)
  | sequence {name : String} {d : SequenceDef} {item : Hint} {items : List Value} :
      t.find? name = some (.sequence d) → d.tag.accepts itemName = true → t.evaluate d.item = .ok item →
      (∀ v ∈ items, Holds same t item v) → Holds same t (.named name) (.sequence name items)

/-- A value of a field that is read as it is written. -/
inductive FieldHolds (same : Value → Value → Prop) (t : Table) : Slot → Value → Prop
  | untagged {s : Slot} {v : Value} : s.tag? = none → Agree same s.field.initial v → FieldHolds same t s v
  | absent {s : Slot} : s.field.isRepeated = false → s.field.default = .nothing → FieldHolds same t s .nothing
  | attribute {s : Slot} {name text : String} {v w : Value} : s.attributeName? = some name → v.isNothing = false →
      formatText t v = .ok text → parseText t s.hint text = .ok w → same w v → FieldHolds same t s v
  | single {s : Slot} {tag : Tag} {v : Value} : s.elementTag? = some tag → s.field.isRepeated = false →
      v.isNothing = false → Holds same t s.hint v → FieldHolds same t s v
  | repeated {s : Slot} {tag : Tag} {item : Hint} {items : List Value} : s.elementTag? = some tag →
      s.field.isRepeated = true → s.hint.item = .ok item → (∀ v ∈ items, Holds same t item v) →
      FieldHolds same t s (.list items)

end

variable {same : Value → Value → Prop} {t : Table}

/-! ### Elements that are read by a class -/

theorem decodeAll_eq_map (xs : List Xml) : decodeAll t xs = xs.map fun x => ⟨x.tag, decode t x⟩ := by
  induction xs with
  | nil => rfl
  | cons x xs ih =>
    rw [decodeAll]
    rw [ih]
    rfl

theorem tag_of_mem_decodeAll {xs : List Xml} {tag : String} (h : ∀ x ∈ xs, x.tag = tag)
    : ∀ c ∈ decodeAll t xs, c.tag = tag := by
  rw [decodeAll_eq_map]
  rw [List.forall_mem_map]
  exact h

section

variable {name : String}

theorem decode_of_sequence {d : SequenceDef} (h : t.find? name = some (.sequence d)) (x : Xml)
    : decode t x (.named name) = decodeSequence t name d (decodeAll t x.children) := by
  cases x
  rw [decode]
  simp only [decodeParts, h]
  rfl

theorem decode_of_struct {d : StructDef} (h : t.find? name = some (.struct d))
    (hread : d.member? Method.readName = none) (x : Xml)
    : decode t x (.named name) = decodeStruct t name d x.attributes (decodeAll t x.children) := by
  cases x
  rw [decode]
  simp only [decodeParts, h, hread]
  rfl

/-- What a class has under the name of the method for reading decides whether any element can be read. -/
theorem decode_of_member {d : StructDef} (h : t.find? name = some (.struct d)) {v : Value}
    (hread : d.member? Method.readName = some v) (x : Xml)
    : decode t x (.named name) =
        if v.isNothing then decodeStruct t name d x.attributes (decodeAll t x.children)
        else .error (.notCallable v.typeName) := by
  cases x
  rw [decode]
  simp only [decodeParts, h, hread]
  rfl

end

/-! ### What is written -/

theorem encode_of_struct {name : String} {d : StructDef} (h : t.find? name = some (.struct d)) {values : List Value}
    (hwrite : writeMember? d values = none) (tag : String)
    : encode t (.struct name values) tag =
        (do
          let attributes ← constantAttributes name d values
          let _ ← d.typedFields t
          let (attributes, children) ← encodeFields t values d.fields attributes
          .ok (.element tag attributes none children)) := by
  rw [encode]
  simp only [h, hwrite]

def RoundTrips (same : Value → Value → Prop) (t : Table) (h : Hint) (v : Value) : Prop :=
  ∀ tag, ∃ x, encode t v tag = .ok x ∧ x.tag = tag ∧ ∃ w, decode t x h = .ok w ∧ Agree same w v

/-- The part `p` is what is written for a field with the value `v`, and the field is read from it, whatever
else is in the element. -/
structure Carries (same : Value → Value → Prop) (t : Table) (v : Value) (p : Part) : Prop where
  proper : p.IsProper
  written : ∀ values fields attributes,
    encodeFields t (v :: values) (p.slot.field :: fields) attributes =
      (fun rest => (rest.1, p.children ++ rest.2)) <$>
        encodeFields t values fields (Part.allAttributes [p] attributes)
  read : ∀ attributes slots children,
    (∀ name, p.slot.attributeName? = some name → attributes.lookup name = p.attribute?.map (·.2)) →
    (children.filter fun c => p.slot.takes slots c.tag) = decodeAll t p.children →
    ∃ w, p.slot.read t attributes slots children = .ok w ∧ Agree same w v

def FieldRoundTrips (same : Value → Value → Prop) (t : Table) (s : Slot) (v : Value) : Prop :=
  StructDef.fieldTag? s.field = .ok s.tag? → ∃ p : Part, p.slot = s ∧ Carries same t v p

theorem encodeFields_of_untagged {f : FieldDef} (h : StructDef.fieldTag? f = .ok none) (v : Value)
    (values : List Value) (fields : List FieldDef) (attributes : List (String × String))
    : encodeFields t (v :: values) (f :: fields) attributes = encodeFields t values fields attributes := by
  rw [encodeFields]
  rw [h]
  rfl

theorem encodeFields_of_isNothing {f : FieldDef} {tag : Tag} (h : StructDef.fieldTag? f = .ok (some tag))
    {v : Value} (hv : v.isNothing = true) (values : List Value) (fields : List FieldDef)
    (attributes : List (String × String))
    : encodeFields t (v :: values) (f :: fields) attributes = encodeFields t values fields attributes := by
  rw [encodeFields]
  rw [h]
  simp [bind, Except.bind, hv]

theorem encodeFields_of_isAttribute {f : FieldDef} {tag : Tag} (h : StructDef.fieldTag? f = .ok (some tag))
    (htag : tag.isAttribute = true) {v : Value} (hv : v.isNothing = false) (values : List Value)
    (fields : List FieldDef) (attributes : List (String × String))
    : encodeFields t (v :: values) (f :: fields) attributes =
        formatText t v >>= fun text => encodeFields t values fields (Entries.set attributes tag.name.clark text) := by
  rw [encodeFields]
  rw [h]
  simp [bind, Except.bind, hv, htag]

def writeChildren (t : Table) (v : Value) (f : FieldDef) (tag : Tag) : Except Fault (List Xml) :=
  if f.isRepeated then
    encodeEach t v (childTag f tag)
  else
    (encode t v (childTag f tag)).map fun x => [x]

theorem encodeFields_of_isElement {f : FieldDef} {tag : Tag} (h : StructDef.fieldTag? f = .ok (some tag))
    (htag : tag.isAttribute = false) {v : Value} (hv : v.isNothing = false) (values : List Value)
    (fields : List FieldDef) (attributes : List (String × String))
    : encodeFields t (v :: values) (f :: fields) attributes =
        writeChildren t v f tag >>= fun mine =>
          (encodeFields t values fields attributes).map fun rest => (rest.1, mine ++ rest.2) := by
  rw [encodeFields]
  rw [h]
  unfold writeChildren
  simp only [bind, Except.bind, hv, htag, Bool.false_eq_true, if_false]
  cases f.isRepeated with
  | true =>
    cases encodeEach t v (childTag f tag) with
    | error e => rfl
    | ok mine => exact bind_ok_eq_map
  | false =>
    cases encode t v (childTag f tag) with
    | error e => rfl
    | ok x => exact bind_ok_eq_map

theorem writeChildren_of_single {f : FieldDef} (hf : f.isRepeated = false) {v : Value} {tag : Tag} {x : Xml}
    (hx : encode t v (childTag f tag) = .ok x)
    : writeChildren t v f tag = .ok [x] := by
  simp [writeChildren, hf, hx, Except.map]

theorem writeChildren_of_list {f : FieldDef} (hf : f.isRepeated = true) {items : List Value} {tag : Tag}
    {xs : List Xml} (hxs : encodeItems t items (childTag f tag) = .ok xs)
    : writeChildren t (.list items) f tag = .ok xs := by
  simp [writeChildren, hf, encodeEach, hxs]

/-! ### What is read -/

theorem read_of_attribute {s : Slot} {name : String} (h : s.attributeName? = some name)
    (attributes : List (String × String)) (slots : List Slot) (children : List Child)
    : s.read t attributes slots children =
        match attributes.lookup name with
        | some raw => parseText t s.hint raw
        | none => .ok s.field.initial := by
  obtain ⟨tag, htag, hattribute, rfl⟩ := Slot.attributeName?_eq_some.mp h
  unfold Slot.read
  rw [htag]
  exact if_pos hattribute

theorem read_of_element {s : Slot} {tag : Tag} (h : s.elementTag? = some tag) (hs : s.field.isRepeated = false)
    (attributes : List (String × String)) (slots : List Slot) (children : List Child)
    : s.read t attributes slots children =
        match children.filter fun c => s.takes slots c.tag with
        | [] => .ok s.field.initial
        | c :: _ => c.decode s.hint := by
  obtain ⟨htag, hattribute⟩ := Slot.elementTag?_eq_some.mp h
  rw [← Slot.candidates_eq_filter h]
  unfold Slot.read
  rw [htag]
  exact (if_neg (by simp [hattribute])).trans (if_neg (by simp [hs]))

theorem read_of_elements {s : Slot} {tag : Tag} {item : Hint} (h : s.elementTag? = some tag)
    (hs : s.field.isRepeated = true) (hitem : s.hint.item = .ok item)
    (attributes : List (String × String)) (slots : List Slot) (children : List Child)
    : s.read t attributes slots children =
        ((children.filter fun c => s.takes slots c.tag).mapM fun c => c.decode item) >>= (.ok <| .list ·) := by
  obtain ⟨htag, hattribute⟩ := Slot.elementTag?_eq_some.mp h
  rw [← Slot.candidates_eq_filter h]
  unfold Slot.read
  simp [htag, hattribute, hs, hitem, bind, Except.bind]

/-! ### One value -/

theorem encode_of_isLeaf {v : Value} (hv : v.isLeaf = true) (tag : String)
    : encode t v tag = (formatText t v).map fun text => textElement text tag := by
  rw [← bind_ok_eq_map]
  cases v with
  | struct name values => cases hv
  | sequence name items => cases hv
  | _ => simp [encode]

theorem roundTrips_leaf {h : Hint} {v w : Value} {text : String} (hname : ∀ name, h ≠ .named name)
    (hv : v.isLeaf = true) (htext : formatText t v = .ok text) (hparse : parseText t h text = .ok w) (hsame : same w v)
    : RoundTrips same t h v := by
  intro tag
  have hencode : encode t v tag = .ok (textElement text tag) := by
    rw [encode_of_isLeaf hv]
    rw [htext]
    rfl
  refine ⟨_, hencode, rfl, w, ?_, .leaf hsame⟩
  rw [textElement]
  rw [decode]
  cases h with
  | named name => exact absurd rfl (hname name)
  | _ => exact hparse

theorem exists_encodeItems {h : Hint} {items : List Value} (hitems : ∀ v ∈ items, RoundTrips same t h v)
    (tag : String)
    : ∃ xs, encodeItems t items tag = .ok xs ∧ (∀ x ∈ xs, x.tag = tag) ∧
        ∃ ws, (decodeAll t xs).mapM (fun c => c.decode h) = .ok ws ∧ List.Forall₂ (Agree same) ws items := by
  induction items with
  | nil => exact ⟨[], rfl, by simp, [], rfl, .nil⟩
  | cons v items ih =>
    obtain ⟨x, hx, htag, w, hw, hagree⟩ := hitems v List.mem_cons_self tag
    obtain ⟨xs, hxs, htags, ws, hws, hagrees⟩ := ih fun u hu => hitems u (List.mem_cons_of_mem v hu)
    refine ⟨x :: xs, ?_, ?_, w :: ws, ?_, .cons hagree hagrees⟩
    . rw [encodeItems]
      simp [bind, Except.bind, hx, hxs]
    . simpa [htag] using htags
    . rw [mapM_eq_ok_iff] at hws ⊢
      exact .cons hw hws

theorem roundTrips_sequence {name : String} {d : SequenceDef} {item : Hint} {items : List Value}
    (hfind : t.find? name = some (.sequence d)) (hd : d.tag.accepts itemName = true)
    (hitem : t.evaluate d.item = .ok item) (hitems : ∀ v ∈ items, RoundTrips same t item v)
    : RoundTrips same t (.named name) (.sequence name items) := by
  intro tag
  obtain ⟨xs, hxs, htags, ws, hws, hagrees⟩ := exists_encodeItems hitems itemName
  refine ⟨.element tag [] none xs, ?_, rfl, .sequence name ws, ?_, .sequence hagrees⟩
  . rw [encode]
    simp [bind, Except.bind, hxs]
  . have hall : (decodeAll t xs).filter (fun c => d.tag.accepts c.tag) = decodeAll t xs := by
      rw [List.filter_eq_self]
      intro c hc
      rw [tag_of_mem_decodeAll htags c hc]
      exact hd
    rw [decode_of_sequence hfind]
    unfold decodeSequence
    change (((decodeAll t xs).filter fun c => d.tag.accepts c.tag).mapM fun c =>
      t.evaluate d.item >>= c.decode) >>= _ = _
    rw [hall]
    rw [hitem]
    exact bind_eq_ok_iff.mpr ⟨ws, hws, rfl⟩

/-! ### One field -/

theorem isProper_nothing (s : Slot) : Part.IsProper ⟨s, none, []⟩ where
  attributeName := by simp
  childName := by simp

theorem isProper_children {s : Slot} {tag : Tag} (h : s.elementTag? = some tag) {xs : List Xml}
    (hxs : ∀ x ∈ xs, x.tag = childTag s.field tag)
    : Part.IsProper ⟨s, none, xs⟩ where
  attributeName := by simp
  childName := by
    intro x hx
    rw [hxs x hx]
    simp [Slot.childName?, h]

theorem fieldRoundTrips_untagged {s : Slot} {v : Value} (h : s.tag? = none) (hv : Agree same s.field.initial v)
    : FieldRoundTrips same t s v := by
  intro htag
  rw [h] at htag
  refine ⟨⟨s, none, []⟩, rfl, isProper_nothing s, ?_, ?_⟩
  . intro values fields attributes
    rw [encodeFields_of_untagged htag]
    exact (id_map _).symm
  . intro attributes slots children _ _
    refine ⟨s.field.initial, ?_, hv⟩
    unfold Slot.read
    rw [h]

theorem fieldRoundTrips_absent {s : Slot} (h : s.field.isRepeated = false) (hdefault : s.field.default = .nothing)
    : FieldRoundTrips same t s .nothing := by
  intro htag
  have hinitial : s.field.initial = .nothing := by
    simp [FieldDef.initial, h, hdefault]
  refine ⟨⟨s, none, []⟩, rfl, isProper_nothing s, ?_, ?_⟩
  . intro values fields attributes
    cases hs : s.tag? with
    | none =>
      rw [encodeFields_of_untagged (by rw [htag, hs])]
      exact (id_map _).symm
    | some tag =>
      rw [encodeFields_of_isNothing (by rw [htag, hs]) rfl]
      exact (id_map _).symm
  . intro attributes slots children hattributes hchildren
    refine ⟨.nothing, ?_, .nothing⟩
    -- Nothing was written, so that an attribute or a child of this name cannot be there.
    cases hs : s.tag? with
    | none =>
      unfold Slot.read
      rw [hs]
      rw [hinitial]
    | some tag =>
      cases hattribute : tag.isAttribute with
      | true =>
        have hname := Slot.attributeName?_eq_some.mpr ⟨tag, hs, hattribute, rfl⟩
        rw [read_of_attribute hname]
        rw [hattributes _ hname]
        rw [hinitial]
        rfl
      | false =>
        rw [read_of_element (Slot.elementTag?_eq_some.mpr ⟨hs, hattribute⟩) h]
        rw [hchildren]
        rw [hinitial]
        rfl

theorem fieldRoundTrips_attribute {s : Slot} {name text : String} {v w : Value} (h : s.attributeName? = some name)
    (hv : v.isNothing = false) (htext : formatText t v = .ok text) (hparse : parseText t s.hint text = .ok w)
    (hsame : same w v)
    : FieldRoundTrips same t s v := by
  intro htag
  refine ⟨⟨s, some (name, text), []⟩, rfl, ⟨?_, by simp⟩, ?_, ?_⟩
  . intro a ha
    rw [← Option.some.inj ha]
    exact h
  . intro values fields attributes
    obtain ⟨tag, hs, hattribute, rfl⟩ := Slot.attributeName?_eq_some.mp h
    rw [encodeFields_of_isAttribute (by rw [htag, hs]) hattribute hv]
    rw [htext]
    exact (id_map _).symm
  . intro attributes slots children hattributes _
    refine ⟨w, ?_, .leaf hsame⟩
    rw [read_of_attribute h]
    rw [hattributes name h]
    exact hparse

theorem fieldRoundTrips_single {s : Slot} {tag : Tag} {v : Value} (h : s.elementTag? = some tag)
    (hs : s.field.isRepeated = false) (hv : v.isNothing = false) (hread : RoundTrips same t s.hint v)
    : FieldRoundTrips same t s v := by
  intro htag
  obtain ⟨hs', hattribute⟩ := Slot.elementTag?_eq_some.mp h
  obtain ⟨x, hx, hxtag, w, hw, hagree⟩ := hread (childTag s.field tag)
  refine ⟨⟨s, none, [x]⟩, rfl, isProper_children h (by simpa using hxtag), ?_, ?_⟩
  . intro values fields attributes
    rw [encodeFields_of_isElement (by rw [htag, hs']) hattribute hv]
    rw [writeChildren_of_single hs hx]
    rfl
  . intro attributes slots children _ hchildren
    refine ⟨w, ?_, hagree⟩
    rw [read_of_element h hs]
    rw [hchildren]
    exact hw

theorem fieldRoundTrips_repeated {s : Slot} {tag : Tag} {item : Hint} {items : List Value}
    (h : s.elementTag? = some tag) (hs : s.field.isRepeated = true) (hitem : s.hint.item = .ok item)
    (hitems : ∀ v ∈ items, RoundTrips same t item v)
    : FieldRoundTrips same t s (.list items) := by
  intro htag
  obtain ⟨hs', hattribute⟩ := Slot.elementTag?_eq_some.mp h
  obtain ⟨xs, hxs, htags, ws, hws, hagrees⟩ := exists_encodeItems hitems (childTag s.field tag)
  refine ⟨⟨s, none, xs⟩, rfl, isProper_children h htags, ?_, ?_⟩
  . intro values fields attributes
    rw [encodeFields_of_isElement (by rw [htag, hs']) hattribute rfl]
    rw [writeChildren_of_list hs hxs]
    rfl
  . intro attributes slots children _ hchildren
    refine ⟨.list ws, ?_, .list hagrees⟩
    rw [read_of_elements h hs hitem]
    rw [hchildren]
    rw [hws]
    rfl

/-! ### All fields -/

theorem exists_parts {slots : List Slot} {values : List Value} (hlen : slots.length = values.length)
    (htags : ∀ s ∈ slots, StructDef.fieldTag? s.field = .ok s.tag?)
    (hfields : ∀ r ∈ slots.zip values, FieldRoundTrips same t r.1 r.2)
    : ∃ parts : List Part, parts.map (·.slot) = slots ∧ List.Forall₂ (Carries same t) values parts := by
  induction slots generalizing values with
  | nil =>
    obtain rfl := List.length_eq_zero_iff.mp hlen.symm
    exact ⟨[], rfl, .nil⟩
  | cons s slots ih =>
    obtain ⟨v, values, rfl⟩ := List.exists_cons_of_length_eq_add_one hlen.symm
    obtain ⟨p, hp, hcarries⟩ := hfields (s, v) List.mem_cons_self (htags s List.mem_cons_self)
    obtain ⟨parts, hparts, hall⟩ := ih (Nat.succ.inj hlen)
      (fun s' hs' => htags s' (List.mem_cons_of_mem s hs'))
      (fun r hr => hfields r (List.mem_cons_of_mem _ hr))
    exact ⟨p :: parts, by simp [hp, hparts], .cons hcarries hall⟩

theorem isProper_of_carries {values : List Value} {parts : List Part}
    (hall : List.Forall₂ (Carries same t) values parts)
    : ∀ p ∈ parts, p.IsProper := by
  induction hall with
  | nil => simp
  | cons hcarries _ ih =>
    rw [List.forall_mem_cons]
    exact ⟨hcarries.proper, ih⟩

theorem encodeFields_eq {values : List Value} {parts : List Part}
    (hall : List.Forall₂ (Carries same t) values parts) (attributes : List (String × String))
    : encodeFields t values (parts.map (·.slot.field)) attributes =
        .ok (Part.allAttributes parts attributes, Part.allChildren parts) := by
  induction hall generalizing attributes with
  | nil =>
    simp only [encodeFields]
    rfl
  | @cons v p values parts hcarries _ ih =>
    rw [List.map_cons]
    rw [hcarries.written]
    rw [ih]
    have : Part.allAttributes (p :: parts) attributes =
        Part.allAttributes parts (Part.allAttributes [p] attributes) := by
      cases h : p.attribute? with
      | none => simp [Part.allAttributes, h]
      | some a => simp [Part.allAttributes, h]
    rw [this]
    rfl

theorem exists_read {d : StructDef} {values : List Value} {parts : List Part} {attributes : List (String × String)}
    (hd : d.IsSeparable (parts.map (·.slot))) (hall : List.Forall₂ (Carries same t) values parts)
    (hattributes : ∀ key, key ∉ d.constantNames → attributes.lookup key = none) {v : Value} {p : Part}
    (hcarries : Carries same t v p) (hp : p ∈ parts)
    : ∃ w, p.slot.read t (Part.allAttributes parts attributes) (parts.map (·.slot))
        (decodeAll t (Part.allChildren parts)) = .ok w ∧ Agree same w v := by
  have hproper := isProper_of_carries hall
  obtain ⟨before, after, rfl⟩ := List.append_of_mem hp
  -- The part is read from what stands in the element under its own names, which no other part uses.
  apply hcarries.read
  . intro name hname
    have hnodup := hd.attributes
    rw [List.filterMap_map] at hnodup
    exact Part.lookup_allAttributes hproper hnodup hattributes hname
  . rw [decodeAll_eq_map]
    rw [decodeAll_eq_map]
    rw [List.filter_map]
    have hclashes := List.pairwise_map.mp hd.pairwise_not_clashes
    rw [List.pairwise_append] at hclashes
    obtain ⟨-, hafter, hbefore⟩ := hclashes
    congr 1
    apply Part.filter_allChildren hproper
    . intro clark hclark
      exact hd.takes_childName (List.mem_map_of_mem hp) hclark
    . intro q hq
      exact (hbefore q hq p List.mem_cons_self).1
    . intro q hq
      exact ((List.pairwise_cons.mp hafter).1 q hq).2

theorem exists_mapM_read {d : StructDef} {values : List Value} {parts : List Part}
    {attributes : List (String × String)} (hd : d.IsSeparable (parts.map (·.slot)))
    (hall : List.Forall₂ (Carries same t) values parts)
    (hattributes : ∀ key, key ∉ d.constantNames → attributes.lookup key = none)
    : ∃ ws, (parts.map (·.slot)).mapM (Slot.read t (Part.allAttributes parts attributes) (parts.map (·.slot))
        (decodeAll t (Part.allChildren parts))) = .ok ws ∧ List.Forall₂ (Agree same) ws values := by
  apply exists_mapM_eq_ok
  rw [List.forall₂_map_left_iff]
  rw [List.forall₂_iff_zip]
  refine ⟨hall.length_eq.symm, ?_⟩
  intro p v hmem
  have hcarries := (List.forall₂_iff_zip.mp hall.flip).2 hmem
  exact exists_read hd hall hattributes hcarries (List.of_mem_zip hmem).1

theorem roundTrips_struct {name : String} {d : StructDef} {slots : List Slot} {values : List Value}
    (hfind : t.find? name = some (.struct d)) (hslots : d.slots t = .ok slots) (hd : d.IsSeparable slots)
    (hconstants : d.HoldsConstants) (hlen : slots.length = values.length)
    (hfields : ∀ r ∈ slots.zip values, FieldRoundTrips same t r.1 r.2)
    : RoundTrips same t (.named name) (.struct name values) := by
  intro tag
  obtain ⟨attributes, hheld, hattributes⟩ := StructDef.exists_constantAttributes hconstants name values
  obtain ⟨typed, htyped⟩ := StructDef.exists_typedFields hslots
  obtain ⟨parts, rfl, hall⟩ := exists_parts hlen (StructDef.fieldTag?_of_mem_slots hslots) hfields
  have hwritten := encodeFields_eq hall attributes
  have hfieldDefs : parts.map (·.slot.field) = d.fields := by
    rw [← StructDef.map_field_slots hslots]
    rw [List.map_map]
    rfl
  obtain ⟨ws, hws, hagrees⟩ := exists_mapM_read hd hall hattributes
  refine ⟨.element tag (Part.allAttributes parts attributes) none (Part.allChildren parts), ?_, rfl,
    .struct name ws, ?_, .struct hagrees⟩
  . rw [hfieldDefs] at hwritten
    rw [encode_of_struct hfind (hd.writeMember?_eq_none values)]
    simp [hheld, htyped, hwritten, bind, Except.bind]
  . rw [decode_of_struct hfind hd.member?_readName]
    unfold decodeStruct
    rw [hslots]
    exact bind_eq_ok_iff.mpr ⟨_, rfl, bind_eq_ok_iff.mpr ⟨ws, hws, rfl⟩⟩

-- The induction follows how a value holds: an instance by its fields, a field by the values in it.
mutual

theorem Holds.roundTrips {h : Hint} {v : Value} : Holds same t h v → RoundTrips same t h v
  | .leaf hname hv htext hparse hsame => roundTrips_leaf hname hv htext hparse hsame
  | .struct hfind hslots hd hconstants hlen hfields =>
    roundTrips_struct hfind hslots hd hconstants hlen fun r hr => (hfields r hr).roundTrips
  | .sequence hfind hd hitem hitems => roundTrips_sequence hfind hd hitem fun v hv => (hitems v hv).roundTrips

theorem FieldHolds.roundTrips {s : Slot} {v : Value} : FieldHolds same t s v → FieldRoundTrips same t s v
  | .untagged h hv => fieldRoundTrips_untagged h hv
  | .absent h hdefault => fieldRoundTrips_absent h hdefault
  | .attribute h hv htext hparse hsame => fieldRoundTrips_attribute h hv htext hparse hsame
  | .single h hs hv hholds => fieldRoundTrips_single h hs hv hholds.roundTrips
  | .repeated h hs hitem hitems => fieldRoundTrips_repeated h hs hitem fun v hv => (hitems v hv).roundTrips

end

/-- What is written for an instance of a structure is read as an instance that agrees with it. -/
theorem decode_encode {name : String} {values : List Value}
    (h : Holds same t (.named name) (.struct name values)) (tag : String)
    : ∃ x w, encode t (.struct name values) tag = .ok x ∧ decode t x (.named name) = .ok w ∧
        Agree same w (.struct name values) := by
  obtain ⟨x, hx, -, w, hw, hagree⟩ := h.roundTrips tag
  exact ⟨x, w, hx, hw, hagree⟩

/-! ### An entry with notes -/

/-- An entry has an attribute and a constant, a list of notes, sizes, and children of any other name. -/
def entryClass : StructDef where
  fields :=
    [⟨"key", .scalar .int, some "key,attr", false, .nothing⟩,
      ⟨"notes", .either (.named "Notes") .nothing, some "urn:t notes", false, .nothing⟩,
      ⟨"others", .list (.scalar .text), some ",any", true, .nothing⟩,
      ⟨"hidden", .scalar .bool, none, false, .bool true⟩]
  constants := [("LANG", "en")]
  constantTags := [("lang,attr", "LANG")]

def noteClass : StructDef where
  fields := [⟨"text", .either (.scalar .text) .nothing, some "text", false, .nothing⟩]
  constants := []
  constantTags := []

def entries : Table where
  definitions :=
    [("Entry", .struct entryClass), ("Note", .struct noteClass),
      ("Notes", .sequence ⟨.named "Note", ⟨"", ",any"⟩⟩)]
  readDate? := Calendar.noReader

def entry : Value :=
  .struct "Entry"
    [.int 7, .sequence "Notes" [.struct "Note" [.text "a"], .struct "Note" [.nothing]], .list [.text "c", .text "d"],
      .bool true]

theorem slots_noteClass : noteClass.slots entries = .ok
    [⟨⟨"text", .either (.scalar .text) .nothing, some "text", false, .nothing⟩, .scalar .text,
      some ⟨"", "text", []⟩⟩] := by
  rfl

theorem slots_entryClass : entryClass.slots entries = .ok
    [⟨⟨"key", .scalar .int, some "key,attr", false, .nothing⟩, .scalar .int, some ⟨"", "key", ["attr"]⟩⟩,
      ⟨⟨"notes", .either (.named "Notes") .nothing, some "urn:t notes", false, .nothing⟩, .named "Notes",
        some ⟨"urn:t", "notes", []⟩⟩,
      ⟨⟨"others", .list (.scalar .text), some ",any", true, .nothing⟩, .list (.scalar .text),
        some ⟨"", ",any", ["any"]⟩⟩,
      ⟨⟨"hidden", .scalar .bool, none, false, .bool true⟩, .scalar .bool, none⟩] := by
  rfl

theorem holds_note (s : String) : Holds Eq entries (.named "Note") (.struct "Note" [.text s]) := by
  apply Holds.struct rfl slots_noteClass
  . decide
  . decide
  . rfl
  . simp only [List.zip_cons_cons, List.zip_nil_right, List.forall_mem_singleton]
    apply FieldHolds.single rfl rfl rfl
    exact .leaf (by simp) rfl rfl rfl rfl

theorem holds_emptyNote : Holds Eq entries (.named "Note") (.struct "Note" [.nothing]) := by
  apply Holds.struct rfl slots_noteClass
  . decide
  . decide
  . rfl
  . simp only [List.zip_cons_cons, List.zip_nil_right, List.forall_mem_singleton]
    exact .absent rfl rfl

theorem holds_entry : Holds Eq entries (.named "Entry") entry := by
  apply Holds.struct rfl slots_entryClass
  . decide
  . decide
  . rfl
  . simp only [List.zip_cons_cons, List.zip_nil_right, List.forall_mem_cons]
    refine ⟨.attribute rfl rfl rfl rfl rfl, ?_, ?_, .untagged rfl (.leaf rfl), by simp⟩
    . apply FieldHolds.single rfl rfl rfl
      apply Holds.sequence rfl rfl rfl
      simp [holds_note, holds_emptyNote]
    . apply FieldHolds.repeated rfl rfl rfl
      simp only [List.forall_mem_cons]
      exact ⟨.leaf (by simp) rfl rfl rfl rfl, .leaf (by simp) rfl rfl rfl rfl, by simp⟩

theorem decode_encode_entry
    : Holds Eq entries (.named "Entry") entry ∧
        ∃ x, encode entries entry "entry" = .ok x ∧ decode entries x (.named "Entry") = .ok entry := by
  refine ⟨holds_entry, ?_⟩
  obtain ⟨x, w, hx, hw, hagree⟩ := decode_encode holds_entry "entry"
  obtain rfl := hagree.eq
  exact ⟨x, hx, hw⟩

/-! ### Classes with instances that are not read back -/

def noTypes : Table :=
  .empty Calendar.noReader

/-- A table of the one class `C`. -/
def lone (d : StructDef) : Table :=
  noTypes.define "C" (.struct d)

/-- The field stands where a class has the tags of its constants. -/
def shadowingClass : StructDef where
  fields := [⟨tagsName, .scalar .text, some "c", false, .nothing⟩]
  constants := []
  constantTags := []

def lackingClass : StructDef where
  fields := []
  constants := []
  constantTags := [("c,attr", "K")]

def malformedClass : StructDef where
  fields := [⟨"a", .either (.scalar .text) .nothing, some "a b c", false, .nothing⟩]
  constants := []
  constantTags := []

def danglingClass : StructDef where
  fields := [⟨"a", .either (.named "D") .nothing, some "a", false, .nothing⟩]
  constants := []
  constantTags := []

/-- The items may be left out, and so none of them is read as an instance. -/
def optionalClass : StructDef where
  fields := [⟨"items", .list (.either (.named "C") .nothing), some "c", true, .nothing⟩]
  constants := []
  constantTags := []

theorem not_decode_encode
    : (∃ slots, shadowingClass.slots (lone shadowingClass) = .ok slots ∧ shadowingClass.IsSeparable slots ∧
        (∀ r ∈ slots.zip [.text "v"], FieldHolds Eq (lone shadowingClass) r.1 r.2) ∧
        encode (lone shadowingClass) (.struct "C" [.text "v"]) "x" = .error (.noMember "NoneType" "items")) ∧
      (lackingClass.slots (lone lackingClass) = .ok [] ∧ lackingClass.IsSeparable [] ∧
        encode (lone lackingClass) (.struct "C" []) "x" = .error (.noMember "C" "K")) ∧
      encode (lone malformedClass) (.struct "C" [.nothing]) "x" = .error (.malformedTag ⟨"a b c"⟩) ∧
      encode (lone danglingClass) (.struct "C" [.nothing]) "x" = .error (.undefined "D") ∧
      (∃ slots x, optionalClass.slots (lone optionalClass) = .ok slots ∧ optionalClass.IsSeparable slots ∧
        optionalClass.HoldsConstants ∧ Holds Eq (lone optionalClass) (.named "C") (.struct "C" [.list []]) ∧
        encode (lone optionalClass) (.struct "C" [.list [.struct "C" [.list []]]]) "x" = .ok x ∧
        decode (lone optionalClass) x (.named "C") = .error (.notCallable "types.UnionType")) := by
  have hshadowing : shadowingClass.slots (lone shadowingClass) = .ok
      [⟨⟨tagsName, .scalar .text, some "c", false, .nothing⟩, .scalar .text, some ⟨"", "c", []⟩⟩] := rfl
  have hoptional : optionalClass.slots (lone optionalClass) = .ok
      [⟨⟨"items", .list (.either (.named "C") .nothing), some "c", true, .nothing⟩,
        .list (.either (.named "C") .nothing), some ⟨"", "c", []⟩⟩] := rfl
  refine ⟨⟨_, hshadowing, by decide, ?_, rfl⟩, ⟨rfl, by decide, rfl⟩, rfl, rfl,
    ⟨_, .element "x" [] none [.element "c" [] none []], hoptional, by decide, by decide, ?_, rfl, rfl⟩⟩
  . simp only [List.zip_cons_cons, List.zip_nil_right, List.forall_mem_singleton]
    apply FieldHolds.single rfl rfl rfl
    exact .leaf (by simp) rfl rfl rfl rfl
  . apply Holds.struct rfl hoptional
    . decide
    . decide
    . rfl
    . simp only [List.zip_cons_cons, List.zip_nil_right, List.forall_mem_singleton]
      exact .repeated rfl rfl rfl (by simp)

end XmlBinding.Codec
