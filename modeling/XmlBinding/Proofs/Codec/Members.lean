import Mathlib.Data.List.Perm.Subperm
import XmlBinding.Codec.Module
import XmlBinding.Proofs.Codec.Separable
import XmlBinding.Proofs.Name.Identifier

/-!
This module contains which members the class of a structure has. Names in its body can come to be one, and then the
class lacks some of the fields or constants; what it does have was made for them.
-/

namespace XmlBinding

/-- The names of fields and constants. -/
def Struct.memberNames (st : Struct) : List String :=
  st.fields.map (·.name) ++ st.constants.map (·.name)

def Shape.names : Shape → List String
  | .struct st => st.memberNames
  | .type _ => []

namespace Codec

open Identifier

namespace Hint

/-- The names of the types in a type. -/
def names : Hint → List String
  | .named name => [name]
  | .list h => h.names
  | .either a b => a.names ++ b.names
  | .scalar _ | .nothing => []

end Hint

/-- The names that the body of a class and the constructor made for it use: those that no member is given, and two
more. -/
def bodyNames : List String :=
  "dict" :: "_HAS_DEFAULT_FACTORY" :: memberReserved

/-- The names of the members are identifiers, and the class holds none of them under a name that means something else: a
special one, one that its body or its constructor uses, or that of a type which is not there, for which the member would
be taken. -/
structure IsOrdinary (t : Table) (className : String) (st : Struct) : Prop where
  isIdentifier : ∀ name ∈ st.memberNames, Text.isIdentifier name.toList = true
  notSpecial : ∀ name ∈ (StructDef.ofStruct className st).memberNames, ¬IsSpecial name
  unused : ∀ name ∈ (StructDef.ofStruct className st).memberNames, name ∉ bodyNames
  declared : ∀ f ∈ (StructDef.ofStruct className st).fields, ∀ name ∈ f.hint.names,
    name ∈ (StructDef.ofStruct className st).memberNames → (t.find? name).isSome = true

namespace StructDef

variable {className : String} {st : Struct}

/-! ### The body of a class -/

theorem filterMap_bindings (className : String) (st : Struct)
    : (bindings className st).filterMap (·.2.field?) = st.fields.map (.ofField className) := by
  have hconstants : (st.constants.map fun c => (inClass className c.name, Binding.constant c.value)).filterMap
      (·.2.field?) = [] := by
    rw [List.filterMap_eq_nil_iff]
    rw [List.forall_mem_map]
    exact fun _ _ => rfl
  unfold bindings
  rw [List.filterMap_append]
  rw [hconstants]
  rw [List.nil_append]
  rw [List.filterMap_map]
  exact congrFun List.filterMap_eq_map' st.fields

theorem keys_bindings (className : String) (st : Struct)
    : ((bindings className st).map (·.1)).Perm (st.memberNames.map (inClass className)) := by
  unfold bindings Struct.memberNames
  rw [List.map_append]
  rw [List.map_append]
  simp only [List.map_map]
  exact List.perm_append_comm

theorem name_of_mem_bindings {name : String} {f : FieldDef} (h : (name, .field f) ∈ bindings className st)
    : f.name = name := by
  unfold bindings at h
  rcases List.mem_append.mp h with hconstant | hfield
  . obtain ⟨c, -, heq⟩ := List.mem_map.mp hconstant
    cases heq
  . obtain ⟨g, -, heq⟩ := List.mem_map.mp hfield
    cases heq
    exact FieldDef.ofField_name className g

/-! ### Fields -/

theorem fields_ofStruct_subperm (className : String) (st : Struct)
    : (ofStruct className st).fields.Subperm (st.fields.map (.ofField className)) := by
  obtain ⟨kept, hperm, hsublist⟩ := Entries.ofList_subperm (bindings className st)
  rw [← filterMap_bindings]
  exact ⟨_, hperm.filterMap _, hsublist.filterMap _⟩

theorem exists_of_mem_fields_ofStruct {f : FieldDef} (h : f ∈ (ofStruct className st).fields)
    : ∃ g ∈ st.fields, .ofField className g = f :=
  List.mem_map.mp ((fields_ofStruct_subperm className st).subset h)

theorem mem_constants_ofStruct {name value : String}
    : (name, value) ∈ (ofStruct className st).constants ↔
        (name, .constant value) ∈ Entries.ofList (bindings className st) := by
  unfold ofStruct
  dsimp only
  rw [List.mem_filterMap]
  constructor
  . rintro ⟨⟨other, b⟩, hmem, heq⟩
    cases b with
    | constant v =>
      cases heq
      exact hmem
    | field f => cases heq
  . exact fun hmem => ⟨_, hmem, rfl⟩

theorem nodup_constants_ofStruct (className : String) (st : Struct)
    : ((ofStruct className st).constants.map (·.1)).Nodup := by
  have hkeys := List.pairwise_map.mp (Entries.nodup_keys_ofList (bindings className st))
  refine List.pairwise_map.mpr (hkeys.filterMap _ ?_)
  rintro ⟨name, b⟩ ⟨name', b'⟩ hne c hc c' hc'
  obtain ⟨v, -, rfl⟩ := Option.map_eq_some_iff.mp hc
  obtain ⟨v', -, rfl⟩ := Option.map_eq_some_iff.mp hc'
  exact hne

/-- The class has a constant whose name is held for nothing else. -/
theorem lookup_constants_ofStruct {c : Constant} (hc : c ∈ st.constants)
    (hconstants : ∀ other ∈ st.constants, inClass className other.name = inClass className c.name → other = c)
    (hfields : ∀ f ∈ st.fields, inClass className f.name ≠ inClass className c.name)
    : (ofStruct className st).constants.lookup (inClass className c.name) = some c.value := by
  have hmem : (inClass className c.name, .constant c.value) ∈ bindings className st :=
    List.mem_append_left _ (List.mem_map_of_mem hc)
  rw [Entries.lookup_eq_some_iff_mem (nodup_constants_ofStruct className st)]
  rw [mem_constants_ofStruct]
  rw [← Entries.lookup_eq_some_iff_mem (Entries.nodup_keys_ofList _)]
  refine Entries.lookup_ofList_of_unique hmem ?_
  intro entry hentry hkey
  rcases List.mem_append.mp hentry with hconstant | hfield
  . obtain ⟨other, hother, rfl⟩ := List.mem_map.mp hconstant
    rw [hconstants other hother hkey]
  . obtain ⟨f, hf, rfl⟩ := List.mem_map.mp hfield
    exact absurd hkey (hfields f hf)

theorem exists_of_mem_constantTags_ofStruct {held : String × String}
    (h : held ∈ (ofStruct className st).constantTags)
    : ∃ c ∈ st.constants, c.name = held.2 := by
  unfold ofStruct at h
  dsimp only at h
  cases htags : st.constantTags with
  | error e =>
    rw [htags] at h
    cases h
  | ok tags =>
    rw [htags] at h
    obtain ⟨tagged, htagged, heq⟩ := bind_eq_ok_iff.mp htags
    obtain rfl := Except.ok.inj heq
    obtain ⟨c, hc, htag⟩ := exists_mem_of_forall₂ (mapM_eq_ok_iff.mp htagged) held (Entries.ofList_subset tagged h)
    refine ⟨c, hc, ?_⟩
    split at htag
    . cases htag
      rfl
    . cases htag

theorem mem_memberNames_ofStruct {name : String}
    : name ∈ (ofStruct className st).memberNames ↔ ∃ member ∈ st.memberNames, inClass className member = name := by
  rw [← List.mem_map]
  rw [← (keys_bindings className st).mem_iff]
  rw [← Entries.mem_keys_ofList]
  unfold memberNames
  rw [List.mem_append]
  constructor
  . rintro (hfield | hconstant)
    . obtain ⟨f, hf, rfl⟩ := List.mem_map.mp hfield
      obtain ⟨⟨key, b⟩, hmem, hb⟩ := List.mem_filterMap.mp hf
      cases b with
      | constant v => cases hb
      | field g =>
        obtain rfl := Option.some.inj hb
        rw [name_of_mem_bindings (Entries.ofList_subset _ hmem)]
        exact List.mem_map_of_mem hmem
    . obtain ⟨⟨key, value⟩, hmem, rfl⟩ := List.mem_map.mp hconstant
      exact List.mem_map_of_mem (mem_constants_ofStruct.mp hmem)
  . intro hkey
    obtain ⟨⟨key, b⟩, hmem, rfl⟩ := List.mem_map.mp hkey
    cases b with
    | constant v => exact .inr (List.mem_map_of_mem (mem_constants_ofStruct.mpr hmem))
    | field f =>
      left
      rw [← name_of_mem_bindings (Entries.ofList_subset _ hmem)]
      exact List.mem_map_of_mem (List.mem_filterMap.mpr ⟨_, hmem, rfl⟩)

end StructDef

end Codec

end XmlBinding
