import XmlBinding.Proofs.Entries
import XmlBinding.Proofs.Generate.Process

/-!
This module contains what is generated for all types of a schema: what each of them comes to alone, and of the
declarations with one name the first.
-/

namespace XmlBinding

open Notice

namespace Generate

def firstOfEachName (ds : List Declaration) : List Declaration :=
  ds.eraseDupsBy fun d e => d.name == e.name

/-- What is told of the declarations whose names are taken by earlier ones; each comes with the name of its
type. -/
def takenNames : (earlier : List (String × Declaration)) → List (String × Declaration) → List Notice
  | _, [] => []
  | earlier, (type, d) :: rest =>
    let first? := (earlier.find? (·.2.name == d.name)).map (·.1)
    (first?.map fun first => Notice.nameTaken first type d.name).toList
      ++ takenNames (earlier ++ [(type, d)]) rest

def namedAlone? (cfg : Config) (find? : QName → Option TypeRef) (s : Store) (r : TypeRef) :
    Option (String × Declaration) :=
  (draftAlone? cfg find? s r).map fun d => ((s.nameOf r).localPart, d)

theorem filterMap_cons_eq {α β : Type} (f : α → Option β) (x : α) (xs : List α)
    : (x :: xs).filterMap f = (f x).toList ++ xs.filterMap f := by
  rw [List.filterMap_eq_flatMap_toList]
  rw [List.filterMap_eq_flatMap_toList]
  rw [List.flatMap_cons]

variable {cfg : Config} {find? : QName → Option TypeRef} {s s' : Store}

/-- The names so far are those of earlier declarations, with the types of the first of them. -/
def IsSeen (seen : List (String × String)) (earlier : List (String × Declaration)) : Prop :=
  ∀ name, seen.lookup name = (earlier.find? (·.2.name == name)).map (·.1)

theorem IsSeen.append_of_taken {seen : List (String × String)} {earlier : List (String × Declaration)}
    (h : IsSeen seen earlier) {d : Declaration} {first : String} (hd : seen.lookup d.name = some first)
    (type : String)
    : IsSeen seen (earlier ++ [(type, d)]) := by
  intro name
  rw [h name]
  rw [List.find?_append]
  by_cases hname : d.name = name
  . subst hname
    rw [h d.name] at hd
    obtain ⟨p, hp, -⟩ := Option.map_eq_some_iff.mp hd
    rw [hp]
    rfl
  . have hlast : [(type, d)].find? (·.2.name == name) = none := by simp [hname]
    rw [hlast]
    rw [Option.or_none]

theorem IsSeen.append_of_free {seen : List (String × String)} {earlier : List (String × Declaration)}
    (h : IsSeen seen earlier) {d : Declaration} (hd : seen.lookup d.name = none) (type : String)
    : IsSeen ((d.name, type) :: seen) (earlier ++ [(type, d)]) := by
  intro name
  rw [List.find?_append]
  by_cases hname : d.name = name
  . subst hname
    rw [h d.name] at hd
    rw [Option.map_eq_none_iff.mp hd]
    simp
  . have hlast : [(type, d)].find? (·.2.name == name) = none := by simp [hname]
    have hne : (name == d.name) = false := by simpa using fun heq => hname heq.symm
    rw [hlast]
    rw [Option.or_none]
    rw [List.lookup_cons]
    rw [hne]
    exact h name

theorem firstOfEachName_cons_filter {seen : List (String × String)} {d : Declaration}
    (hd : seen.lookup d.name = none) (type : String) (ds : List Declaration)
    : firstOfEachName ((d :: ds).filter fun e => (seen.lookup e.name).isNone) =
        d :: firstOfEachName (ds.filter fun e => (((d.name, type) :: seen).lookup e.name).isNone) := by
  unfold firstOfEachName
  rw [List.filter_cons_of_pos (by simp [hd])]
  rw [List.eraseDupsBy_cons]
  rw [List.filter_filter]
  congr 3
  funext e
  rw [List.lookup_cons]
  cases e.name == d.name with
  | true => simp
  | false => simp

/-- What the drafts come to after some types were reached. It is told of each failing type and of each name that
is taken. -/
theorem IsReached.drafts (h : IsReached cfg find? s s') (hcfg : cfg.IsRegular) (hs : s.IsRegular)
    (rs : List TypeRef) {seen : List (String × String)} {earlier : List (String × Declaration)}
    (hseen : IsSeen seen earlier)
    : ∃ notices,
        ErrorsAre notices (rs.filterMap (failureAlone? cfg find? s))
          (takenNames earlier (rs.filterMap (namedAlone? cfg find? s))) ∧
        drafts cfg find? seen rs s' =
          (rs.foldl (Generate.pass cfg find? s) s',
            ⟨.ok (firstOfEachName ((rs.filterMap (draftAlone? cfg find? s)).filter fun d =>
              (seen.lookup d.name).isNone)), notices⟩) := by
  -- The store changes with every type, but whatever was reached, the next type is drafted as if it were alone.
  induction rs generalizing s' seen earlier with
  | nil => exact ⟨[], errorsAre_nil, rfl⟩
  | cons r rs ih =>
    have hname := Store.nameOf_congr h.partly.nodes r
    have hpass := h.pass hs r
    obtain ⟨notices, herrors, hdraft⟩ := h.draft hcfg hs r
    rw [Generate.drafts]
    rw [Edit.store_bind]
    rw [hname]
    rw [Edit.bind_of_ok hdraft]
    rw [List.foldl_cons]
    rw [filterMap_cons_eq (failureAlone? cfg find? s)]
    cases hd : draftAlone? cfg find? s r with
    | none =>
      have hnamed : namedAlone? cfg find? s r = none := by simp [namedAlone?, hd]
      obtain ⟨notices', herrors', hrest⟩ := ih hpass hseen
      rw [List.filterMap_cons_none hd]
      rw [List.filterMap_cons_none hnamed]
      exact ⟨_, herrors.append herrors', by simp only [hrest]⟩
    | some d =>
      have hnamed : namedAlone? cfg find? s r = some ((s.nameOf r).localPart, d) := by simp [namedAlone?, hd]
      rw [List.filterMap_cons_some hd]
      rw [List.filterMap_cons_some hnamed]
      rw [takenNames]
      rw [← hseen d.name]
      cases hlookup : seen.lookup d.name with
      | some first =>
        obtain ⟨notices', herrors', hrest⟩ := ih hpass (hseen.append_of_taken hlookup _)
        have htaken := errorsAre_nameTaken first (s.nameOf r).localPart d.name
        refine ⟨_, herrors.append (htaken.append herrors'), ?_⟩
        rw [List.filter_cons_of_neg (by simp [hlookup])]
        simp only [hlookup, Edit.note_bind, hrest]
        rfl
      | none =>
        obtain ⟨notices', herrors', hrest⟩ := ih hpass (hseen.append_of_free hlookup _)
        refine ⟨_, herrors.append herrors', ?_⟩
        rw [firstOfEachName_cons_filter hlookup (s.nameOf r).localPart]
        simp only [hlookup, Edit.bind_pure_of_ok hrest]

/-! ### Schemas -/

theorem IsReached.drafts_nil (h : IsReached cfg find? s s') (hcfg : cfg.IsRegular) (hs : s.IsRegular)
    (rs : List TypeRef)
    : ∃ notices,
        ErrorsAre notices (rs.filterMap (failureAlone? cfg find? s))
          (takenNames [] (rs.filterMap (namedAlone? cfg find? s))) ∧
        Generate.drafts cfg find? [] rs s' =
          (rs.foldl (Generate.pass cfg find? s) s',
            ⟨.ok (firstOfEachName (rs.filterMap (draftAlone? cfg find? s))), notices⟩) := by
  have hseen : IsSeen [] [] := fun _ => rfl
  obtain ⟨notices, herrors, hdrafts⟩ := h.drafts hcfg hs rs hseen
  have hall (ds : List Declaration)
      : ds.filter (fun d => (([] : List (String × String)).lookup d.name).isNone) = ds := by simp
  rw [hall] at hdrafts
  exact ⟨notices, herrors, hdrafts⟩

def anyItems : Element :=
  ⟨⟨"", ""⟩, none, true, true, true, false⟩

def itemTypeAttribute (reference : String) : Attribute :=
  ⟨⟨"", "arrayType"⟩, none, "", "", true, [⟨SoapArray.annotation, reference⟩], [("xs", Builtin.namespaceUri)]⟩

def arrayOf (localPart : String) (base? : Option TypeRef) (members : Nat) : Entity :=
  .complex ⟨⟨"urn:t", localPart⟩, base?, members, false, false, none⟩

def aliasOf (localPart : String) (base : Builtin) : Entity :=
  .simple ⟨⟨"urn:t", localPart⟩, some (.builtin base), [], none, none⟩

/-- Two arrays, of which the second one inherits the items of the first one, a type that cannot be declared, and
one with the name of an array. -/
def arrays : Schema where
  targetNamespace := "urn:t"
  store :=
    ⟨[arrayOf "Array" none 0, arrayOf "Ints" (some (.declared 0)) 1, arrayOf "Texts" (some (.declared 1)) 2,
        aliasOf "Span" .duration, aliasOf "ints" .int],
      [⟨[], [.element anyItems]⟩, ⟨[.attribute (itemTypeAttribute "xs:int[]")], []⟩,
        ⟨[.attribute (itemTypeAttribute "xs:string[]")], []⟩]⟩
  types :=
    [(⟨"urn:t", "Array"⟩, .declared 0), (⟨"urn:t", "Ints"⟩, .declared 1), (⟨"urn:t", "Texts"⟩, .declared 2),
      (⟨"urn:t", "Span"⟩, .declared 3), (⟨"urn:t", "ints"⟩, .declared 4)]

def arrayDirectives : List Directive :=
  [.typeStep .soapArrays, .declarationStep .flatten, .ignoreElements ["note"]]

def arraysConfig : Config :=
  .built [.duration] arrayDirectives

end Generate

end XmlBinding
