import XmlBinding.Proofs.Render.Literal
import XmlBinding.Proofs.Text.SourceLines

/-!
This module contains when the documentation of an alias stays a comment in the source of a module: a carriage return in
it ends the line, and what stands behind it is not marked.
-/

namespace XmlBinding.Render

open Text

/-- The text of a page as it stands in the source of a module. -/
def Page.emitted (p : Page) : List Char :=
  unlines (tidyLines 0 (lines (strip p.write).toList))

/-- There is no code on a line: nothing but blanks, or a comment. -/
def IsRemark (l : List Char) : Prop :=
  isAllBlank l = true ∨ ['#'] <+: l

instance (l : List Char) : Decidable (IsRemark l) :=
  inferInstanceAs (Decidable (_ ∨ _))

/-- There is no code behind the carriage returns inside of a line. Those at its end are trimmed. -/
def HidesNothing (l : List Char) : Prop :=
  ∀ piece ∈ (cutAt '\r' (trimEnd l)).tail, IsRemark piece

instance (l : List Char) : Decidable (HidesNothing l) :=
  inferInstanceAs (Decidable (∀ piece ∈ _, _))

/-- A line of a comment. Blank lines are not marked. -/
def remark (l : List Char) : List Char :=
  if isAllBlank l then l else '#' :: ' ' :: l

namespace AliasPage

def docLines (p : AliasPage) : List (List Char) :=
  match p.doc? with
  | some doc => lines doc.toList
  | none => []

def assignment (p : AliasPage) : List Char :=
  (p.name ++ " = " ++ p.target).toList

/-- The lines in front of the assignment as they stand in the source of a module. -/
def remarks (p : AliasPage) : List (List Char) :=
  (tidyLines 0 ((p.docLines.map remark).dropWhile isAllBlank)).flatMap (cutAt '\r')

end AliasPage

variable {l cs : List Char} {ls : List (List Char)}

theorem Page.isTrim_emitted (p : Page) (hp : isAllBlank p.write.toList = false) : IsTrim p.emitted := by
  unfold emitted strip
  rw [String.toList_ofList]
  exact isTrim_unlines_tidyLines (isTrim_trim hp)

theorem ModulePage.isBlock_emitted (m : ModulePage) {p : Page} (h : strip p.write ∈ m.declarations)
    (hp : isAllBlank p.write.toList = false)
    : IsBlock p.emitted (formatCode m.write).toList := by
  have hblock := m.isBlock_write h
  unfold Page.emitted formatCode
  rw [String.toList_ofList]
  unfold strip at hblock ⊢
  rw [String.toList_ofList] at hblock ⊢
  exact isBlock_tidy hblock (head?_trim hp) (isTrim_trim hp)

/-! ### Lines of an alias -/

theorem toList_comment (doc : String) : (comment "#" doc).toList = unlines ((lines doc.toList).map remark) := by
  unfold comment
  rw [String.toList_ofList]
  rfl

theorem AliasPage.toList_write (p : AliasPage) : p.write.toList = unlines (p.docLines.map remark ++ [p.assignment]) := by
  unfold write docLines assignment
  cases p.doc? with
  | none =>
    rw [List.map_nil]
    rw [List.nil_append]
    rw [unlines_singleton]
    simp
  | some doc =>
    have hne : (lines doc.toList).map remark ≠ [] := by simpa using lines_ne_nil doc.toList
    dsimp only
    rw [unlines_append hne (List.cons_ne_nil _ [])]
    rw [unlines_singleton]
    rw [← toList_comment]
    simp

theorem AliasPage.isAllBlank_write (p : AliasPage) : isAllBlank p.write.toList = false := by
  apply isAllBlank_eq_false_iff.mpr
  refine ⟨'=', ?_, by decide⟩
  unfold write
  simp

theorem isAllBlank_remark (l : List Char) : isAllBlank (remark l) = isAllBlank l := by
  unfold remark
  split
  . rfl
  . next h =>
    rw [Bool.eq_false_iff.mpr h]
    rfl

theorem trimStart_remark (h : isAllBlank (remark l) = false) : trimStart (remark l) = remark l := by
  rw [isAllBlank_remark] at h
  unfold remark
  rw [if_neg (by simp [h])]
  rfl

theorem trimEnd_remark (h : isAllBlank l = false) : trimEnd (remark l) = '#' :: ' ' :: trimEnd l := by
  unfold remark
  rw [if_neg (by simp [h])]
  exact trimEnd_append h ['#', ' ']

theorem AliasPage.lineFeed_not_mem_docLines (p : AliasPage) (h : l ∈ p.docLines) : '\n' ∉ remark l := by
  have hl : '\n' ∉ l := by
    unfold docLines at h
    split at h
    . exact lineFeed_not_mem_of_mem_lines h
    . cases h
  unfold remark
  split
  . exact hl
  . simpa using hl

theorem AliasPage.isAllBlank_assignment (p : AliasPage) : isAllBlank p.assignment = false := by
  apply isAllBlank_eq_false_iff.mpr
  refine ⟨'=', ?_, by decide⟩
  unfold assignment
  simp

theorem AliasPage.exists_lines_strip (p : AliasPage) (hline : '\n' ∉ p.assignment)
    : ∃ last, lines (strip p.write).toList = (p.docLines.map remark).dropWhile isAllBlank ++ [last] ∧ IsTrim last ∧
        (last = trimEnd p.assignment ∨ last = trim p.assignment) := by
  have hstarts : ∀ l ∈ p.docLines.map remark, isAllBlank l = false → trimStart l = l := by
    intro l hl
    obtain ⟨first, -, rfl⟩ := List.mem_map.mp hl
    exact trimStart_remark
  obtain ⟨start, hstart, hcases⟩ := exists_trimStart_unlines hstarts p.assignment
  have hblank : isAllBlank start = false := by
    rcases hcases with rfl | rfl
    . exact p.isAllBlank_assignment
    . exact isAllBlank_trimStart p.isAllBlank_assignment
  have hfeed : '\n' ∉ trimEnd start := by
    intro hmem
    have hmem := (isPrefix_trimEnd start).subset hmem
    rcases hcases with rfl | rfl
    . exact hline hmem
    . exact hline ((List.dropWhile_suffix _).subset hmem)
  refine ⟨trimEnd start, ?_, isTrim_trimEnd hblank, hcases.imp (congrArg trimEnd) (congrArg trimEnd)⟩
  unfold strip trim
  rw [String.toList_ofList]
  rw [p.toList_write]
  rw [hstart]
  rw [trimEnd_unlines hblank]
  apply lines_unlines
  . simp
  . intro l hl
    cases List.mem_append.mp hl with
    | inl hmem =>
      obtain ⟨first, hfirst, rfl⟩ := List.mem_map.mp ((List.dropWhile_suffix _).subset hmem)
      exact p.lineFeed_not_mem_docLines hfirst
    | inr hmem =>
      rw [List.mem_singleton.mp hmem]
      exact hfeed

theorem AliasPage.sourceLines_emitted (p : AliasPage) (hline : IsOneLine p.assignment)
    : ∃ last, sourceLines (Page.ofAlias p).emitted = p.remarks ++ [last] ∧
        (last = trimEnd p.assignment ∨ last = trim p.assignment) := by
  obtain ⟨last, hlines, htrim, hlast⟩ := p.exists_lines_strip hline.1
  have hsub : last ⊆ p.assignment := by
    rcases hlast with rfl | rfl
    . exact (isPrefix_trimEnd _).subset
    . exact fun c hc => (List.dropWhile_suffix _).subset ((isPrefix_trimEnd _).subset hc)
  refine ⟨last, ?_, hlast⟩
  have htidied : tidyLines 0 (lines (strip p.write).toList) =
      tidyLines 0 ((p.docLines.map remark).dropWhile isAllBlank) ++ [last] := by
    rw [hlines]
    exact tidyLines_concat htrim 0 _
  have hends : ∀ l ∈ tidyLines 0 (lines (strip p.write).toList), '\n' ∉ l ∧ l.getLast? ≠ some '\r' := by
    intro l hl
    obtain ⟨first, -, rfl⟩ := exists_of_mem_tidyLines hl
    exact ⟨lineFeed_not_mem_of_mem_tidyLines hl, getLast?_trimEnd_ne first (by decide)⟩
  rw [htidied] at hends
  unfold Page.emitted Page.write remarks
  dsimp only
  rw [htidied]
  rw [sourceLines_unlines (by simp) hends]
  rw [List.flatMap_append]
  rw [List.flatMap_singleton]
  rw [cutAt_of_not_mem fun hmem => hline.2 (hsub hmem)]

/-- What follows a mark up to the next carriage return is a comment, and nothing else is. -/
theorem forall_isRemark_trimEnd_remark_iff (l : List Char)
    : (∀ piece ∈ cutAt '\r' (trimEnd (remark l)), IsRemark piece) ↔ HidesNothing l := by
  unfold HidesNothing
  cases h : isAllBlank l with
  | true =>
    have hl : trimEnd l = [] := trimEnd_eq_nil_iff.mpr h
    have hremark : trimEnd (remark l) = [] := by
      rw [trimEnd_eq_nil_iff]
      rw [isAllBlank_remark]
      exact h
    rw [hl]
    rw [hremark]
    decide
  | false =>
    rw [trimEnd_remark h]
    obtain ⟨piece, pieces, hl, hspace⟩ := exists_cutAt_cons (show ' ' ≠ '\r' by decide) (trimEnd l)
    obtain ⟨_, _, hcut, hmark⟩ := exists_cutAt_cons (show '#' ≠ '\r' by decide) (' ' :: trimEnd l)
    cases hspace.symm.trans hcut
    have hfirst : IsRemark ('#' :: ' ' :: piece) := .inr ⟨_, rfl⟩
    rw [hmark]
    rw [hl]
    rw [List.forall_mem_cons]
    rw [List.tail_cons]
    exact and_iff_right hfirst

theorem AliasPage.forall_isRemark_iff (p : AliasPage)
    : (∀ l ∈ p.remarks, IsRemark l) ↔ ∀ l ∈ p.docLines, HidesNothing l := by
  unfold remarks
  constructor
  . intro h l hl
    rw [← forall_isRemark_trimEnd_remark_iff]
    intro piece hpiece
    cases hblank : isAllBlank (remark l) with
    | true =>
      rw [trimEnd_eq_nil_iff.mpr hblank] at hpiece
      rw [List.mem_singleton.mp hpiece]
      exact .inl rfl
    | false =>
      have hkept : remark l ∈ (p.docLines.map remark).dropWhile isAllBlank :=
        mem_dropWhile (List.mem_map_of_mem hl) hblank
      exact h piece (List.mem_flatMap.mpr ⟨_, trimEnd_mem_tidyLines hkept hblank 0, hpiece⟩)
  . intro h piece hpiece
    obtain ⟨line, hline, hpiece⟩ := List.mem_flatMap.mp hpiece
    obtain ⟨first, hfirst, rfl⟩ := exists_of_mem_tidyLines hline
    obtain ⟨l, hl, rfl⟩ := List.mem_map.mp ((List.dropWhile_suffix _).subset hfirst)
    exact (forall_isRemark_trimEnd_remark_iff l).mpr (h l hl) piece hpiece

/-! ### Aliases in modules -/

def aliasPage (d : Declaration) (type : TypeExpr) : AliasPage :=
  ⟨d.name, type.source, shownDoc? d.doc?⟩

variable {d : Declaration} {type : TypeExpr}

theorem isOneLine_assignment (hname : IsOneLine d.name.toList) (htype : IsOneLine type.source.toList)
    : IsOneLine (aliasPage d type).assignment := by
  unfold IsOneLine AliasPage.assignment aliasPage at *
  simp [hname, htype]

theorem forall_docLines_aliasPage_iff (d : Declaration) (type : TypeExpr)
    : (∀ l ∈ (aliasPage d type).docLines, HidesNothing l) ↔
        ∀ doc ∈ d.doc?, ∀ l ∈ lines doc.toList, HidesNothing l := by
  unfold AliasPage.docLines aliasPage shownDoc?
  dsimp only
  cases d.doc? with
  | none => simp
  | some doc =>
    by_cases hdoc : doc = ""
    . subst hdoc
      decide
    . simp [Option.filter_some, hdoc]

theorem exists_moduleText_emitted (package : String) {ds : List Declaration} (htagged : ∀ d ∈ ds, d.IsTagged)
    (hd : Declaration.named? ds d.name = some d) (hshape : d.shape = .type type) (hmethods : d.methods = [])
    : ∃ text, moduleText package ds = .ok text ∧ IsBlock (Page.ofAlias (aliasPage d type)).emitted text.toList ∧
        sourceLines (Page.ofAlias (aliasPage d type)).emitted <:+: sourceLines text.toList := by
  obtain ⟨text, htext⟩ := exists_moduleText package htagged
  obtain ⟨m, -, htexts, hformat⟩ := exists_modulePage htext
  obtain ⟨p, hp, hmem⟩ := exists_mem_declarationTexts htexts (Declaration.mem_inOrder_iff.mpr hd)
  have hpage : page d = .ok (.ofAlias (aliasPage d type)) := by
    unfold page
    rw [hshape]
    rw [hmethods]
    rfl
  cases hpage.symm.trans hp
  have hwrite : isAllBlank (Page.ofAlias (aliasPage d type)).write.toList = false :=
    (aliasPage d type).isAllBlank_write
  have hblock := m.isBlock_emitted hmem hwrite
  rw [← hformat] at hblock
  have htrim := Page.isTrim_emitted _ hwrite
  exact ⟨text, htext, hblock, hblock.sourceLines_isInfix (getLast?_ne_of_isTrim htrim (by decide))⟩

/-- The lines that a module has for an alias are its assignment and, in front of it, comments and blank lines: unless
its documentation has a carriage return inside of a line, with something behind it that is no comment itself. -/
theorem isRemark_documentation_iff (package : String) {ds : List Declaration} (htagged : ∀ d ∈ ds, d.IsTagged)
    (hd : Declaration.named? ds d.name = some d) (hshape : d.shape = .type type) (hmethods : d.methods = [])
    (hname : IsOneLine d.name.toList) (htype : IsOneLine type.source.toList)
    : ∃ text remarks assignment, moduleText package ds = .ok text ∧
        IsBlock (Page.ofAlias (aliasPage d type)).emitted text.toList ∧
        sourceLines (Page.ofAlias (aliasPage d type)).emitted = remarks ++ [assignment] ∧
        remarks ++ [assignment] <:+: sourceLines text.toList ∧
        (assignment = trimEnd (d.name ++ " = " ++ type.source).toList ∨
          assignment = trim (d.name ++ " = " ++ type.source).toList) ∧
        ((∀ l ∈ remarks, IsRemark l) ↔ ∀ doc ∈ d.doc?, ∀ l ∈ lines doc.toList, HidesNothing l) := by
  obtain ⟨text, htext, hblock, hinfix⟩ := exists_moduleText_emitted package htagged hd hshape hmethods
  obtain ⟨last, hlines, hlast⟩ := (aliasPage d type).sourceLines_emitted (isOneLine_assignment hname htype)
  refine ⟨text, (aliasPage d type).remarks, last, htext, hblock, hlines, ?_, hlast, ?_⟩
  . rw [← hlines]
    exact hinfix
  . rw [← forall_docLines_aliasPage_iff d type]
    exact (aliasPage d type).forall_isRemark_iff

def planet : Declaration where
  name := "Planet"
  shape := .type (.named "str" [])
  methods := []
  doc? := some "\r\nA planet.\r\n\r\n\n\nAllowed values: Mars\r# or Venus, \r \r#or\t\r"
  source? := none

theorem isRemark_documentation_iff_planet
    : (∀ d ∈ [planet], d.IsTagged) ∧ IsOneLine planet.name.toList ∧ IsOneLine "str".toList ∧
        ∃ text remarks, moduleText "solar" [planet] = .ok text ∧
          remarks ++ ["Planet = str".toList] <:+: sourceLines text.toList ∧ ∀ l ∈ remarks, IsRemark l := by
  have htagged : ∀ d ∈ [planet], d.IsTagged := by
    intro d hd s hs
    rw [List.mem_singleton.mp hd] at hs
    cases hs
  have hname : IsOneLine planet.name.toList := by
    unfold IsOneLine
    decide +kernel
  have htype : IsOneLine "str".toList := by
    unfold IsOneLine
    decide
  have hdoc : ∀ doc ∈ planet.doc?, ∀ l ∈ lines doc.toList, HidesNothing l := by decide +kernel
  obtain ⟨text, remarks, assignment, htext, -, -, hlines, hassignment, hremarks⟩ :=
    isRemark_documentation_iff "solar" htagged (d := planet) rfl rfl rfl hname htype
  have hend : trimEnd "Planet = str".toList = "Planet = str".toList := by decide +kernel
  have hboth : trim "Planet = str".toList = "Planet = str".toList := by decide +kernel
  have hline : assignment = "Planet = str".toList := hassignment.elim hend.subst hboth.subst
  rw [hline] at hlines
  exact ⟨htagged, hname, htype, text, remarks, htext, hlines, hremarks.mpr hdoc⟩

def importing : Declaration where
  name := "A"
  shape := .type (.named "str" [])
  methods := []
  doc? := some "x\rimport os"
  source? := none

theorem not_isRemark_documentation_importing
    : ∃ text, moduleText "p" [importing] = .ok text ∧
        sourceLines (Page.ofAlias (aliasPage importing (.named "str" []))).emitted =
          ["# x".toList, "import os".toList, "A = str".toList] ∧
        ["# x".toList, "import os".toList, "A = str".toList] <:+: sourceLines text.toList ∧
        ¬IsRemark "import os".toList := by
  have htagged : ∀ d ∈ [importing], d.IsTagged := by
    intro d hd s hs
    rw [List.mem_singleton.mp hd] at hs
    cases hs
  have hemitted : sourceLines (Page.ofAlias (aliasPage importing (.named "str" []))).emitted =
      ["# x".toList, "import os".toList, "A = str".toList] := by decide +kernel
  obtain ⟨text, htext, -, hinfix⟩ := exists_moduleText_emitted "p" htagged (d := importing) rfl rfl rfl
  rw [hemitted] at hinfix
  exact ⟨text, htext, hemitted, hinfix, by decide⟩

end XmlBinding.Render
