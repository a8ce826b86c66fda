import XmlBinding.Proofs.Declaration.Search
import XmlBinding.Proofs.Render.Layout
import XmlBinding.Proofs.Render.Module
import XmlBinding.Proofs.Text.Quoted

/-!
This module contains that the texts that a module quotes stand in its source as they were written: on one line each,
which the clean-up leaves alone, so that they are read back as they were.
-/

namespace XmlBinding.Render

open Text

/-- There is such a line in a text. -/
def HasLine (text line : String) : Prop :=
  line.toList ∈ lines text.toList

/-- There is a line with such an end in a text. -/
def HasLineEnd (text last : String) : Prop :=
  ∃ start : List Char, start ++ last.toList ∈ lines text.toList

/-- What stands on a line and is kept by the clean-up. -/
structure IsKept (s : String) : Prop where
  oneLine : '\n' ∉ s.toList
  isTrim : IsTrim s.toList

/-- A text has every line of another one that is kept by the clean-up. -/
def KeepsLines (a b : String) : Prop :=
  ∀ l ∈ lines a.toList, IsTrim l → l ∈ lines b.toList

variable {a b text s : String}

/-! ### Quoted texts on lines -/

theorem isKept_quoted (s : String) : IsKept (quoted s) where
  oneLine := by
    unfold quoted
    rw [String.toList_ofList]
    exact Quoted.lineFeed_not_mem_write s.toList
  isTrim := by
    unfold quoted
    rw [String.toList_ofList]
    exact ⟨_, Quoted.getLast?_write s.toList, Quoted.isBlank_mark s.toList⟩

theorem IsKept.append_left (h : IsKept s) {lead : String} (hlead : '\n' ∉ lead.toList) : IsKept (lead ++ s) where
  oneLine := by
    rw [String.toList_append]
    rw [List.mem_append]
    exact not_or.mpr ⟨hlead, h.oneLine⟩
  isTrim := by
    rw [String.toList_append]
    exact h.isTrim.append_left lead.toList

theorem IsKept.append_right (h : IsKept s) {last : String} (hlast : IsKept last) : IsKept (s ++ last) :=
  hlast.append_left h.oneLine

/-! ### Parts of a text -/

/-- A text stands in another one. -/
def IsPart (s text : String) : Prop :=
  ∃ before after, text = before ++ s ++ after

theorem IsPart.append_left (h : IsPart s text) (before : String) : IsPart s (before ++ text) := by
  obtain ⟨first, after, rfl⟩ := h
  exact ⟨before ++ first, after, by simp only [String.append_assoc]⟩

theorem IsPart.append_right (h : IsPart s text) (after : String) : IsPart s (text ++ after) := by
  obtain ⟨before, last, rfl⟩ := h
  exact ⟨before, last ++ after, by simp only [String.append_assoc]⟩

theorem IsPart.join {α : Type} {f : α → String} {x : α} {xs : List α} (h : IsPart s (f x)) (hx : x ∈ xs)
    : IsPart s (String.join (xs.map f)) := by
  obtain ⟨first, last, rfl⟩ := List.append_of_mem hx
  rw [List.map_append]
  rw [String.join_append]
  rw [List.map_cons]
  rw [String.join_cons]
  exact (h.append_right _).append_left _

theorem HasLineEnd.of_isPart {last : String} (h : IsPart (last ++ "\n") text) (hlast : IsKept last)
    : HasLineEnd text last := by
  obtain ⟨before, after, rfl⟩ := h
  unfold HasLineEnd
  have hfeed : StartsLine ('\n' :: after.toList) := .inr ⟨after.toList, rfl⟩
  have := exists_mem_lines_append before.toList hlast.oneLine hfeed
  simpa using this

theorem IsPart.isBlock (h : IsPart ("\n" ++ s ++ "\n") text) : IsBlock s.toList text.toList := by
  obtain ⟨before, after, rfl⟩ := h
  exact ⟨before.toList ++ ['\n'], '\n' :: after.toList, by simp, .inr ⟨_, rfl⟩, .inr ⟨_, rfl⟩⟩

theorem HasLine.of_isPart {line : String} (h : IsPart ("\n" ++ line ++ "\n") text) (hline : IsKept line)
    : HasLine text line :=
  mem_lines_iff.mpr ⟨hline.oneLine, h.isBlock⟩

/-! ### Lines that are kept -/

theorem KeepsLines.trans {c : String} (hab : KeepsLines a b) (hbc : KeepsLines b c) : KeepsLines a c := by
  intro l hl htrim
  exact hbc l (hab l hl htrim) htrim

theorem HasLine.of_keepsLines {line : String} (h : HasLine a line) (hkept : IsKept line) (hkeeps : KeepsLines a b)
    : HasLine b line :=
  hkeeps line.toList h hkept.isTrim

theorem HasLineEnd.of_keepsLines {last : String} (h : HasLineEnd a last) (hkept : IsKept last)
    (hkeeps : KeepsLines a b)
    : HasLineEnd b last := by
  obtain ⟨start, hstart⟩ := h
  exact ⟨start, hkeeps _ hstart (hkept.isTrim.append_left start)⟩

theorem KeepsLines.of_isBlock (h : IsBlock a.toList b.toList) : KeepsLines a b := by
  intro l hl _
  exact h.lines_isInfix.subset hl

theorem keepsLines_formatCode (s : String) : KeepsLines s (formatCode s) := by
  intro l hl htrim
  unfold formatCode
  rw [String.toList_ofList]
  exact mem_lines_tidy hl htrim

/-- Nothing is stripped in front of a text that starts with something. -/
theorem keepsLines_strip (h : ∃ c ∈ s.toList.head?, isBlank c = false) : KeepsLines s (strip s) := by
  intro l hl htrim
  obtain ⟨c, hc, hblank⟩ := h
  have hstart : trimStart s.toList = s.toList := by
    obtain ⟨rest, hrest⟩ := List.head?_eq_some_iff.mp hc
    rw [hrest]
    exact List.dropWhile_cons_of_neg (by simp [hblank])
  unfold strip trim
  rw [String.toList_ofList]
  rw [hstart]
  exact mem_lines_trimEnd hl htrim

/-! ### Pages -/

theorem isKept_lead {lead : String} (h : '\n' ∉ lead.toList) (s : String) : IsKept (lead ++ quoted s) :=
  (isKept_quoted s).append_left h

theorem isKept_fieldEnd (tag : String) : IsKept (", metadata=\x7b\"xml\": " ++ quoted tag ++ "\x7d)") :=
  (isKept_lead (by decide) tag).append_right ⟨by decide, _, rfl, rfl⟩

theorem ModulePage.hasLine_package (p : ModulePage) : HasLine p.write ("PACKAGE = " ++ quoted p.package) := by
  apply HasLine.of_isPart _ (isKept_lead (by decide) p.package)
  have hcut : "\nfrom xsd_codegen.runtime import decode_value, encode_value, local_name\n\n" =
      "\nfrom xsd_codegen.runtime import decode_value, encode_value, local_name\n" ++ "\n" := rfl
  unfold ModulePage.write
  rw [hcut]
  apply IsPart.append_right
  refine ⟨comment "#" p.header ++ "\nfrom __future__ import annotations\n\n" ++
    "from dataclasses import dataclass, field\nfrom typing import ClassVar\n" ++
    "from xml.etree import ElementTree\n" ++ String.join (p.imports.map (· ++ "\n")) ++
    "\nfrom xsd_codegen.runtime import decode_value, encode_value, local_name\n", "", ?_⟩
  simp only [String.append_assoc, String.append_empty]

theorem ModulePage.isBlock_write (p : ModulePage) {d : String} (h : d ∈ p.declarations)
    : IsBlock d.toList p.write.toList := by
  have hcut : "\n\n" = "\n" ++ "\n" := rfl
  apply IsPart.isBlock
  unfold ModulePage.write
  apply IsPart.append_left
  apply IsPart.join _ h
  refine ⟨"\n", "", ?_⟩
  rw [hcut]
  simp only [String.append_assoc, String.append_empty]

theorem StructPage.hasLine_doc {p : StructPage} {doc : String} (h : p.doc? = some doc)
    : HasLine p.write ("    " ++ quoted doc) := by
  have hopen : ":\n" = ":" ++ "\n" := rfl
  have hclose : "\n\n" = "\n" ++ "\n" := rfl
  apply HasLine.of_isPart _ (isKept_lead (by decide) doc)
  unfold StructPage.write
  rw [h]
  rw [hopen]
  dsimp only
  rw [hclose]
  apply IsPart.append_right
  apply IsPart.append_right
  apply IsPart.append_right
  apply IsPart.append_right
  apply IsPart.append_right
  refine ⟨"@dataclass\nclass " ++ p.name ++ ":", "\n", ?_⟩
  simp only [String.append_assoc]

theorem StructPage.hasLineEnd_constant {p : StructPage} {n v : String} (h : (n, v) ∈ p.constants)
    : HasLineEnd p.write (": ClassVar[str] = " ++ quoted v) := by
  apply HasLineEnd.of_isPart _ (isKept_lead (by decide) v)
  unfold StructPage.write
  dsimp only
  apply IsPart.append_right
  apply IsPart.append_right
  apply IsPart.append_right
  apply IsPart.append_right
  apply IsPart.append_left
  apply IsPart.join _ h
  exact ⟨"    " ++ n, "", by simp only [String.append_assoc, String.append_empty]⟩

theorem StructPage.hasLineEnd_field {p : StructPage} {f : PageField} (h : f ∈ p.fields)
    : HasLineEnd p.write (", metadata=\x7b\"xml\": " ++ quoted f.tag ++ "\x7d)") := by
  apply HasLineEnd.of_isPart _ (isKept_fieldEnd f.tag)
  have hcut : "\x7d)\n" = "\x7d)" ++ "\n" := rfl
  unfold StructPage.write
  dsimp only
  apply IsPart.append_right
  apply IsPart.append_right
  apply IsPart.append_left
  apply IsPart.join _ h
  unfold PageField.write
  rw [hcut]
  refine ⟨"    " ++ f.name ++ ": " ++ f.type ++ " = field(" ++ f.default, "", ?_⟩
  simp only [String.append_assoc, String.append_empty]

theorem ClassPage.hasLine_doc {p : ClassPage} {doc : String} (h : p.doc? = some doc)
    : HasLine p.write ("    " ++ quoted doc) := by
  have hopen : "):\n" = "):" ++ "\n" := rfl
  apply HasLine.of_isPart _ (isKept_lead (by decide) doc)
  unfold ClassPage.write
  rw [h]
  rw [hopen]
  dsimp only
  apply IsPart.append_right
  apply IsPart.append_right
  refine ⟨"class " ++ p.name ++ "(" ++ p.base ++ "):", "", ?_⟩
  simp only [String.append_assoc, String.append_empty]

theorem StructPage.keepsLines_strip (p : StructPage) : KeepsLines p.write (strip p.write) := by
  apply Render.keepsLines_strip
  refine ⟨'@', ?_, rfl⟩
  unfold StructPage.write
  simp

theorem ClassPage.keepsLines_strip (p : ClassPage) : KeepsLines p.write (strip p.write) := by
  apply Render.keepsLines_strip
  refine ⟨'c', ?_, rfl⟩
  unfold ClassPage.write
  simp

/-! ### Modules -/

/-- The documentation, the constants and the tags of the fields of a declaration are quoted in a text. An alias has a
comment in place of its documentation. -/
structure IsQuotedIn (d : Declaration) (text : String) : Prop where
  doc : ∀ doc, d.doc? = some doc → doc ≠ "" → (∃ s, d.shape = .struct s) ∨ d.methods ≠ [] →
    HasLine text ("    " ++ quoted doc)
  constants : ∀ s, d.shape = .struct s → ∀ c ∈ s.constants,
    HasLineEnd text (": ClassVar[str] = " ++ quoted c.value)
  fields : ∀ s, d.shape = .struct s → ∀ f ∈ s.fields,
    HasLineEnd text (", metadata=\x7b\"xml\": " ++ quoted f.tag ++ "\x7d)")

theorem IsQuotedIn.of_keepsLines {d : Declaration} (h : IsQuotedIn d a) (hkeeps : KeepsLines a b) : IsQuotedIn d b where
  doc doc hdoc hne hpage := (h.doc doc hdoc hne hpage).of_keepsLines (isKept_lead (by decide) doc) hkeeps
  constants s hs c hc := (h.constants s hs c hc).of_keepsLines (isKept_lead (by decide) c.value) hkeeps
  fields s hs f hf := (h.fields s hs f hf).of_keepsLines (isKept_fieldEnd f.tag) hkeeps

theorem tag_pageField (f : Field) : (pageField f).tag = f.tag := by
  unfold pageField
  split <;> rfl

theorem isQuotedIn_page {d : Declaration} {p : Page} (h : page d = .ok p) : IsQuotedIn d (strip p.write) := by
  have hshown : ∀ doc, d.doc? = some doc → doc ≠ "" → shownDoc? d.doc? = some doc := by
    intro doc hdoc hne
    rw [hdoc]
    simpa [shownDoc?] using hne
  unfold page at h
  dsimp only at h
  split at h
  . next s hs =>
    obtain ⟨tags, -, hp⟩ := bind_eq_ok_iff.mp h
    cases hp
    apply IsQuotedIn.of_keepsLines _ (StructPage.keepsLines_strip _)
    refine ⟨?_, ?_, ?_⟩
    . intro doc hdoc hne _
      exact StructPage.hasLine_doc (hshown doc hdoc hne)
    . intro s' hs' c hc
      cases hs.symm.trans hs'
      exact StructPage.hasLineEnd_constant (List.mem_map_of_mem hc)
    . intro s' hs' f hf
      cases hs.symm.trans hs'
      rw [← tag_pageField]
      exact StructPage.hasLineEnd_field (List.mem_map_of_mem hf)
  . next t ht =>
    have hstruct : ∀ s, d.shape ≠ .struct s := by
      intro s hs
      cases ht.symm.trans hs
    split at h
    . next hmethods =>
      refine ⟨?_, fun s hs => absurd hs (hstruct s), fun s hs => absurd hs (hstruct s)⟩
      rintro doc - - (⟨s, hs⟩ | hne)
      . exact absurd hs (hstruct s)
      . exact absurd (by simpa using hmethods) hne
    . cases h
      apply IsQuotedIn.of_keepsLines _ (ClassPage.keepsLines_strip _)
      refine ⟨?_, fun s hs => absurd hs (hstruct s), fun s hs => absurd hs (hstruct s)⟩
      intro doc hdoc hne _
      exact ClassPage.hasLine_doc (hshown doc hdoc hne)

theorem exists_mem_declarationTexts {ds : List Declaration} {texts : List String} (h : declarationTexts ds = .ok texts)
    {d : Declaration} (hd : d ∈ ds)
    : ∃ p, page d = .ok p ∧ strip p.write ∈ texts := by
  induction ds generalizing texts with
  | nil => cases hd
  | cons first ds ih =>
    rw [declarationTexts] at h
    obtain ⟨p, hp, h⟩ := bind_eq_ok_iff.mp h
    obtain ⟨rest, hrest, h⟩ := bind_eq_ok_iff.mp h
    cases h
    cases List.mem_cons.mp hd with
    | inl heq =>
      rw [heq]
      exact ⟨p, hp, List.mem_cons_self⟩
    | inr hmem =>
      obtain ⟨q, hq, htext⟩ := ih hrest hmem
      exact ⟨q, hq, List.mem_cons_of_mem _ htext⟩

theorem exists_modulePage {package : String} {ds : List Declaration} (h : moduleText package ds = .ok text)
    : ∃ p : ModulePage, p.package = package ∧
        declarationTexts (Declaration.inOrder ds) = .ok p.declarations ∧ text = formatCode p.write := by
  unfold moduleText at h
  obtain ⟨texts, htexts, h⟩ := bind_eq_ok_iff.mp h
  exact ⟨_, rfl, htexts, (Except.ok.inj h).symm⟩

/-- The source of a module quotes its package and, of each declaration, the documentation, the constants and the tags
of the fields. What is quoted is on one line, without blanks but spaces, and it is read back as it was. -/
theorem isQuotedIn_moduleText (package : String) {ds : List Declaration} (htagged : ∀ d ∈ ds, d.IsTagged)
    : ∃ text, moduleText package ds = .ok text ∧
        HasLine text ("PACKAGE = " ++ quoted package) ∧
        (∀ d, Declaration.named? ds d.name = some d → IsQuotedIn d text) ∧
        ∀ (s : String) (rest : List Char),
          Quoted.readFront? ((quoted s).toList ++ rest) = some (s.toList, rest) ∧
            ∀ c ∈ (quoted s).toList, isBlank c = true → c = ' ' := by
  obtain ⟨text, htext⟩ := exists_moduleText package htagged
  obtain ⟨p, hpackage, htexts, hformat⟩ := exists_modulePage htext
  have hkeeps : KeepsLines p.write text := by
    rw [hformat]
    exact keepsLines_formatCode p.write
  refine ⟨text, htext, ?_, ?_, ?_⟩
  . rw [← hpackage]
    exact p.hasLine_package.of_keepsLines (isKept_lead (by decide) p.package) hkeeps
  . intro d hd
    obtain ⟨q, hq, hmem⟩ := exists_mem_declarationTexts htexts (Declaration.mem_inOrder_iff.mpr hd)
    have hwritten : KeepsLines (strip q.write) p.write := KeepsLines.of_isBlock (p.isBlock_write hmem)
    exact (isQuotedIn_page hq).of_keepsLines (hwritten.trans hkeeps)
  . intro s rest
    unfold quoted
    rw [String.toList_ofList]
    exact ⟨Quoted.readFront?_write s.toList rest, fun c hc => Quoted.eq_space_of_mem_write hc⟩

def proverb : Declaration where
  name := "Proverb"
  shape := .struct {
    fields := [⟨"text", .named "str" [], some "\x7burn:t\x7dtext ", none⟩]
    constants := [⟨"origin", "don't\n \n", some "origin attr"⟩]
  }
  methods := []
  doc? := some "\"Two\" lines,\r\n\\\n "
  source? := none

theorem isQuotedIn_moduleText_proverb
    : (∀ d ∈ [proverb], d.IsTagged) ∧
        ∃ text, moduleText "sayings\n\n\n\n " [proverb] = .ok text ∧
          HasLine text "PACKAGE = 'sayings\\n\\n\\n\\n '" ∧
          HasLine text "    '\"Two\" lines,\\r\\n\\\\\\n '" ∧
          HasLineEnd text ": ClassVar[str] = \"don't\\n \\n\"" ∧
          HasLineEnd text ", metadata=\x7b\"xml\": '\x7burn:t\x7dtext '\x7d)" := by
  have htagged : ∀ d ∈ [proverb], d.IsTagged := by
    intro d hd s hs c hc
    rw [List.mem_singleton.mp hd] at hs
    cases hs
    rw [List.mem_singleton.mp hc]
    rfl
  have hpackage : quoted "sayings\n\n\n\n " = "'sayings\\n\\n\\n\\n '" := by decide +kernel
  have hdoc : quoted "\"Two\" lines,\r\n\\\n " = "'\"Two\" lines,\\r\\n\\\\\\n '" := by decide +kernel
  have hvalue : quoted "don't\n \n" = "\"don't\\n \\n\"" := by decide +kernel
  have htag : quoted "\x7burn:t\x7dtext " = "'\x7burn:t\x7dtext '" := by decide +kernel
  obtain ⟨text, htext, hpackageLine, hquoted, -⟩ := isQuotedIn_moduleText "sayings\n\n\n\n " htagged
  obtain ⟨hdocLine, hconstants, hfields⟩ := hquoted proverb rfl
  have hdocLine := hdocLine _ rfl (by decide) (.inl ⟨_, rfl⟩)
  have hconstant := hconstants _ rfl _ List.mem_cons_self
  have hfield := hfields _ rfl _ List.mem_cons_self
  rw [hpackage] at hpackageLine
  rw [hdoc] at hdocLine
  dsimp only at hconstant
  rw [hvalue] at hconstant
  dsimp only [Field.tag, Option.getD_some] at hfield
  rw [htag] at hfield
  exact ⟨htagged, text, htext, hpackageLine, hdocLine, hconstant, hfield⟩

end XmlBinding.Render
