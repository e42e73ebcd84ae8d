import Stencil.Proofs.Independence
import Stencil.Proofs.Literal
import Stencil.Proofs.Piecewise
import Stencil.Proofs.Pulling
import Stencil.Proofs.Utf8
/-!
# Stencil.Proofs.Verbatim -- files of plain text

A template without commands comes out as it is, but for its line ends. The proof follows a file
through all layers: its bytes are decoded and cut into lines, the lines give a tree without rules,
rendering hands them out unchanged, and they are encoded with a line feed behind each. In a run of
several templates this only needs that none of the others writes over the source before it is read,
or over the output after it has been written.
-/

namespace Stencil

open Stencil.Expr Stencil.Text FileTree Filing Render

/-! ## Rendering -/

namespace Item

theorem flatMap_lines_plain (texts : List String) : (texts.map plain).flatMap lines = texts := by
  induction texts with
  | nil => rfl
  | cons t texts ih => rw [List.map_cons, List.flatMap_cons, ih]; rfl

theorem meaning_plain (texts : List String) : meaning [] (texts.map plain) = texts := by
  induction texts with
  | nil => rfl
  | cons t texts ih => rw [List.map_cons, meaning, ih]; rfl

end Item

/-- Where no rules are in force lines of output come out as they are, and no error is recorded. -/
theorem Template.run_plain {texts : List String} (htexts : ∀ t ∈ texts, (Item.plain t).Proper)
    (e : Evaluator) {s : Session} (hlevel : s.scope.enclosing = []) (hrules : s.scope.groups = []) :
    ∃ t : Session,
      (Template.parse texts).root.run e none s =
        ((texts.map fun t => ⟨t, s.scope.errors.length⟩).toArray, none, t) ∧
      t.scope.errors = s.scope.errors := by
  have hitems : ∀ i ∈ texts.map Item.plain, i.Proper := by
    intro i hi
    obtain ⟨t, ht, rfl⟩ := List.mem_map.mp hi
    exact htexts t ht
  have hroot := root_parse_items hitems
  obtain ⟨f, hrender⟩ := Item.renderAll_nodes e passLimit (texts.map Item.plain) [] (apart s)
    rfl hlevel hrules
  rw [Item.flatMap_lines_plain] at hroot
  rw [Item.meaning_plain] at hrender
  have hrun : (Node.list "<root>" ((texts.map Item.plain).flatMap Item.nodes)).runWithin passLimit
      e none s = ((Item.extended (apart s) f texts).lines, none,
        apart (Item.extended (apart s) f texts)) := Node.runWithin_of_ok none nofun hrender
  rw [hroot, Node.run, hrun]
  exact ⟨apart (Item.extended (apart s) f texts), by simp [Item.extended, apart], rfl⟩

namespace Generator

/-- All pieces can be written. -/
theorem writeAll_utf8 (before ts : List (List Char)) :
    Codec.utf8.writeAll before ts = (utf8Of ts.flatten, none) := by
  induction ts generalizing before with
  | nil => rfl
  | cons t ts ih =>
    have hwrite : Codec.utf8.write before t = .ok (utf8Of t) := by
      rw [Codec.utf8, (Encoding.codec_piecewise .utf8).write, encode_utf8]
      cases before <;> rfl
    rw [Codec.writeAll, hwrite, ih, List.flatten_cons, utf8Of_append]
    rfl

/-- All lines can be encoded. -/
theorem encodeLines_utf8 (ls : List (List Char)) :
    encodeLines .utf8 (ls.map String.ofList) = (utf8Of (unlines ls), none) := by
  have hlists : (ls.map String.ofList).map String.toList = ls := by simp
  rw [encodeLines_eq_iff, writeAll_utf8, flatten_pieces, hlists]

variable {c : Setup}

/-- A template without commands is rendered to its lines. -/
theorem rendering_of_plain (hutf8 : c.settings.encoding = .utf8) {ls : List (List Char)}
    (hplain : ∀ l ∈ ls, isCommand (String.ofList l) = false)
    (hends : ∀ l ∈ ls, ∀ x ∈ l, endsLine x = false) (m : Machine) :
    ∃ t : Session, rendering c (Template.parse (ls.map String.ofList)).root m =
      ⟨utf8Of (unlines ls), t, none⟩ ∧ t.scope.errors = [] := by
  have htexts : ∀ t ∈ ls.map String.ofList, (Item.plain t).Proper := by
    intro t ht
    obtain ⟨l, hl, rfl⟩ := List.mem_map.mp ht
    refine ⟨?_, fun x hx => ?_⟩
    · have hl := hplain l hl
      rwa [isCommand, Option.isSome_eq_false_iff, Option.isNone_iff_eq_none,
        ← Option.map_eq_none_iff] at hl
    · have hx := hends l hl x (List.mem_of_getLast? (by simpa using hx))
      simpa [endsLine] using hx
  obtain ⟨t, hrun, herrors⟩ := Template.run_plain htexts c.evaluator
    (s := { scope := Scope.ofLayer c.settings.parameters, machine := m }) rfl rfl
  have hrender : renderIn c (Template.parse (ls.map String.ofList)).root none m =
      (((ls.map String.ofList).map fun t => ⟨t, 0⟩).toArray, none, t) := hrun
  refine ⟨t, ?_, herrors⟩
  rw [rendering, hrender]
  simp only [List.map_map, Function.comp_def, hutf8, encodeLines_utf8]
  rfl

/-- What is written for a source in UTF-8 without commands: its text, with line feeds. -/
theorem written_of_plain (hutf8 : c.settings.encoding = .utf8) {text : List Char}
    (hplain : ∀ l ∈ fileLines text, isCommand (String.ofList l) = false) {T : Template}
    (hT : templateOf c (utf8Of text) = .ok T) (m : Machine) :
    (rendering c T.root m).bytes = utf8Of (verbatim text) ∧
      (rendering c T.root m).session.scope.errors = [] := by
  have hends : ∀ l ∈ fileLines text, ∀ x ∈ l, endsLine x = false := fun l hl x hx =>
    endsLine_of_mem_cutTerminators (mem_fileLines hl) hx
  have hread : c.settings.encoding.read (utf8Of text) = .ok text := by
    rw [hutf8]
    show Encoding.utf8.decodeFile (utf8Of text) = _
    rw [Encoding.decodeFile, decodeUtf8_utf8Of]
    rfl
  rw [templateOf, hread] at hT
  cases hT
  obtain ⟨t, hrendering, herrors⟩ := rendering_of_plain hutf8 hplain hends m
  rw [hrendering, unlines_fileLines]
  exact ⟨rfl, herrors⟩

/-! ## Runs -/

section Runs

variable {s t : Site} {files : List Path} {results : List UnitResult}

/-- The other templates of a run leave a template alone: no output before it has been written in the
place of its source, and none behind it in the place of its output. -/
structure LeftAlone (c : Setup) (results : List UnitResult) (i : Nat) : Prop where
  source : ∀ q ∈ results.take i, ∀ r, results[i]? = some r →
    place c.working q.output ≠ place c.working r.source
  output : ∀ q ∈ results.drop (i + 1), ∀ r, results[i]? = some r →
    place c.working q.output ≠ place c.working r.output

/-- Within a run that ends well every template is generated, between those before and behind it. -/
theorem generated_within (hwell : s.files.WellFormed)
    (h : files.mapM (generateUnit c) s = .ok results t) {i : Nat} {file : Path}
    (hfile : files[i]? = some file) :
    ∃ u v r, results[i]? = some r ∧ u.files.WellFormed ∧ generateUnit c file u = .ok r v ∧
      r.source = sourceOf c file ∧
      Grown ((results.take i).map fun q => place c.working q.output) s.files u.files ∧
      Grown ((results.drop (i + 1)).map fun q => place c.working q.output) v.files t.files := by
  induction files generalizing s results i with
  | nil => cases hfile
  | cons first files ih =>
    obtain ⟨r, u, rest, hunit, hrest, rfl⟩ := mapM_cons_eq_ok h
    obtain ⟨T, hgen⟩ := generated_of_ok hwell hunit
    cases i with
    | zero =>
      cases hfile
      obtain ⟨_, _, hgrown⟩ := files_of_mapM hgen.wellFormed hrest
      exact ⟨s, u, r, rfl, hwell, hunit, by rw [hgen.result]; rfl, .refl _ _, hgrown⟩
    | succ i =>
      obtain ⟨u', v, r', hr', hu', hunit', hsource', hbefore, hbehind⟩ :=
        ih hgen.wellFormed hrest hfile
      refine ⟨u', v, r', hr', hu', hunit', hsource', ?_, hbehind⟩
      rw [List.take_succ_cons, List.map_cons]
      exact (hgen.grown.mono (by simp)).trans (hbefore.mono (List.subset_cons_self _ _))

end Runs

/-- Wherever a template that is read from the bytes of `text` is generated in UTF-8, it records no
error, and its output holds the bytes of `out`: with any parameters and evaluator, and in any
place. -/
def GeneratedAs (text out : List Char) : Prop :=
  ∀ (c : Setup) (s t : Site) (file : Path) (r : UnitResult),
    c.settings.encoding = .utf8 → s.files.WellFormed →
    s.files.find? (place c.working (sourceOf c file)) = some (.file (utf8Of text)) →
    generateUnit c file s = .ok r t →
    r.errors = [] ∧ t.files.find? (place c.working r.output) = some (.file (utf8Of out))

/-- A template that is read from the bytes of `text` is generated with the bytes of `out`, and these
are still there at the end of any run that ends well and whose other templates leave it alone, which
all do when there are none. -/
structure ComesOutAs (text out : List Char) : Prop where
  generated : GeneratedAs text out
  run : ∀ (c : Setup) (s t : Site) (results : List UnitResult) (i : Nat) (file : Path),
    c.settings.encoding = .utf8 → s.files.WellFormed →
    c.settings.files[i]? = some file →
    s.files.find? (place c.working (sourceOf c file)) = some (.file (utf8Of text)) →
    generate c s = .ok results t → LeftAlone c results i →
    ∃ r, results[i]? = some r ∧ r.errors = [] ∧
      t.files.find? (place c.working r.output) = some (.file (utf8Of out))

theorem GeneratedAs.comesOutAs {text out : List Char} (h : GeneratedAs text out) :
    ComesOutAs text out where
  generated := h
  run c s t results i file hutf8 hwell hfile hsource hrun halone := by
    obtain ⟨u, v, r, hr, hu, hunit, hsourced, hbefore, hbehind⟩ := generated_within hwell hrun hfile
    have hread : place c.working (sourceOf c file) ∉
        (results.take i).map fun q => place c.working q.output := by
      intro hmem
      obtain ⟨q, hq, heq⟩ := List.mem_map.mp hmem
      exact halone.source q hq r hr (hsourced ▸ heq)
    have hkept : place c.working r.output ∉
        (results.drop (i + 1)).map fun q => place c.working q.output := by
      intro hmem
      obtain ⟨q, hq, heq⟩ := List.mem_map.mp hmem
      exact halone.output q hq r hr heq
    obtain ⟨herrors, hout⟩ := h c u v file r hutf8 hu ((hbefore.file_iff hread).mpr hsource) hunit
    exact ⟨r, hr, herrors, (hbehind.file_iff hkept).mpr hout⟩

theorem generatedAs_verbatim {text : List Char}
    (hplain : ∀ l ∈ fileLines text, isCommand (String.ofList l) = false) :
    GeneratedAs text (verbatim text) := by
  intro c s t file r hutf8 hwell hsource hunit
  obtain ⟨T, hgen⟩ := generated_of_ok hwell hunit
  obtain ⟨bytes, hfound, hT⟩ := hgen.source
  cases hfound.symm.trans hsource
  obtain ⟨hwritten, herrors⟩ := written_of_plain hutf8 hplain hT s.machine.fresh
  refine ⟨?_, ?_⟩
  · rw [hgen.result]
    exact herrors
  · rw [hgen.output, hwritten]

/-- **Plain text comes out verbatim.** A template in UTF-8 none of whose lines is a command comes
out without errors and with the same bytes, but for a line feed in place of each line end and behind
a last line that has none. A template that only has line feeds and does not stop within a line comes
out byte for byte, and so does the output of any template, when it is generated once more. -/
theorem generate_verbatim {text : List Char}
    (hplain : ∀ l ∈ fileLines text, isCommand (String.ofList l) = false) :
    ComesOutAs text (verbatim text) ∧
    ('\r' ∉ text → (text = [] ∨ text.getLast? = some '\n') → ComesOutAs text text) ∧
    ComesOutAs (verbatim text) (verbatim text) := by
  have hverbatim := (generatedAs_verbatim hplain).comesOutAs
  refine ⟨hverbatim, fun hreturn hend => ?_, ?_⟩
  · have hstops : stopsInLine text = false := by
      rcases hend with rfl | hend
      · rfl
      · rw [stopsInLine, hend]
        rfl
    rwa [verbatim_eq_self hreturn hstops] at hverbatim
  · have hagain : ∀ l ∈ fileLines (verbatim text), isCommand (String.ofList l) = false := by
      rwa [fileLines_verbatim]
    have htwice := (generatedAs_verbatim hagain).comesOutAs
    rwa [verbatim_verbatim] at htwice

/-- A setup with one template. -/
def single : Setup where
  settings := {
    files := [⟨0, ["a"]⟩]
    base := ⟨0, []⟩
    output := ⟨0, ["out"]⟩
    encodingName := "utf-8"
    encoding := .utf8
    parameters := [] }
  working := ⟨1, ["w"]⟩

/-- Three kinds of line ends, a byte order mark, a form feed, a null character, a blank at the end
of a line, and a line separator that ends no line of a file. -/
def mixedText : List Char := "\ufeffa\r\n\x0c\r\x00 \nb\u2028c".toList

/-- Where one template is generated. -/
def singleSite : Site where
  files := ⟨[(["w"], .directory), (["w", "a"], .file (utf8Of mixedText))]⟩

theorem generate_verbatim_mixed :
    (∀ l ∈ fileLines mixedText, isCommand (String.ofList l) = false) ∧
    verbatim mixedText = "\ufeffa\n\x0c\n\x00 \nb\u2028c\n".toList ∧
    ∃ results t r, generate single singleSite = .ok results t ∧ results[0]? = some r ∧
      r.errors = [] ∧ t.files.find? (place single.working r.output) =
        some (.file (utf8Of "\ufeffa\n\x0c\n\x00 \nb\u2028c\n".toList)) := by
  have hplain : ∀ l ∈ fileLines mixedText, isCommand (String.ofList l) = false := by
    decide +kernel
  have hverbatim : verbatim mixedText = "\ufeffa\n\x0c\n\x00 \nb\u2028c\n".toList := by
    decide +kernel
  obtain ⟨t, hrun⟩ : ∃ t, generate single singleSite =
      .ok [⟨⟨0, ["a"]⟩, ⟨0, ["out", "a"]⟩, []⟩] t := exists_of_run' (by decide +kernel)
  obtain ⟨r, hr, herrors, hfile⟩ := (generate_verbatim hplain).1.run single singleSite t _ 0
    ⟨0, ["a"]⟩ rfl (wellFormed_of_entries (by decide +kernel)) rfl (by decide +kernel) hrun ⟨nofun, nofun⟩
  exact ⟨hplain, hverbatim, _, t, r, hrun, hr, herrors, hverbatim ▸ hfile⟩

end Generator

end Stencil
