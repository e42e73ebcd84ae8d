import Stencil.Proofs.Erasure
import Stencil.Proofs.Units
/-!
# Stencil.Proofs.Mirror -- where outputs go

The place of a path is found by walking: a name leads down, two dots lead up. Making a path normal
does not change where it leads, so the places of a source, of its output and of a path that the
template gives can be told from the walks alone. The output of a template below the base directory
stands at the same place below the output directory, and a path without steps up stays below the
directory it is seen from.
-/

namespace Stencil

open Filing

/-! ## Walking -/

namespace Path

/-- One step from a place: up for two dots, down for a name. Above the root there is nothing. -/
def walkStep (here : List String) (n : String) : List String :=
  if n = above then here.dropLast else here ++ [n]

/-- The place to which names lead. -/
def walk (here : List String) (names : List String) : List String := names.foldl walkStep here

section Walking

variable {here so ns rest : List String} {absolute : Bool}

theorem walk_append (here ns rest : List String) :
    walk here (ns ++ rest) = walk (walk here ns) rest := List.foldl_append

/-- Names lead down. -/
theorem walk_of_not_mem (h : above ∉ ns) : walk here ns = here ++ ns := by
  induction ns generalizing here with
  | nil => exact (List.append_nil here).symm
  | cons n ns ih =>
    have hn : n ≠ above := fun hn => h (hn ▸ List.mem_cons_self)
    show walk (walkStep here n) ns = _
    rw [ih fun hns => h (List.mem_cons_of_mem n hns), walkStep, if_neg hn, List.append_assoc,
      List.singleton_append]

/-- What `resolve` keeps leads to the same place as what it has read. -/
theorem walk_resolve (here ns so : List String) :
    walk here (resolve false so ns) = walk here (so.reverse ++ ns) := by
  induction ns generalizing so with
  | nil => rw [resolve, List.append_nil]
  | cons n ns ih =>
    have hpush : walk here ((n :: so).reverse ++ ns) = walk here (so.reverse ++ n :: ns) := by
      rw [List.reverse_cons, List.append_assoc, List.singleton_append]
    by_cases hn : n = above
    · subst hn
      cases so with
      | nil =>
        rw [resolve_above_nil, ih]
        rfl
      | cons m so =>
        by_cases hm : m = above
        · subst hm
          rw [resolve_above_above, ih, hpush]
        -- The step up takes back the name before it.
        · rw [resolve_above_of_name hm, ih, List.reverse_cons, List.append_assoc, walk_append,
            walk_append]
          show _ = walk (walkStep (walkStep (walk here so.reverse) m) above) ns
          rw [walkStep, if_pos rfl, walkStep, if_neg hm, List.dropLast_concat]
    · rw [resolve_of_name hn, ih, hpush]

/-- Below a root `resolve` keeps the place itself. -/
theorem resolve_rooted (ns so : List String) (h : above ∉ so) :
    resolve true so ns = walk so.reverse ns := by
  induction ns generalizing so with
  | nil => rfl
  | cons n ns ih =>
    by_cases hn : n = above
    · subst hn
      cases so with
      | nil => exact ih [] h
      | cons m so =>
        have hm : m ≠ above := fun hm => h (hm ▸ List.mem_cons_self)
        rw [resolve_above_of_name hm, ih so fun hso => h (List.mem_cons_of_mem m hso)]
        show _ = walk (walkStep (m :: so).reverse above) ns
        rw [walkStep, if_pos rfl, List.reverse_cons, List.dropLast_concat]
    · rw [resolve_of_name hn, ih (n :: so)]
      · show _ = walk (walkStep so.reverse n) ns
        rw [walkStep, if_neg hn, List.reverse_cons]
      · intro hmem
        rcases List.mem_cons.mp hmem with hmem | hmem
        · exact hn hmem.symm
        · exact h hmem

/-- Names at the end are kept as they are. -/
theorem resolve_append_names (absolute : Bool) (ns so : List String) (h : above ∉ rest) :
    resolve absolute so (ns ++ rest) = resolve absolute so ns ++ rest := by
  induction rest generalizing ns with
  | nil => rw [List.append_nil, List.append_nil]
  | cons n rest ih =>
    have hn : n ≠ above := fun hn => h (hn ▸ List.mem_cons_self)
    rw [List.append_cons, ih (ns ++ [n]) fun hrest => h (List.mem_cons_of_mem n hrest),
      resolve_concat absolute hn, List.append_assoc, List.singleton_append]

end Walking

/-! ## Paths below a path -/

/-- A path with names behind its own. -/
def below (p : Path) (names : List String) : Path := { p with names := p.names ++ names }

theorem join_of_relative {p : Path} (h : p.root = 0) (directory : Path) :
    directory.join p = directory.below p.names := by
  rw [join, isAbsolute, h]
  rfl

theorem normal_below (p : Path) {names : List String} (h : above ∉ names) :
    (p.below names).normal = p.normal.below names := by
  have hnames := resolve_append_names p.isAbsolute p.names [] h
  show ({ root := p.root, names := resolve p.isAbsolute [] (p.names ++ names) } : Path) = _
  rw [hnames]
  rfl

/-- What a row of names does not share with a longer one is nothing on its own side. -/
theorem diverge_append (ns rest : List String) : diverge ns (ns ++ rest) = ([], rest) := by
  induction ns with
  | nil => cases rest <;> rfl
  | cons n ns ih =>
    rw [List.cons_append, diverge, if_pos (beq_self_eq_true n)]
    exact ih

end Path

/-! ## Places -/

section Places

variable {working p : Path}

/-- The place at which the walk of a path begins. -/
def setOut (working p : Path) : List String := if p.isAbsolute then [] else working.names

theorem reverse_passed (working p : Path) : (passed working p).reverse = setOut working p := by
  rw [passed, setOut]
  split
  · rfl
  · exact List.reverse_reverse _

theorem place_eq_walk (hw : Grounded working) (p : Path) :
    place working p = Path.walk (setOut working p) p.names := by
  rw [place_eq hw, Path.resolve_rooted _ _ (hw.not_mem_passed p), reverse_passed]

/-- Making a path normal does not change where it leads. -/
theorem place_normal (hw : Grounded working) (p : Path) :
    place working p.normal = place working p := by
  rw [place_eq_walk hw, place_eq_walk hw]
  by_cases hp : p.isAbsolute = true
  · have hnormal : p.normal.names = Path.walk [] p.names := by
      show Path.resolve p.isAbsolute [] p.names = _
      rw [hp]
      exact Path.resolve_rooted _ [] List.not_mem_nil
    have hclean : Path.above ∉ p.normal.names := (Path.normal_isNormal p).rooted hp
    have hout : setOut working p = [] := if_pos hp
    have hout' : setOut working p.normal = [] := if_pos hp
    rw [hout, hout', Path.walk_of_not_mem hclean, List.nil_append, hnormal]
  · have hp' : p.isAbsolute = false := by simpa using hp
    have hnormal : p.normal.names = Path.resolve false [] p.names := by
      show Path.resolve p.isAbsolute [] p.names = _
      rw [hp']
    show Path.walk (setOut working p) p.normal.names = _
    rw [hnormal]
    exact Path.walk_resolve _ p.names []

/-- Names behind a path lead on from its place. -/
theorem place_below (hw : Grounded working) (p : Path) (names : List String) :
    place working (p.below names) = Path.walk (place working p) names := by
  rw [place_eq_walk hw, place_eq_walk hw]
  exact Path.walk_append _ _ _

theorem above_not_mem_place (hw : Grounded working) (p : Path) :
    Path.above ∉ place working p := by
  rw [place_eq hw]
  exact Path.above_not_mem_resolve _ _ (hw.not_mem_passed p)

/-- The way down to a place below. -/
theorem relative_of_place {start : Path} {rest : List String}
    (h : place working p = place working start ++ rest) :
    Path.relative working start p = ⟨0, rest⟩ := by
  have hway : Path.diverge (place working start) (place working p) = ([], rest) := by
    rw [h, Path.diverge_append]
  rw [place, place] at hway
  rw [Path.relative, hway]
  rfl

end Places

/-! ## Outputs -/

namespace Generator

variable {c : Setup} {file : Path} {rest : List String}

/-- A template that stands strictly below the base directory, with the names that remain of its place
there. -/
structure Below (c : Setup) (file : Path) (rest : List String) : Prop where
  place : place c.working (c.settings.base.join file) = place c.working c.settings.base ++ rest
  strictly : rest ≠ []

namespace Below

theorem above_not_mem (hw : Grounded c.working) (h : Below c file rest) : Path.above ∉ rest :=
  fun hmem => above_not_mem_place hw (c.settings.base.join file)
    (h.place ▸ List.mem_append_right _ hmem)

/-- The usual output mirrors the place of the template. -/
theorem usualOutput_eq (hw : Grounded c.working) (h : Below c file rest) :
    usualOutput c (sourceOf c file) = c.settings.output.normal.below rest := by
  have hsource : Filing.place c.working (sourceOf c file) =
      Filing.place c.working c.settings.base ++ rest := (place_normal hw _).trans h.place
  rw [usualOutput, relative_of_place hsource, Path.join_of_relative rfl,
    Path.normal_below _ (h.above_not_mem hw)]

theorem place_usualOutput (hw : Grounded c.working) (h : Below c file rest) :
    Filing.place c.working (usualOutput c (sourceOf c file)) =
      Filing.place c.working c.settings.output ++ rest := by
  rw [h.usualOutput_eq hw, place_below hw, place_normal hw,
    Path.walk_of_not_mem (h.above_not_mem hw)]

end Below

/-- How the path that a template gives, seen from a directory, tells the output. -/
structure Leads (c : Setup) (directory path output : Path) : Prop where
  /-- A path of names alone keeps them, and leads to a place strictly below the directory. -/
  down : path.root = 0 → path.names ≠ [] → Path.above ∉ path.names →
    output = directory.normal.below path.names ∧
      place c.working output = place c.working directory ++ path.names
  absolute : path.root ≠ 0 → output = path.normal
  /-- Any other is walked, name by name, from the place of the directory. -/
  walked : path.root = 0 →
    place c.working output = Path.walk (place c.working directory) path.names

theorem leads_normal (hw : Grounded c.working) (directory path : Path) :
    Leads c directory path (directory.join path).normal where
  down hroot _ habove := by
    rw [Path.join_of_relative hroot]
    refine ⟨Path.normal_below directory habove, ?_⟩
    rw [place_normal hw, place_below hw, Path.walk_of_not_mem habove]
  absolute hroot := by
    have habsolute : path.isAbsolute = true := bne_iff_ne.mpr hroot
    rw [Path.join, if_pos habsolute]
  walked hroot := by
    rw [place_normal hw, Path.join_of_relative hroot, place_below hw]

/-- **Outputs mirror their templates.** Whatever dots and slashes the paths are written with: (1) the
usual output of a template strictly below the base directory is the output directory made normal with
the remaining names behind it, and stands at these names below the place of the output directory.
(2) Two such templates with different remaining names have usual outputs at different places. (3) The
output of a template without lines that give a path is the usual one, and otherwise the last of these
lines leads to it from the directory of the usual one. -/
theorem output_mirrors (hw : Grounded c.working) (lines : List String) :
    let usual := fun file => usualOutput c (sourceOf c file)
    (∀ file rest, Below c file rest →
      usual file = c.settings.output.normal.below rest ∧
        place c.working (usual file) = place c.working c.settings.output ++ rest) ∧
    (∀ file file' rest rest', Below c file rest → Below c file' rest' → rest ≠ rest' →
      place c.working (usual file) ≠ place c.working (usual file')) ∧
    ∀ file, match (lines.filterMap pathOf).getLast? with
      | none => (Template.parse lines).output (usual file) = usual file
      | some path =>
        Leads c (usual file).parent path ((Template.parse lines).output (usual file)) := by
  refine ⟨fun file rest h => ⟨h.usualOutput_eq hw, h.place_usualOutput hw⟩,
    fun file file' rest rest' h h' hne hsame => ?_, fun file => ?_⟩
  · rw [h.place_usualOutput hw, h'.place_usualOutput hw] at hsame
    exact hne (List.append_cancel_left hsame)
  · have hfilename : (Template.parse lines).filename = (lines.filterMap pathOf).getLast? := by
      rw [Template.parse_filename, Builder.filename_foldl_line]
      exact Builder.foldl_filenameAfterLine_eq lines
    rw [Template.output, hfilename]
    cases (lines.filterMap pathOf).getLast? with
    | none => rfl
    | some path => exact leads_normal hw _ path

/-- A setup whose directories are written with dots and doubled slashes. -/
def dotted : Setup where
  settings := {
    files := [Path.ofText "c/../d/e.t", Path.ofText "/w/b/f.t"]
    base := Path.ofText "./a/..//b/."
    output := Path.ofText "x/../out/"
    encodingName := "utf-8"
    encoding := .utf8
    parameters := [] }
  working := ⟨1, ["w"]⟩

/-- Two templates below the base directory, and a template that gives two paths. -/
theorem output_mirrors_dotted :
    let lines := ["///filename g", "///<<< 0", "///filename ./h//i", "///>>>"]
    let e := Path.ofText "c/../d/e.t"
    let f := Path.ofText "/w/b/f.t"
    Grounded dotted.working ∧ Below dotted e ["d", "e.t"] ∧ Below dotted f ["f.t"] ∧
      usualOutput dotted (sourceOf dotted e) = ⟨0, ["out", "d", "e.t"]⟩ ∧
      place dotted.working (usualOutput dotted (sourceOf dotted e)) ≠
        place dotted.working (usualOutput dotted (sourceOf dotted f)) ∧
      (Template.parse lines).output (usualOutput dotted (sourceOf dotted e)) =
        ⟨0, ["out", "d", "h", "i"]⟩ := by
  have hw : Grounded dotted.working := ⟨by decide, by decide⟩
  have he : Below dotted (Path.ofText "c/../d/e.t") ["d", "e.t"] :=
    ⟨by decide +kernel, by decide⟩
  have hf : Below dotted (Path.ofText "/w/b/f.t") ["f.t"] := ⟨by decide +kernel, by decide⟩
  obtain ⟨husual, hdistinct, hgiven⟩ := output_mirrors hw
    ["///filename g", "///<<< 0", "///filename ./h//i", "///>>>"]
  have hlast : (["///filename g", "///<<< 0", "///filename ./h//i", "///>>>"].filterMap
      pathOf).getLast? = some ⟨0, ["h", "i"]⟩ := by decide +kernel
  have hleads := hgiven (Path.ofText "c/../d/e.t")
  rw [hlast] at hleads
  refine ⟨hw, he, hf, (husual _ _ he).1.trans (by decide +kernel),
    hdistinct _ _ _ _ he hf (by decide), ?_⟩
  exact (hleads.down rfl (by decide) (by decide)).1.trans (by decide +kernel)

end Generator

end Stencil
