import Mathlib.Data.List.Nodup
import Mathlib.Data.List.Perm.Subperm
import Mathlib.Tactic.Choose
import Stencil.Proofs.Cells
import Stencil.Proofs.Units
/-!
# Stencil.Proofs.Independence -- templates do not depend on each other

The templates of a run share the files, the machine with the values of the parameters, and nothing
else. Where no output stands in the place of a source or of another output, and no template changes a
value that it found, the results do not depend on which other templates there are, nor on their
order. The second condition is needed: the parameters are handed to every template as they are, so a
template that changes a list among them changes it for those that come after it.

The proof compares every run with one that went well. Its last tree bounds what can be found on the
way in any other run of some of its templates: there is a directory or nothing where a directory is
needed, and a file or nothing where a file is written.
-/

namespace Stencil

open Stencil.Expr FileTree Filing

/-- The same setup for other templates. -/
def Setup.choosing (c : Setup) (files : List Path) : Setup :=
  { c with settings := { c.settings with files } }

namespace Generator

/-! ## Conditions -/

/-- A run starts in a file tree in which every entry stands in a directory, and from a working
directory that is there. -/
structure Standing (c : Setup) (s : Site) : Prop where
  grounded : Grounded c.working
  wellFormed : s.files.WellFormed
  working : s.files.find? c.working.names = some .directory

/-- No output stands in the place of another output or of a source. -/
structure Separate (c : Setup) (results : List UnitResult) : Prop where
  outputs : (results.map fun r => place c.working r.output).Nodup
  sources : ∀ r ∈ results, ∀ r' ∈ results,
    place c.working r.output ≠ place c.working r'.source

/-- Generated alone, a template leaves the values it finds as they are. -/
def KeepsCells (c : Setup) (s : Site) (file : Path) : Prop :=
  ∀ results t, generate (c.choosing [file]) s = .ok results t →
    ∀ i < s.machine.cells.size, t.machine.cells[i]? = s.machine.cells[i]?

/-- No template changes a value that it finds. -/
def Harmless (c : Setup) (s : Site) : Prop := ∀ file ∈ c.settings.files, KeepsCells c s file

/-! ## Sequences of templates -/

variable {c : Setup} {s t : Site} {file : Path} {files : List Path} {results : List UnitResult}

theorem generate_choosing (c : Setup) (files : List Path) :
    generate (c.choosing files) = files.mapM (generateUnit c) := rfl

/-- What a sequence of templates does to the files. -/
theorem files_of_mapM (hwell : s.files.WellFormed)
    (h : files.mapM (generateUnit c) s = .ok results t) :
    t.files.WellFormed ∧ Within s.files t.files ∧
      Grown (results.map fun r => place c.working r.output) s.files t.files := by
  induction files generalizing s results with
  | nil =>
    cases h
    exact ⟨hwell, .refl _, .refl _ _⟩
  | cons file files ih =>
    obtain ⟨r, u, rest, hunit, hrest, rfl⟩ := mapM_cons_eq_ok h
    obtain ⟨T, hgen⟩ := generated_of_ok hwell hunit
    obtain ⟨ht, hwithin, hgrown⟩ := ih hgen.wellFormed hrest
    refine ⟨ht, hgen.within.trans hwithin, ?_⟩
    rw [List.map_cons]
    exact (hgen.grown.mono (by simp)).trans (hgrown.mono (List.subset_cons_self _ _))

/-! ## Sites on the way -/

/-- A site on the way from `s`, in a run that leaves no more than what `t` has: outputs have been
written at the places `before`, and the cells are as they were. -/
structure Between (c : Setup) (before : List (List String)) (s t u : Site) : Prop where
  wellFormed : u.files.WellFormed
  working : u.files.find? c.working.names = some .directory
  grown : Grown before s.files u.files
  within : Within u.files t.files
  machine : u.machine.fresh = s.machine.fresh

theorem cells_of_fresh {m m' : Machine} (h : m.fresh = m'.fresh) : m.cells = m'.cells := by
  have hcells : m.fresh.cells = m'.fresh.cells := by rw [h]
  exact hcells

theorem Between.cells {before : List (List String)} {u : Site} (h : Between c before s t u) :
    u.machine.cells = s.machine.cells := cells_of_fresh h.machine

/-- A template fits into the tree a run has left, with its output in it, and rendering it leaves the
cells as they are. -/
structure Settles (c : Setup) (file : Path) (T : Template) (s t : Site) : Prop where
  fits : Fits c file T s.machine.fresh s.files t.files
  cells : (settled s.machine (rendering c T.root s.machine.fresh).session.machine).cells =
    s.machine.cells
  written : t.files.find? (place c.working (resultOf c file T s.machine.fresh).output) =
    some (.file (rendering c T.root s.machine.fresh).bytes)

theorem settled_fresh {m m' : Machine} (h : m.fresh = m'.fresh) (after : Machine) :
    (settled m after).fresh = (settled m' after).fresh := by
  rw [settled, settled, h, cells_of_fresh h]
  rfl

theorem settled_fresh_of_cells {m after : Machine} (h : (settled m after).cells = m.cells) :
    (settled m after).fresh = m.fresh := by
  show { m.fresh with cells := (settled m after).cells } = m.fresh
  rw [h]
  rfl

/-- A template that leaves the cells alone leads on. -/
theorem Generated.between {before : List (List String)} {T : Template} {r : UnitResult} {u v : Site}
    (h : Generated c file T u r v) (hu : Between c before s t u) (hvt : Within v.files t.files)
    (hcells : (settled s.machine (rendering c T.root s.machine.fresh).session.machine).cells =
      s.machine.cells) :
    Between c (place c.working r.output :: before) s t v where
  wellFormed := h.wellFormed
  working := h.within.directory _ hu.working
  grown := (hu.grown.mono (List.subset_cons_self _ _)).trans (h.grown.mono (by simp))
  within := hvt
  machine := by rw [h.machine, hu.machine, settled_fresh hu.machine, settled_fresh_of_cells hcells]

/-- The template of a source is told by its bytes. -/
theorem Generated.template_eq {T T' : Template} {r : UnitResult} (h : Generated c file T s r t)
    {bytes : List UInt8}
    (hfound : s.files.find? (place c.working (sourceOf c file)) = some (.file bytes))
    (hT : templateOf c bytes = .ok T') : T = T' := by
  obtain ⟨bytes', hfound', hT'⟩ := h.source
  cases hfound'.symm.trans hfound
  exact Except.ok.inj (hT'.symm.trans hT)

section Stepping

variable {before : List (List String)} {T : Template} {u v : Site} {r : UnitResult}

/-- A template that has been generated somewhere on the way would fit in the beginning. -/
theorem Generated.fits (h : Generated c file T u r v) (hu : Between c before s t u)
    (hsource : place c.working (sourceOf c file) ∉ before) (hst : Within s.files t.files)
    (hvt : Within v.files t.files) : Fits c file T s.machine.fresh s.files t.files := by
  obtain ⟨bytes, hfound, hT⟩ := h.source
  have hresult : r = resultOf c file T s.machine.fresh := by
    rw [h.result, hu.machine]
  refine ⟨⟨bytes, (hu.grown.file_iff hsource).mp hfound, hT⟩, h.sourceClean, ?_, ?_, ?_, hst, ?_, ?_⟩
  · rw [← hu.machine]
    exact h.failure
  · exact hresult ▸ h.parentClean
  · exact hresult ▸ h.outputClean
  · exact hresult ▸ hvt.directory _ h.parent
  · exact hresult ▸ hvt.file _ _ h.output

/-- Wherever it fits, a template that leaves the cells alone gives the same on the way as in the
beginning. -/
theorem Settles.step (h : Settles c file T s t) (hgrounded : Grounded c.working)
    (ht : t.files.WellFormed) (hu : Between c before s t u)
    (hsource : place c.working (sourceOf c file) ∉ before) :
    ∃ v, generateUnit c file u = .ok (resultOf c file T s.machine.fresh) v ∧
      Between c (place c.working (resultOf c file T s.machine.fresh).output :: before) s t v ∧
      v.files.find? (place c.working (resultOf c file T s.machine.fresh).output) =
        some (.file (rendering c T.root s.machine.fresh).bytes) := by
  obtain ⟨bytes, hfound, hT⟩ := h.fits.source
  have hfound' := (hu.grown.file_iff hsource).mpr hfound
  -- What has been written on the way lies within the last tree, so the template still fits.
  have hfits : Fits c file T u.machine.fresh u.files t.files := by
    rw [hu.machine]
    exact { h.fits with source := ⟨bytes, hfound', hT⟩, within := hu.within }
  obtain ⟨v, hrun, hwithin⟩ := generateUnit_of_fits hgrounded hu.wellFormed hu.working ht hfits
  obtain ⟨T', hgen⟩ := generated_of_ok hu.wellFormed hrun
  obtain rfl := hgen.template_eq hfound' hT
  have hnext := hgen.between hu hwithin h.cells
  have houtput := hgen.output
  rw [hu.machine] at hrun hnext houtput
  exact ⟨v, hrun, hnext, houtput⟩

/-- Rendering a template that fits leaves the cells alone, when generating it alone does. -/
theorem cells_of_fits (hstanding : Standing c s) (ht : t.files.WellFormed)
    (hfits : Fits c file T s.machine.fresh s.files t.files)
    (hkeeps : KeepsCells c s file) :
    (settled s.machine (rendering c T.root s.machine.fresh).session.machine).cells =
      s.machine.cells := by
  obtain ⟨w, hrun, _⟩ :=
    generateUnit_of_fits hstanding.grounded hstanding.wellFormed hstanding.working ht hfits
  obtain ⟨T', hgen⟩ := generated_of_ok hstanding.wellFormed hrun
  obtain ⟨bytes, hfound, hT⟩ := hfits.source
  obtain rfl := hgen.template_eq hfound hT
  refine settled_of_kept ?_
  rw [← hgen.machine]
  exact hkeeps _ w (mapM_cons_of_ok hrun rfl)

end Stepping

/-! ## Runs -/

theorem Separate.tail {r : UnitResult} (h : Separate c (r :: results)) : Separate c results where
  outputs := (List.nodup_cons.mp h.outputs).2
  sources q hq q' hq' := h.sources q (List.mem_cons_of_mem r hq) q' (List.mem_cons_of_mem r hq')

/-- The sources of the templates that come later are not written. -/
theorem Separate.unwritten {r : UnitResult} {before : List (List String)}
    (h : Separate c (r :: results))
    (hbefore : ∀ q ∈ r :: results, place c.working q.source ∉ before) :
    ∀ q ∈ results, place c.working q.source ∉ place c.working r.output :: before := by
  intro q hq hmem
  rcases List.mem_cons.mp hmem with heq | hmem
  · exact h.sources r List.mem_cons_self q (List.mem_cons_of_mem r hq) heq.symm
  · exact hbefore q (List.mem_cons_of_mem r hq) hmem

/-- All templates of a run that goes well settle, and the run leaves the cells as they are. -/
theorem settles_of_mapM (hstanding : Standing c s) (ht : t.files.WellFormed)
    (hst : Within s.files t.files) {before : List (List String)} {u : Site}
    (hkeeps : ∀ f ∈ files, KeepsCells c s f)
    (hu : Between c before s t u) (hseparate : Separate c results)
    (hbefore : ∀ r ∈ results, place c.working r.source ∉ before)
    (h : files.mapM (generateUnit c) u = .ok results t) :
    List.Forall₂ (fun f r => ∃ T, r = resultOf c f T s.machine.fresh ∧ Settles c f T s t)
      files results ∧ t.machine.cells = s.machine.cells := by
  induction files generalizing u results before with
  | nil =>
    cases h
    exact ⟨.nil, hu.cells⟩
  | cons file files ih =>
    obtain ⟨r, v, rest, hunit, hrest, rfl⟩ := mapM_cons_eq_ok h
    obtain ⟨T, hgen⟩ := generated_of_ok hu.wellFormed hunit
    obtain ⟨_, hvt, hgrown⟩ := files_of_mapM hgen.wellFormed hrest
    have hresult : r = resultOf c file T s.machine.fresh := by
      rw [hgen.result, hu.machine]
    have hsource : place c.working (sourceOf c file) ∉ before := by
      have := hbefore r List.mem_cons_self
      rwa [hresult] at this
    have hfits := hgen.fits hu hsource hst hvt
    have hcells := cells_of_fits hstanding ht hfits (hkeeps file List.mem_cons_self)
    obtain ⟨hall, hend⟩ := ih (fun f hf => hkeeps f (List.mem_cons_of_mem file hf))
      (hgen.between hu hvt hcells) hseparate.tail (hseparate.unwritten hbefore) hrest
    refine ⟨.cons ⟨T, hresult, hfits, hcells, ?_⟩ hall, hend⟩
    -- The templates that come after do not write over the output.
    have hfresh := (List.nodup_cons.mp hseparate.outputs).1
    have houtput := hgen.output
    rw [hu.machine] at houtput
    rw [← hresult]
    exact (hgrown.file_iff hfresh).mpr houtput

/-- Templates that settle can be generated in any order and choice, with the same results and the
same outputs. -/
theorem mapM_of_settles (hgrounded : Grounded c.working) (ht : t.files.WellFormed)
    {templates : Path → Template} {before : List (List String)} {u : Site}
    (hsettles : ∀ f ∈ files, Settles c f (templates f) s t) (hu : Between c before s t u)
    (hseparate : Separate c (files.map fun f => resultOf c f (templates f) s.machine.fresh))
    (hbefore : ∀ r ∈ files.map fun f => resultOf c f (templates f) s.machine.fresh,
      place c.working r.source ∉ before) :
    ∃ v, files.mapM (generateUnit c) u =
        .ok (files.map fun f => resultOf c f (templates f) s.machine.fresh) v ∧
      v.machine.cells = s.machine.cells ∧
      ∀ f ∈ files, v.files.find? (place c.working (resultOf c f (templates f) s.machine.fresh).output) =
        t.files.find? (place c.working (resultOf c f (templates f) s.machine.fresh).output) := by
  induction files generalizing u before with
  | nil => exact ⟨u, rfl, hu.cells, nofun⟩
  | cons file files ih =>
    rw [List.map_cons] at hseparate hbefore
    have hsource := hbefore (resultOf c file (templates file) s.machine.fresh) List.mem_cons_self
    obtain ⟨v, hunit, hnext, houtput⟩ :=
      (hsettles file List.mem_cons_self).step hgrounded ht hu hsource
    obtain ⟨w, hrest, hcells, hall⟩ := ih (fun f hf => hsettles f (List.mem_cons_of_mem file hf))
      hnext hseparate.tail (hseparate.unwritten hbefore)
    obtain ⟨_, _, hgrown⟩ := files_of_mapM hnext.wellFormed hrest
    refine ⟨w, mapM_cons_of_ok hunit hrest, hcells, fun f hf => ?_⟩
    rcases List.mem_cons.mp hf with rfl | hf
    · have hfresh := (List.nodup_cons.mp hseparate.outputs).1
      rw [(hsettles f List.mem_cons_self).written]
      exact (hgrown.file_iff hfresh).mpr houtput
    · exact hall f hf

/-- The templates of a run that goes well, by their files. -/
theorem exists_templates
    (h : List.Forall₂ (fun f r => ∃ T, r = resultOf c f T s.machine.fresh ∧ Settles c f T s t)
      files results) :
    ∃ templates : Path → Template, (∀ f ∈ files, Settles c f (templates f) s t) ∧
      results = files.map fun f => resultOf c f (templates f) s.machine.fresh := by
  have hchoice : ∀ f, ∃ T, (∃ T', Settles c f T' s t) → Settles c f T s t := by
    intro f
    by_cases hf : ∃ T', Settles c f T' s t
    · obtain ⟨T, hT⟩ := hf
      exact ⟨T, fun _ => hT⟩
    · exact ⟨Template.parse [], fun hf' => absurd hf' hf⟩
  choose templates htemplates using hchoice
  refine ⟨templates, ?_, ?_⟩
  · intro f hf
    induction h with
    | nil => cases hf
    | cons hr _ ih =>
      rcases List.mem_cons.mp hf with rfl | hf
      · obtain ⟨T, _, hT⟩ := hr
        exact htemplates f ⟨T, hT⟩
      · exact ih hf
  · induction h with
    | nil => rfl
    | @cons f r files results hr _ ih =>
      obtain ⟨T, rfl, hT⟩ := hr
      -- Both templates are read from the same source.
      obtain ⟨bytes, hfound, hread⟩ := hT.fits.source
      obtain ⟨bytes', hfound', hread'⟩ := (htemplates f ⟨T, hT⟩).fits.source
      cases hfound.symm.trans hfound'
      rw [List.map_cons, ← ih, Except.ok.inj (hread.symm.trans hread')]

theorem Separate.choosing {unit : Path → UnitResult} {all : List Path} (hsub : files.Subperm all)
    (h : Separate c (all.map unit)) : Separate c (files.map unit) where
  outputs := by
    obtain ⟨chosen, hperm, hchosen⟩ := hsub
    have houtputs := h.outputs
    rw [List.map_map] at houtputs ⊢
    exact (hperm.map _).nodup_iff.mp ((hchosen.map _).nodup houtputs)
  sources q hq q' hq' := by
    obtain ⟨f, hf, rfl⟩ := List.mem_map.mp hq
    obtain ⟨f', hf', rfl⟩ := List.mem_map.mp hq'
    exact h.sources _ (List.mem_map_of_mem (hsub.subset hf)) _
      (List.mem_map_of_mem (hsub.subset hf'))

/-- A run does not depend on which templates it has: each one has a result of its own, and wherever
the run is for some of them, in any order, these are its results and the contents of their outputs
are those of `t`. The values of the parameters are the same afterwards. -/
structure Independent (c : Setup) (s : Site) (results : List UnitResult) (t : Site)
    (unit : Path → UnitResult) : Prop where
  results : results = c.settings.files.map unit
  cells : t.machine.cells = s.machine.cells
  choice : ∀ files : List Path, files.Subperm c.settings.files →
    ∃ u, generate (c.choosing files) s = .ok (files.map unit) u ∧
      u.machine.cells = s.machine.cells ∧
      ∀ f ∈ files, u.files.find? (place c.working (unit f).output) =
        t.files.find? (place c.working (unit f).output)

theorem Harmless.independent (hharmless : Harmless c s) (hstanding : Standing c s)
    (hrun : generate c s = .ok results t) (hseparate : Separate c results) :
    ∃ unit, Independent c s results t unit := by
  have hmapM : c.settings.files.mapM (generateUnit c) s = .ok results t := hrun
  obtain ⟨ht, hst, _⟩ := files_of_mapM hstanding.wellFormed hmapM
  have hstart : Between c [] s t s :=
    ⟨hstanding.wellFormed, hstanding.working, .refl _ _, hst, rfl⟩
  obtain ⟨hall, hcells⟩ := settles_of_mapM hstanding ht hst hharmless hstart hseparate
    (fun _ _ => List.not_mem_nil) hmapM
  obtain ⟨templates, hsettles, rfl⟩ := exists_templates hall
  refine ⟨fun f => resultOf c f (templates f) s.machine.fresh, rfl, hcells, fun files hsub => ?_⟩
  exact mapM_of_settles hstanding.grounded ht (fun f hf => hsettles f (hsub.subset hf)) hstart
    (hseparate.choosing hsub) (fun _ _ => List.not_mem_nil)

/-- **Templates do not depend on each other exactly when none changes a value that it found.** Take a
run that goes well and in which no output stands in the place of a source or of another output. If
each of its templates, generated alone, leaves the values it finds, then every run of some of them,
each alone and all in any order among these, goes well from the same site, with the same result and
the same contents of the output for each, and with the same values of the parameters afterwards. If
this is so, each of them leaves the values it finds. -/
theorem generate_independent_iff (hstanding : Standing c s) (hrun : generate c s = .ok results t)
    (hseparate : Separate c results) :
    Harmless c s ↔ ∃ unit, Independent c s results t unit := by
  refine ⟨fun hharmless => hharmless.independent hstanding hrun hseparate, ?_⟩
  rintro ⟨unit, h⟩ file hfile results' t' halone i _
  obtain ⟨u, hchosen, hcells, _⟩ := h.choice [file] (List.singleton_subperm_iff.mpr hfile)
  cases halone.symm.trans hchosen
  rw [hcells]

/-! ## Two templates -/

/-- Whether the values a template finds are the same when it has been generated. -/
def leavesCells (c : Setup) (s : Site) (file : Path) : Bool :=
  match generateUnit c file s with
  | .ok _ t => sameCells s.machine.cells t.machine.cells
  | .error .. => true

theorem harmless_of_leavesCells (hwell : s.files.WellFormed)
    (h : ∀ file ∈ c.settings.files, leavesCells c s file = true) : Harmless c s := by
  intro file hfile results t hrun i _
  rw [generate_choosing] at hrun
  obtain ⟨r, u, rest, hunit, hrest, _⟩ := mapM_cons_eq_ok hrun
  cases hrest
  have hsame := h file hfile
  rw [leavesCells, hunit] at hsame
  change sameCells s.machine.cells t.machine.cells = true at hsame
  obtain ⟨T, hgen⟩ := generated_of_ok hwell hunit
  rw [hgen.machine] at hsame ⊢
  rw [settled_of_same hsame]

/-- A setup with two templates and a list among the parameters. -/
def pair : Setup where
  settings := {
    files := [⟨0, ["a"]⟩, ⟨0, ["b"]⟩]
    base := ⟨0, []⟩
    output := ⟨0, ["out"]⟩
    encodingName := "latin-1"
    encoding := .latin1
    parameters := [("xs", .list 0)] }
  working := ⟨1, ["w"]⟩

/-- Where two templates, of the line `x` and of the line `y`, are generated. -/
def pairSite : Site where
  files := ⟨[(["w"], .directory), (["w", "a"], .file [120, 10]), (["w", "b"], .file [121, 10])]⟩
  machine := { cells := #[.list #[]] }

/-- The results of two templates. -/
def pairResults : List UnitResult :=
  [⟨⟨0, ["a"]⟩, ⟨0, ["out", "a"]⟩, []⟩, ⟨⟨0, ["b"]⟩, ⟨0, ["out", "b"]⟩, []⟩]

theorem pair_standing : Standing pair pairSite where
  grounded := ⟨by decide, by decide⟩
  wellFormed := wellFormed_of_entries (by decide +kernel)
  working := by decide

theorem pair_runs : ∃ t, generate pair pairSite = .ok pairResults t :=
  exists_of_run' (by decide +kernel)

theorem pair_separate : Separate pair pairResults where
  outputs := by decide
  sources := by decide

theorem pair_harmless : Harmless pair pairSite :=
  harmless_of_leavesCells pair_standing.wellFormed (by decide +kernel)

theorem generate_independent_pair :
    Standing pair pairSite ∧ Separate pair pairResults ∧ Harmless pair pairSite ∧
      ∃ t unit, generate pair pairSite = .ok pairResults t ∧
        Independent pair pairSite pairResults t unit := by
  obtain ⟨t, hrun⟩ := pair_runs
  obtain ⟨unit, h⟩ :=
    (generate_independent_iff pair_standing hrun pair_separate).mp pair_harmless
  exact ⟨pair_standing, pair_separate, pair_harmless, t, unit, hrun, h⟩

end Generator

end Stencil
