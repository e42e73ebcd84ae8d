import Stencil.Generator
import Stencil.Proofs.Files
/-!
# Stencil.Proofs.Units -- what the generation of one template does

Of the files the generation of one template looks at its source, and at the kinds of what stands on
the way to its output; of the machine it looks at what an evaluation finds that has not begun.
Everything else that it tells and writes is a function of these. `Generated` says all that follows
when it ends well, and `generateUnit_of_fits` says that it ends well in any tree that lies within one
in which its output already stands.
-/

namespace Stencil

open Stencil.Expr FileTree Filing

namespace Generator

/-! ## Parts of the generation -/

section Parts

variable {α : Type} {a : Filing α} {v : α} {f : Failure} {s : Site} {t : FileTree}

theorem filing_of_ok (h : a s.files = .ok v t) : filing a s = .ok v { s with files := t } := by
  rw [filing, h]

theorem filing_of_error (h : a s.files = .error f t) :
    filing a s = .error f { s with files := t } := by
  rw [filing, h]

theorem filing_eq_ok {u : Site} (h : filing a s = .ok v u) :
    ∃ t, a s.files = .ok v t ∧ u = { s with files := t } := by
  cases hrun : a s.files with
  | ok w t =>
    cases (filing_of_ok hrun).symm.trans h
    exact ⟨t, rfl, rfl⟩
  | error e t => cases (filing_of_error hrun).symm.trans h

end Parts

/-- The template that a source of some bytes holds. -/
def templateOf (c : Setup) (bytes : List UInt8) : Except Failure Template :=
  match c.settings.encoding.read bytes with
  | .ok s => .ok (Template.parse ((Text.fileLines s).map String.ofList))
  | .error f => .error f

theorem readTemplate_of_found {c : Setup} {source : Path} {s : Site} {bytes : List UInt8}
    {T : Template} (hwell : s.files.WellFormed) (hclean : holdsNull source = false)
    (hfound : s.files.find? (place c.working source) = some (.file bytes))
    (hT : templateOf c bytes = .ok T) :
    readTemplate c source s =
      .ok T { s with history := (T.reports.map .reported).reverse ++ s.history } := by
  have hread := filing_of_ok (s := s) (read_of_found hwell hclean hfound)
  rw [templateOf] at hT
  cases hdecode : c.settings.encoding.read bytes with
  | error f =>
    rw [hdecode] at hT
    cases hT
  | ok text =>
    rw [hdecode] at hT
    cases hT
    have hlines : readLines c source s = .ok ((Text.fileLines text).map String.ofList) s := by
      rw [readLines, bind_of_ok hread, hdecode]
      rfl
    rw [readTemplate, bind_of_ok hlines]
    rfl

theorem readTemplate_eq_ok {c : Setup} {source : Path} {s t : Site} {T : Template}
    (h : readTemplate c source s = .ok T t) :
    ∃ bytes, holdsNull source = false ∧
      s.files.find? (place c.working source) = some (.file bytes) ∧ templateOf c bytes = .ok T ∧
      t.files = s.files ∧ t.machine = s.machine := by
  obtain ⟨lines, u, hlines, hrest⟩ := bind_eq_ok_iff.mp h
  obtain ⟨bytes, w, hread, hdecode⟩ := bind_eq_ok_iff.mp hlines
  obtain ⟨files, hfile, rfl⟩ := filing_eq_ok hread
  obtain ⟨rfl, hclean, hfound⟩ := read_eq_ok hfile
  refine ⟨bytes, hclean, hfound, ?_⟩
  rw [templateOf]
  cases htext : c.settings.encoding.read bytes with
  | error f =>
    rw [htext] at hdecode
    cases hdecode
  | ok text =>
    rw [htext] at hdecode
    cases hdecode
    cases hrest
    exact ⟨rfl, rfl, rfl⟩

/-! ## Writing the output -/

section Writing

variable {c : Setup} {root : Node} {output : Path} {s t : Site}

/-- The site in which a template has been rendered, and its lines are yet to be written. -/
def rendered (c : Setup) (root : Node) (F : FileTree) (s : Site) : Site :=
  let r := rendering c root s.machine.fresh
  { files := F
    machine := settled s.machine r.session.machine
    history := (r.session.reports.reverse.map .reported).reverse ++ s.history }

/-- Rendering into a file that has been opened. -/
theorem renderInto_of_opened {F : FileTree} (h : write c.working output [] s.files = .ok () F) :
    renderInto c root output s =
      (filing (write c.working output (rendering c root s.machine.fresh).bytes) >>= fun _ =>
        match (rendering c root s.machine.fresh).failure with
        | some f => throw f
        | none => return (rendering c root s.machine.fresh).session.scope.errors)
        (rendered c root F s) := by
  rw [renderInto, bind_of_ok (filing_of_ok h)]
  rfl

theorem renderInto_of_writes {F F' : FileTree}
    (hopen : write c.working output [] s.files = .ok () F)
    (hwrite : write c.working output (rendering c root s.machine.fresh).bytes F = .ok () F')
    (hfailure : (rendering c root s.machine.fresh).failure = none) :
    renderInto c root output s =
      .ok (rendering c root s.machine.fresh).session.scope.errors
        { rendered c root F s with files := F' } := by
  have hsecond := filing_of_ok (s := rendered c root F s) hwrite
  rw [renderInto_of_opened hopen, bind_of_ok hsecond, hfailure]
  rfl

theorem renderInto_eq_ok {errors : List String} (h : renderInto c root output s = .ok errors t) :
    ∃ F, write c.working output [] s.files = .ok () F ∧
      write c.working output (rendering c root s.machine.fresh).bytes F = .ok () t.files ∧
      (rendering c root s.machine.fresh).failure = none ∧
      errors = (rendering c root s.machine.fresh).session.scope.errors ∧
      t.machine = settled s.machine (rendering c root s.machine.fresh).session.machine := by
  obtain ⟨_, u, hfirst, _⟩ := bind_eq_ok_iff.mp h
  obtain ⟨F, hopen, rfl⟩ := filing_eq_ok hfirst
  rw [renderInto_of_opened hopen] at h
  obtain ⟨_, u, hsecond, hrest⟩ := bind_eq_ok_iff.mp h
  obtain ⟨F', hwrite, rfl⟩ := filing_eq_ok hsecond
  cases hfailure : (rendering c root s.machine.fresh).failure with
  | some f =>
    rw [hfailure] at hrest
    cases hrest
  | none =>
    rw [hfailure] at hrest
    cases hrest
    exact ⟨F, hopen, hwrite, rfl, rfl, rfl⟩

end Writing

/-! ## One template -/

/-- What comes of a template: its result, as a function of the template and the machine. -/
def resultOf (c : Setup) (file : Path) (T : Template) (m : Machine) : UnitResult :=
  ⟨sourceOf c file, T.output (usualOutput c (sourceOf c file)),
    (rendering c T.root m).session.scope.errors⟩

/-- What is known when the generation of one template, read as `T` from the source, has ended well. -/
structure Generated (c : Setup) (file : Path) (T : Template) (s : Site) (r : UnitResult) (t : Site) :
    Prop where
  source : ∃ bytes, s.files.find? (place c.working (sourceOf c file)) = some (.file bytes) ∧
    templateOf c bytes = .ok T
  sourceClean : holdsNull (sourceOf c file) = false
  result : r = resultOf c file T s.machine.fresh
  failure : (rendering c T.root s.machine.fresh).failure = none
  machine : t.machine = settled s.machine (rendering c T.root s.machine.fresh).session.machine
  parentClean : holdsNull r.output.parent = false
  outputClean : holdsNull r.output = false
  wellFormed : t.files.WellFormed
  within : Within s.files t.files
  grown : Grown [place c.working r.output] s.files t.files
  parent : t.files.find? (place c.working r.output.parent) = some .directory
  output : t.files.find? (place c.working r.output) =
    some (.file (rendering c T.root s.machine.fresh).bytes)

section Generating

variable {c : Setup} {file : Path} {s t : Site}

@[simp] theorem announce_apply (c : Setup) (e : Event) (s : Site) :
    announce c e s =
      .ok () { s with history := (c.listeners.map (.heard · e)).reverse ++ s.history } := rfl

theorem generated_of_ok {r : UnitResult} (hwell : s.files.WellFormed)
    (h : generateUnit c file s = .ok r t) : ∃ T, Generated c file T s r t := by
  rw [generateUnit, bind_of_ok (announce_apply c _ s)] at h
  obtain ⟨T, u, hread, h⟩ := bind_eq_ok_iff.mp h
  obtain ⟨bytes, hclean, hfound, hT, hfiles, hmachine⟩ := readTemplate_eq_ok hread
  obtain ⟨_, v, hmake, h⟩ := bind_eq_ok_iff.mp h
  obtain ⟨F, hmade, rfl⟩ := filing_eq_ok hmake
  obtain ⟨errors, w, hrender, h⟩ := bind_eq_ok_iff.mp h
  obtain ⟨F', hopen, hwrite, hfailure, rfl, hsettled⟩ := renderInto_eq_ok hrender
  cases h
  rw [hfiles] at hmade
  have hdirectory := directory_of_makeDirectories _ hwell hmade
  have hopened := written_of_write hdirectory.wellFormed hopen
  have hwritten := written_of_write hopened.wellFormed hwrite
  have hrendering : rendering c T.root u.machine.fresh = rendering c T.root s.machine.fresh := by
    rw [hmachine]
  refine ⟨T, ⟨bytes, hfound, hT⟩, hclean, ?_, ?_, ?_, clean_of_makeDirectory hmade,
    (write_eq_ok hopen).1, hwritten.wellFormed, ?_, ?_, ?_, ?_⟩
  · rw [resultOf, ← hrendering]
  · rw [← hrendering]
    exact hfailure
  · rw [← hmachine]
    exact hsettled
  · exact hdirectory.grown.within.trans (hopened.within.trans hwritten.within)
  · exact (hdirectory.grown.mono (List.nil_subset _)).trans (hopened.grown.trans hwritten.grown)
  · exact hwritten.within.directory _ (hopened.within.directory _ hdirectory.found)
  · rw [← hmachine]
    exact hwritten.found

/-- A template can be generated in the files `F`, on some machine: its source holds `T`, and in a tree
`G`, of which `F` is a part, its output stands already. -/
structure Fits (c : Setup) (file : Path) (T : Template) (m : Machine) (F G : FileTree) :
    Prop where
  source : ∃ bytes, F.find? (place c.working (sourceOf c file)) = some (.file bytes) ∧
    templateOf c bytes = .ok T
  sourceClean : holdsNull (sourceOf c file) = false
  failure : (rendering c T.root m).failure = none
  parentClean : holdsNull (resultOf c file T m).output.parent = false
  outputClean : holdsNull (resultOf c file T m).output = false
  within : Within F G
  parent : G.find? (place c.working (resultOf c file T m).output.parent) = some .directory
  output : ∃ b, G.find? (place c.working (resultOf c file T m).output) = some (.file b)

theorem output_isNormal (T : Template) (source : Path) :
    (T.output (usualOutput c source)).Normal := by
  rw [Template.output]
  split
  · exact Path.normal_isNormal _
  · exact Path.normal_isNormal _

section Fitting

variable {T : Template} {F G : FileTree} {m : Machine}

/-- Nothing bars the directory of the output. -/
theorem Fits.passable (h : Fits c file T m F G) (hG : G.WellFormed) :
    Passable (place c.working (resultOf c file T m).output.parent) F where
  free q b hq hfile := by
    obtain ⟨b', hb'⟩ := h.within.file q b hfile
    cases (hG.directory_on_way hq h.parent).symm.trans hb'
  short n hn := hG.short_of_mem h.parent hn

/-- The output stands in its directory: it is not on the way to the working directory. -/
theorem Fits.place_output (h : Fits c file T m F G) (hw : Grounded c.working)
    (hF : F.WellFormed) (hworking : F.find? c.working.names = some .directory) :
    ∃ n, place c.working (resultOf c file T m).output =
      place c.working (resultOf c file T m).output.parent ++ [n] := by
  have hnormal : (resultOf c file T m).output.Normal := output_isNormal T _
  rcases place_cases hw hnormal with ⟨n, _, hplace⟩ | hway
  · exact ⟨n, hplace⟩
  · obtain ⟨b, hfile⟩ := h.output
    have hdir := h.within.directory _ (hF.directory_on_way hway hworking)
    cases hdir.symm.trans hfile

/-- The directory of the output can be made, and the output opened and written. -/
theorem Fits.files (h : Fits c file T m F G) (hw : Grounded c.working) (hF : F.WellFormed)
    (hworking : F.find? c.working.names = some .directory) (hG : G.WellFormed) (b : List UInt8) :
    ∃ F₁ F₂ F₃,
      makeDirectory c.working (resultOf c file T m).output.parent F = .ok () F₁ ∧
      write c.working (resultOf c file T m).output [] F₁ = .ok () F₂ ∧
      write c.working (resultOf c file T m).output b F₂ = .ok () F₃ ∧ Within F₃ G := by
  have hnormal : (resultOf c file T m).output.Normal := output_isNormal T _
  have hpass := h.passable hG
  obtain ⟨b', hfile⟩ := h.output
  obtain ⟨n, hplace⟩ := h.place_output hw hF hworking
  obtain ⟨F₁, hmake, hmade⟩ := makeDirectories_of_passable hw _ hnormal.parent (Nat.lt_succ_self _)
    h.parentClean hF hworking hpass
  have hF₁ := hmade.wellFormed hF hpass.short
  have hdir := hmade.on _ (List.prefix_refl _)
  obtain ⟨F₂, hopen, hF₂G⟩ := write_of_within hF₁ hG (hmade.within h.within hG h.parent)
    h.outputClean hplace hdir hfile []
  have hopened := written_of_write hF₁ hopen
  obtain ⟨F₃, hwrite, hF₃G⟩ := write_of_within hopened.wellFormed hG hF₂G h.outputClean hplace
    (hopened.within.directory _ hdir) hfile b
  exact ⟨F₁, F₂, F₃, hmake, hopen, hwrite, hF₃G⟩

end Fitting

/-- **What has been generated in a larger tree can be generated in a smaller one.** -/
theorem generateUnit_of_fits {T : Template} {G : FileTree} (hw : Grounded c.working)
    (hwell : s.files.WellFormed) (hworking : s.files.find? c.working.names = some .directory)
    (hG : G.WellFormed) (h : Fits c file T s.machine.fresh s.files G) :
    ∃ t, generateUnit c file s = .ok (resultOf c file T s.machine.fresh) t ∧ Within t.files G := by
  obtain ⟨bytes, hfound, hT⟩ := h.source
  obtain ⟨F₁, F₂, F₃, hmake, hopen, hwrite, hwithin⟩ :=
    h.files hw hwell hworking hG (rendering c T.root s.machine.fresh).bytes
  -- What the listeners have heard so far matters to none of the steps.
  have hannounce := announce_apply c (.began (sourceOf c file)) s
  have hread := fun history => readTemplate_of_found (s := { s with history := history }) hwell
    h.sourceClean hfound hT
  have hdirectory := fun history => filing_of_ok (s := { s with history := history }) hmake
  have hrender := fun history => renderInto_of_writes
    (s := { s with files := F₁, history := history }) hopen hwrite h.failure
  refine Exists.intro ?site ⟨?run, ?within⟩
  case run =>
    rw [generateUnit]
    refine (bind_of_ok hannounce).trans ((bind_of_ok (hread _)).trans
      ((bind_of_ok (hdirectory _)).trans ((bind_of_ok (hrender _)).trans ?_)))
    rfl
  case within => exact hwithin

end Generating

end Generator

end Stencil
