import Mathlib.Logic.Function.Iterate
import Stencil.Proofs.Piecewise
import Stencil.Proofs.Units
/-!
# Stencil.Proofs.Protocol -- what a run tells and writes, wherever it ends

A template is generated in steps: its beginning is told, its source is read, the directories above
its output are made, the output is opened, the lines are rendered into it, and the end is told. Every
step but the telling can fail, and then the run is over. Nothing is done ahead of its time and
nothing is taken back, so what has been told and what has changed by then is a matter of the steps
that came before. A run that has ended well and one that has failed are described by one and the same
record; of the template that failed it has what was told, opened and made for it.
-/

namespace Stencil

open Stencil.Expr Text FileTree Filing

/-! ## What has changed in a tree -/

/-- From `t` to `u` files have been written at some paths, directories have come where there was
nothing, on some paths or above them, and all else is as it was. -/
def FileTree.Changed (working : Path) (written made : List Path) (t u : FileTree) : Prop :=
  ∀ q, u.find? q = t.find? q ∨
    ((∃ o ∈ written, q = place working o) ∧ ∃ b, u.find? q = some (.file b)) ∨
    ((∃ d ∈ made, ∃ k, q = place working (Path.parent^[k] d)) ∧
      t.find? q = none ∧ u.find? q = some .directory)

namespace FileTree.Changed

variable {working p : Path} {written written' made made' : List Path} {t u v : FileTree}

theorem refl (t : FileTree) : Changed working written made t t := fun _ => .inl rfl

theorem mono (h : Changed working written made t u) (hwritten : written ⊆ written')
    (hmade : made ⊆ made') : Changed working written' made' t u := by
  intro q
  rcases h q with hsame | ⟨⟨o, ho, hq⟩, hfile⟩ | ⟨⟨d, hd, hq⟩, hdir⟩
  · exact .inl hsame
  · exact .inr (.inl ⟨⟨o, hwritten ho, hq⟩, hfile⟩)
  · exact .inr (.inr ⟨⟨d, hmade hd, hq⟩, hdir⟩)

/-- What has been written stays a file, and what has been made stays a directory. -/
theorem trans (h : Changed working written made t u) (h' : Changed working written made u v) :
    Changed working written made t v := by
  intro q
  rcases h' q with hsame | ⟨hq, hfile⟩ | ⟨hq, hnone, hdir⟩
  · rw [hsame]
    exact h q
  · exact .inr (.inl ⟨hq, hfile⟩)
  · rcases h q with hsame | ⟨_, b, hfile⟩ | ⟨_, _, hdir'⟩
    · exact .inr (.inr ⟨hq, hsame ▸ hnone, hdir⟩)
    · cases hfile.symm.trans hnone
    · cases hdir'.symm.trans hnone

theorem append (h : Changed working written made t u) (h' : Changed working written' made' u v) :
    Changed working (written ++ written') (made ++ made') t v :=
  (h.mono (List.subset_append_left ..) (List.subset_append_left ..)).trans
    (h'.mono (List.subset_append_right ..) (List.subset_append_right ..))

/-- What has been made above a parent has been made above the path. -/
theorem of_parent (h : Changed working [] [p.parent] t u) : Changed working [] [p] t u := by
  intro q
  rcases h q with hsame | ⟨⟨o, ho, _⟩, _⟩ | ⟨⟨d, hd, k, hq⟩, hdir⟩
  · exact .inl hsame
  · cases ho
  · rw [List.mem_singleton.mp hd] at hq
    exact .inr (.inr ⟨⟨p, List.mem_singleton_self p, k + 1, hq⟩, hdir⟩)

/-- A file that stands at none of the places that have been written is the same. -/
theorem file_of_ne (h : Changed working written made t u) {q : List String}
    (hq : ∀ o ∈ written, place working o ≠ q) {b : List UInt8}
    (hfile : t.find? q = some (.file b)) : u.find? q = some (.file b) := by
  rcases h q with hsame | ⟨⟨o, ho, heq⟩, _⟩ | ⟨_, hnone, _⟩
  · exact hsame.trans hfile
  · exact absurd heq.symm (hq o ho)
  · cases hfile.symm.trans hnone

end FileTree.Changed

namespace Filing

variable {working p : Path} {t : FileTree}

/-- Reading leaves the files as they are. -/
theorem ended_read (working p : Path) (t : FileTree) : ended (read working p t) = t := by
  cases hp : holdsNull p with
  | true =>
    rw [read, bind_of_error (checkPath_of_null hp)]
    rfl
  | false =>
    rw [read, bind_of_ok (checkPath_of_clean hp), bind_of_ok (look_apply working p t)]
    rcases t.look (place working p) with e | _ | _ | _ <;> rfl

/-- What cannot be written is not there. -/
theorem write_error {b : List UInt8} {f : Failure} {u : FileTree}
    (h : write working p b t = .error f u) : u = t := by
  cases hp : holdsNull p with
  | true =>
    rw [write, bind_of_error (checkPath_of_null hp)] at h
    cases h
    rfl
  | false =>
    rw [write, bind_of_ok (checkPath_of_clean hp), bind_of_ok (look_apply working p t)] at h
    rcases hlook : t.look (place working p) with e | _ | _ | _ <;> rw [hlook] at h <;> cases h <;> rfl

/-- A path that has been written is not the root. -/
theorem found_of_write {b : List UInt8} {u : FileTree} (h : write working p b t = .ok () u) :
    u.find? (place working p) = some (.file b) := by
  obtain ⟨_, _, hdir, rfl⟩ := write_eq_ok h
  refine find?_put_self (fun hroot => hdir ?_) t (.file b)
  rw [hroot]
  rfl

theorem changed_write (working p : Path) (b : List UInt8) (made : List Path) (t : FileTree) :
    Changed working [p] made t (ended (write working p b t)) := by
  cases h : write working p b t with
  | error f u => exact write_error h ▸ .refl _
  | ok _ u =>
    intro q
    by_cases hq : q = place working p
    · exact .inr (.inl ⟨⟨p, List.mem_singleton_self p, hq⟩, b, hq ▸ found_of_write h⟩)
    · obtain ⟨_, _, _, rfl⟩ := write_eq_ok h
      exact .inl (find?_put_of_ne hq t _)

theorem changed_tryMakeDirectory (working p : Path) (t : FileTree) :
    Changed working [] [p] t (ended (tryMakeDirectory working p t)) := by
  cases hp : holdsNull p with
  | true =>
    rw [tryMakeDirectory, hp]
    exact .refl _
  | false =>
    rw [tryMakeDirectory_apply working t hp]
    rcases hlook : t.look (place working p) with e | _ | c
    · exact .refl _
    · have hnone : t.find? (place working p) = none := (look_eq_ok hlook).2.symm
      intro q
      by_cases hq : q = place working p
      · have hroot : place working p ≠ [] := by
          intro hroot
          rw [hroot] at hnone
          cases hnone
        exact .inr (.inr ⟨⟨p, List.mem_singleton_self p, 0, hq⟩, hq ▸ hnone,
          hq ▸ find?_put_self hroot t .directory⟩)
      · exact .inl (find?_put_of_ne hq t _)
    · exact .refl _

theorem ended_unlessDirectory (working p : Path) (trouble : FileTrouble) (t : FileTree) :
    ended (unlessDirectory working p trouble t) = t := by
  rw [unlessDirectory, bind_of_ok (look_apply working p t)]
  rcases t.look (place working p) with e | _ | _ | _ <;> rfl

/-- The tree in which a sequence leaves off has changed as its parts have changed it. -/
theorem changed_bind {α β : Type} {written made : List Path} {a : Filing α} {c : α → Filing β}
    (ha : Changed working written made t (ended (a t)))
    (hc : ∀ x u, Changed working written made u (ended (c x u))) :
    Changed working written made t (ended ((a >>= c) t)) := by
  cases hrun : a t with
  | error f u =>
    rw [bind_of_error hrun]
    rwa [hrun] at ha
  | ok x u =>
    rw [bind_of_ok hrun]
    rw [hrun] at ha
    exact ha.trans (hc x u)

theorem changed_retry (working p : Path) (t : FileTree) :
    Changed working [] [p] t (ended (retry working p t)) := by
  refine changed_bind (changed_tryMakeDirectory working p t) fun r u => ?_
  rcases r with _ | e
  · exact .refl _
  · cases e with
    | missing => exact .refl _
    | _ =>
      show Changed _ _ _ u (ended (unlessDirectory working p _ u))
      rw [ended_unlessDirectory]
      exact .refl _

/-- **Of the directories that are asked for, and those above them, the missing ones are made**, and
nothing else is changed, wherever the making fails. -/
theorem changed_makeDirectories (working : Path) (fuel : Nat) (p : Path) (t : FileTree) :
    Changed working [] [p] t (ended (makeDirectories working fuel p t)) := by
  induction fuel generalizing p t with
  | zero => exact .refl _
  | succ fuel ih =>
    rw [makeDirectories]
    refine changed_bind (changed_tryMakeDirectory working p t) fun r u => ?_
    rcases r with _ | e
    · exact .refl _
    · cases e with
      | missing =>
        show Changed _ _ _ u (ended ((if (p.parent == p) = true then _ else _ : Filing Unit) u))
        split
        · exact .refl _
        · exact changed_bind (ih p.parent u).of_parent fun _ w => changed_retry working p w
      | _ =>
        show Changed _ _ _ u (ended (unlessDirectory working p _ u))
        rw [ended_unlessDirectory]
        exact .refl _

end Filing

/-! ## What has been told -/

/-- What a listener hears of what happens. -/
def Occurrence.told? : Occurrence → Option (String × Event)
  | .heard listener e => some (listener, e)
  | .reported _ => none

/-- What the listeners have heard, the earliest first. -/
def Site.heard (s : Site) : List (String × Event) := s.history.reverse.filterMap Occurrence.told?

namespace Generator

/-- An event as it is told: to every listener, in their order. -/
def told (c : Setup) (e : Event) : List (String × Event) := c.listeners.map (·, e)

/-- What is told of a template that has been generated. -/
def eventsOf (c : Setup) (r : UnitResult) : List (String × Event) :=
  told c (.began r.source) ++ told c (.ended r)

/-- Steps of which no listener hears. -/
def Quiet {α : Type} (a : Generating α) : Prop := ∀ s, (ended (a s)).heard = s.heard

section Telling

variable {α β : Type} {s : Site}

theorem heard_note (os : List Occurrence) (s : Site) :
    (ended (note os s)).heard = s.heard ++ os.filterMap Occurrence.told? := by
  show (os.reverse ++ s.history).reverse.filterMap Occurrence.told? = _
  rw [List.reverse_append, List.reverse_reverse, List.filterMap_append]
  rfl

theorem heard_announce (c : Setup) (e : Event) (s : Site) :
    (ended (announce c e s)).heard = s.heard ++ told c e := by
  rw [announce, heard_note, List.filterMap_map]
  exact congrArg (s.heard ++ ·) (congrFun List.filterMap_eq_map' c.listeners)

theorem Quiet.bind {a : Generating α} {f : α → Generating β} (ha : Quiet a)
    (hf : ∀ x, Quiet (f x)) : Quiet (a >>= f) := by
  intro s
  have hs := ha s
  cases hrun : a s with
  | error g t =>
    rw [bind_of_error hrun]
    rwa [hrun] at hs
  | ok x t =>
    rw [hrun] at hs
    rw [bind_of_ok hrun]
    exact (hf x t).trans hs

theorem Quiet.filing (a : Filing α) : Quiet (filing a) := by
  intro s
  cases hrun : a s.files with
  | error f t =>
    rw [filing_of_error hrun]
    rfl
  | ok v t =>
    rw [filing_of_ok hrun]
    rfl

/-- Listeners do not hear of reports. -/
theorem Quiet.reported (rs : List Report) : Quiet (note (rs.map .reported)) := by
  intro s
  have hnone : rs.filterMap (Occurrence.told? ∘ .reported) = [] :=
    List.filterMap_eq_nil_iff.mpr fun _ _ => rfl
  rw [heard_note, List.filterMap_map, hnone, List.append_nil]

theorem Quiet.renderInto (c : Setup) (root : Node) (output : Path) :
    Quiet (renderInto c root output) := by
  intro s
  cases hopen : write c.working output [] s.files with
  | error f F =>
    rw [Generator.renderInto, bind_of_error (filing_of_error hopen)]
    rfl
  | ok _ F =>
    rw [renderInto_of_opened hopen]
    refine ((Quiet.filing _).bind (fun _ => ?_) _).trans ?_
    · intro t
      cases (rendering c root s.machine.fresh).failure <;> rfl
    · exact Quiet.reported _ _

end Telling

/-! ## Reading and opening -/

/-- The template that can be read from a source in some files. -/
def templateAt (c : Setup) (source : Path) (files : FileTree) : Except Failure Template :=
  match Filing.read c.working source files with
  | .ok bytes _ => templateOf c bytes
  | .error f _ => .error f

/-- Where the output of a template goes, if the template can be read. -/
def outputAt (c : Setup) (file : Path) (files : FileTree) : Option Path :=
  (templateAt c (sourceOf c file) files).toOption.map (·.output (usualOutput c (sourceOf c file)))

/-- Make the directories above an output, and open it. -/
def opening (c : Setup) (output : Path) : Filing Unit := do
  Filing.makeDirectory c.working output.parent
  Filing.write c.working output []

/-- Whether an output can be opened in some files. -/
def opens (c : Setup) (files : FileTree) (output : Path) : Bool :=
  ((opening c output).run' files).isSome

/-- The output of a template, if the template can be read and the output opened. -/
def openedAt (c : Setup) (file : Path) (files : FileTree) : Option Path :=
  (outputAt c file files).filter (opens c files)

/-- The site in which a template has been read. -/
def readIn (T : Template) (s : Site) : Site := ended (note (T.reports.map .reported) s)

/-- The site in which the beginning of a template has been told. -/
def begun (c : Setup) (file : Path) (s : Site) : Site :=
  ended (announce c (.began (sourceOf c file)) s)

/-- What is done for a template that has been read. -/
def writeOut (c : Setup) (source : Path) (T : Template) : Generating UnitResult := do
  let output := T.output (usualOutput c source)
  filing (Filing.makeDirectory c.working output.parent)
  let errors ← renderInto c T.root output
  let result : UnitResult := ⟨source, output, errors⟩
  announce c (.ended result)
  return result

section Reading

variable {c : Setup} {file source : Path} {s : Site}

theorem readTemplate_apply (c : Setup) (source : Path) (s : Site) :
    readTemplate c source s =
      match templateAt c source s.files with
      | .ok T => .ok T (readIn T s)
      | .error f => .error f s := by
  have hread := ended_read c.working source s.files
  rw [templateAt]
  cases hrun : Filing.read c.working source s.files with
  | error f t =>
    rw [hrun] at hread
    obtain rfl : t = s.files := hread
    exact bind_of_error (bind_of_error (filing_of_error hrun))
  | ok bytes t =>
    rw [hrun] at hread
    obtain rfl : t = s.files := hread
    have hfiling := filing_of_ok (s := s) hrun
    show readTemplate c source s = match templateOf c bytes with | .ok T => _ | .error f => _
    rw [templateOf, readTemplate, readLines]
    cases hdecode : c.settings.encoding.read bytes with
    | error f =>
      refine bind_of_error ?_
      rw [bind_of_ok hfiling, hdecode]
      rfl
    | ok text =>
      have hlines : readLines c source s = .ok ((Text.fileLines text).map String.ofList) s := by
        rw [readLines, bind_of_ok hfiling, hdecode]
        rfl
      exact bind_of_ok hlines

/-- A template that cannot be read ends the run after its beginning has been told. -/
theorem generateUnit_of_unread {g : Failure} (h : templateAt c (sourceOf c file) s.files = .error g) :
    generateUnit c file s = .error g (begun c file s) := by
  have hread := readTemplate_apply c (sourceOf c file) (begun c file s)
  rw [show (begun c file s).files = s.files from rfl, h] at hread
  rw [generateUnit, bind_of_ok (announce_apply c _ s)]
  exact bind_of_error hread

theorem generateUnit_of_read {T : Template} (h : templateAt c (sourceOf c file) s.files = .ok T) :
    generateUnit c file s = writeOut c (sourceOf c file) T (readIn T (begun c file s)) := by
  have hread := readTemplate_apply c (sourceOf c file) (begun c file s)
  rw [show (begun c file s).files = s.files from rfl, h] at hread
  rw [generateUnit, bind_of_ok (announce_apply c _ s)]
  exact bind_of_ok hread

theorem outputAt_of_read {T : Template} {F : FileTree}
    (h : templateAt c (sourceOf c file) F = .ok T) :
    outputAt c file F = some (T.output (usualOutput c (sourceOf c file))) := by
  rw [outputAt, h]
  rfl

theorem openedAt_subset (c : Setup) (file : Path) (F : FileTree) :
    (openedAt c file F).toList ⊆ (outputAt c file F).toList := by
  intro o ho
  rw [Option.mem_toList] at ho ⊢
  exact (Option.filter_eq_some_iff.mp ho).1

end Reading

/-! ## What is done for one template -/

section Writing

variable {c : Setup} {file source output : Path} {T : Template} {root : Node} {s t : Site}

/-- However the rendering into an output ends, nothing but the output is changed. -/
theorem changed_renderInto (c : Setup) (root : Node) (output : Path) (s : Site) :
    Changed c.working [output] [] s.files (ended (renderInto c root output s)).files := by
  have hfirst := changed_write c.working output [] [] s.files
  cases hopen : write c.working output [] s.files with
  | error f F =>
    rw [hopen] at hfirst
    rw [renderInto, bind_of_error (filing_of_error hopen)]
    exact hfirst
  | ok _ F =>
    rw [hopen] at hfirst
    rw [renderInto_of_opened hopen]
    refine hfirst.trans ?_
    have hsecond := changed_write c.working output (rendering c root s.machine.fresh).bytes [] F
    cases hwrite : write c.working output (rendering c root s.machine.fresh).bytes F with
    | error f F' =>
      rw [hwrite] at hsecond
      rw [bind_of_error (filing_of_error (s := rendered c root F s) hwrite)]
      exact hsecond
    | ok _ F' =>
      rw [hwrite] at hsecond
      rw [bind_of_ok (filing_of_ok (s := rendered c root F s) hwrite)]
      cases (rendering c root s.machine.fresh).failure <;> exact hsecond

/-- What is told at the end of a template: nothing when it has failed. -/
def endOf (c : Setup) : EStateM.Result Failure Site UnitResult → List (String × Event)
  | .ok r _ => told c (.ended r)
  | .error .. => []

theorem heard_writeOut (c : Setup) (source : Path) (T : Template) (s : Site) :
    (ended (writeOut c source T s)).heard = s.heard ++ endOf c (writeOut c source T s) := by
  have hquiet : Quiet (filing (makeDirectory c.working (T.output (usualOutput c source)).parent) >>=
      fun _ => renderInto c T.root (T.output (usualOutput c source))) :=
    (Quiet.filing _).bind fun _ => .renderInto _ _ _
  have hsame := hquiet s
  rw [writeOut, ← bind_assoc]
  cases hrun : (filing (makeDirectory c.working (T.output (usualOutput c source)).parent) >>=
      fun _ => renderInto c T.root (T.output (usualOutput c source))) s with
  | error f t =>
    rw [hrun] at hsame
    rw [bind_of_error hrun]
    exact hsame.trans (List.append_nil _).symm
  | ok errors t =>
    rw [hrun] at hsame
    rw [bind_of_ok hrun]
    exact (heard_announce ..).trans (congrArg (· ++ _) hsame)

/-- **Of a template its beginning is told, and its end when it has not failed.** -/
theorem heard_generateUnit (c : Setup) (file : Path) (s : Site) :
    (ended (generateUnit c file s)).heard =
      s.heard ++ told c (.began (sourceOf c file)) ++ endOf c (generateUnit c file s) := by
  have hbegun := heard_announce c (.began (sourceOf c file)) s
  cases h : templateAt c (sourceOf c file) s.files with
  | error g =>
    rw [generateUnit_of_unread h]
    exact hbegun.trans (List.append_nil _).symm
  | ok T =>
    have hread := Quiet.reported T.reports (begun c file s)
    rw [generateUnit_of_read h, heard_writeOut]
    exact congrArg (· ++ _) (hread.trans hbegun)

theorem opens_of_ok {files F F' : FileTree}
    (hmake : makeDirectory c.working output.parent files = .ok () F)
    (hopen : write c.working output [] F = .ok () F') : opens c files output = true := by
  have hrun : opening c output files = .ok () F' := (bind_of_ok hmake).trans hopen
  rw [opens, run'_of_ok hrun]
  rfl

/-- Only an output that could be opened is changed. -/
theorem changed_writeOut (c : Setup) (source : Path) (T : Template) (s : Site) :
    Changed c.working ((some (T.output (usualOutput c source))).filter (opens c s.files)).toList
      [(T.output (usualOutput c source)).parent] s.files (ended (writeOut c source T s)).files := by
  rw [writeOut]
  generalize T.output (usualOutput c source) = o
  have hmade : Changed c.working [] [o.parent] s.files
      (ended (makeDirectory c.working o.parent s.files)) := changed_makeDirectories _ _ _ _
  cases hmake : makeDirectory c.working o.parent s.files with
  | error f F =>
    rw [hmake] at hmade
    rw [bind_of_error (filing_of_error hmake)]
    exact hmade.mono (List.nil_subset _) (List.Subset.refl _)
  | ok _ F =>
    rw [hmake] at hmade
    rw [bind_of_ok (filing_of_ok hmake)]
    have hdone : Changed c.working ((some o).filter (opens c s.files)).toList [] F
        (ended (renderInto c T.root o { s with files := F })).files := by
      cases hopen : write c.working o [] F with
      | error f F' =>
        -- The output is as it was.
        obtain rfl := write_error hopen
        rw [renderInto, bind_of_error (filing_of_error (s := { s with files := F' }) hopen)]
        exact .refl _
      | ok _ F' =>
        rw [Option.filter_some_pos (opens_of_ok hmake hopen)]
        exact changed_renderInto c T.root o { s with files := F }
    refine (hmade.mono (List.nil_subset _) (List.Subset.refl _)).trans
      (Changed.mono ?_ (List.Subset.refl _) (List.nil_subset _))
    cases hrender : renderInto c T.root o { s with files := F } with
    | error f t =>
      rw [hrender] at hdone
      rw [bind_of_error hrender]
      exact hdone
    | ok errors t =>
      rw [hrender] at hdone
      rw [bind_of_ok hrender]
      exact hdone

/-- **For a template its output is written, and the missing directories above it are made**: the one
when the output can be opened, the other when the template can be read. -/
theorem changed_generateUnit (c : Setup) (file : Path) (s : Site) :
    Changed c.working (openedAt c file s.files).toList
      ((outputAt c file s.files).toList.map Path.parent) s.files
      (ended (generateUnit c file s)).files := by
  cases h : templateAt c (sourceOf c file) s.files with
  | error g =>
    rw [generateUnit_of_unread h]
    exact .refl _
  | ok T =>
    rw [openedAt, outputAt_of_read h, generateUnit_of_read h]
    exact changed_writeOut c (sourceOf c file) T (readIn T (begun c file s))

end Writing

/-! ## What an output holds -/

section Printing

variable {c : Setup} {file : Path} {m : Machine} {s t : Site} {r : UnitResult}

/-- A run does not tell that its reader has ended it. -/
theorem renderIn_ne_closed (c : Setup) (root : Node) (m : Machine) :
    (renderIn c root none m).2.1 ≠ some .closed := by
  rw [renderIn, Node.run, Node.runWithin, if_neg (by decide)]
  split
  · nofun
  · nofun
  · next hclosed _ => exact fun h => hclosed (Option.some.inj h)

theorem eq_none_of_haltFailure {halt : Option Halt} (hclosed : halt ≠ some .closed)
    (h : halt.bind haltFailure = none) : halt = none := by
  rcases halt with _ | _ | f | _
  · rfl
  · exact absurd rfl hclosed
  · cases h
  · cases h

/-- A rendering that does not fail has come to the end of the tree, and all its lines have been
written. -/
theorem rendering_of_sound {root : Node} (h : (rendering c root m).failure = none) :
    ∃ lines, renderIn c root none m = (lines, none, (rendering c root m).session) ∧
      c.settings.encoding.writeAll [] (pieces (lines.toList.map (·.text))) =
        ((rendering c root m).bytes, none) := by
  have hclosed := renderIn_ne_closed c root m
  rw [rendering] at h ⊢
  rcases hrun : renderIn c root none m with ⟨lines, halt, session⟩
  rcases hencode : encodeLines c.settings.encoding (lines.toList.map (·.text)) with ⟨bytes, stop⟩
  rw [hrun] at hclosed
  simp only [hrun, hencode] at h ⊢
  cases stop with
  | some stopped => cases h
  | none =>
    obtain rfl := eq_none_of_haltFailure hclosed h
    exact ⟨lines, rfl, encodeLines_eq_iff.mp hencode⟩

/-- A file holds lines, each with a line feed, as a codec writes them: the texts of the lines and the
line feeds one after the other. Where the codec writes piece by piece, this is the encoding of the
text that they make. -/
structure Holds (k : Codec) (lines : List String) (bytes : List UInt8) : Prop where
  written : k.writeAll [] (pieces lines) = (bytes, none)
  whole : ∀ mark body, k.Piecewise mark body → lines ≠ [] →
    k.encode "strict" (unlines (lines.map String.toList)) = .ok bytes

theorem holds_of_writeAll {k : Codec} {lines : List String} {bytes : List UInt8}
    (h : k.writeAll [] (pieces lines) = (bytes, none)) : Holds k lines bytes where
  written := h
  whole mark body hpiecewise hlines := by
    obtain ⟨l, ls, rfl⟩ := List.exists_cons_of_ne_nil hlines
    rw [← flatten_pieces]
    exact hpiecewise.encode_of_writeAll (List.cons_ne_nil _ _) h

/-- The output of a result holds the lines of the template that was read for it from the site `u`,
each with a line feed, in the encoding of the run. They are all the lines of the template, whether it
recorded errors or not. -/
def Printed (c : Setup) (u : Site) (r : UnitResult) (files : FileTree) : Prop :=
  ∃ T lines session bytes,
    templateAt c r.source u.files = .ok T ∧ r.output = T.output (usualOutput c r.source) ∧
    renderIn c T.root none u.machine.fresh = (lines, none, session) ∧
    r.errors = session.scope.errors ∧
    Holds c.settings.encoding (lines.toList.map (·.text)) bytes ∧
    files.find? (place c.working r.output) = some (.file bytes)

theorem printed_of_generateUnit (h : generateUnit c file s = .ok r t) :
    r.source = sourceOf c file ∧ outputAt c file s.files = some r.output ∧ Printed c s r t.files := by
  cases hread : templateAt c (sourceOf c file) s.files with
  | error g => cases (generateUnit_of_unread hread).symm.trans h
  | ok T =>
    rw [generateUnit_of_read hread, writeOut] at h
    obtain ⟨_, u, hmake, h⟩ := bind_eq_ok_iff.mp h
    obtain ⟨F, _, rfl⟩ := filing_eq_ok hmake
    obtain ⟨errors, w, hrender, h⟩ := bind_eq_ok_iff.mp h
    obtain ⟨F', _, hwrite, hsound, rfl, _⟩ := renderInto_eq_ok hrender
    cases h
    obtain ⟨lines, hlines, hbytes⟩ := rendering_of_sound hsound
    exact ⟨rfl, outputAt_of_read hread, T, lines, _, _, hread, rfl, hlines, rfl,
      holds_of_writeAll hbytes, found_of_write hwrite⟩

end Printing

/-! ## Runs -/

section Runs

variable {c : Setup} {file : Path} {files : List Path} {s t u v : Site} {r : UnitResult}
  {results : List UnitResult} {last : List (String × Event)} {opened made : List Path}

/-- The outputs of results hold their lines, but for those in whose place something has been written
later: another output, or one of the paths that are still `opened`. -/
def AllPrinted (c : Setup) (files : List Path) (s : Site) (results : List UnitResult)
    (opened : List Path) (left : FileTree) : Prop :=
  ∀ before r after, results = before ++ r :: after →
    (∀ o ∈ after.map (·.output) ++ opened, place c.working o ≠ place c.working r.output) →
    ∃ u, (files.take before.length).mapM (generateUnit c) s = .ok before u ∧ Printed c u r left

/-- What is known of a run when the templates of `files` have been generated with some results, and
then there was `last` to be told, some paths have been `opened`, and some directories `made`. -/
structure Followed (c : Setup) (files : List Path) (s : Site) (results : List UnitResult)
    (last : List (String × Event)) (opened made : List Path) (t : Site) : Prop where
  sources : results.map (·.source) = files.map (sourceOf c)
  heard : t.heard = s.heard ++ results.flatMap (eventsOf c) ++ last
  changed : Changed c.working (results.map (·.output) ++ opened)
    (results.map (·.output.parent) ++ made) s.files t.files
  printed : AllPrinted c files s results opened t.files

theorem followed_nil (h : t.heard = s.heard ++ last)
    (hchanged : Changed c.working opened made s.files t.files) :
    Followed c [] s [] last opened made t where
  sources := rfl
  heard := by rw [List.flatMap_nil, List.append_nil, h]
  changed := hchanged
  printed before r after h := by cases before <;> cases h

/-- A template comes before those that follow it. -/
theorem Followed.cons (hunit : generateUnit c file s = .ok r u)
    (h : Followed c files u results last opened made t) :
    Followed c (file :: files) s (r :: results) last opened made t := by
  have hheard := heard_generateUnit c file s
  have hchanged := changed_generateUnit c file s
  obtain ⟨hsource, houtput, hprinted⟩ := printed_of_generateUnit hunit
  rw [hunit] at hheard hchanged
  refine ⟨?_, ?_, ?_, ?_⟩
  · rw [List.map_cons, List.map_cons, hsource, h.sources]
  · have hevents : u.heard = s.heard ++ eventsOf c r := by
      rw [eventsOf, hsource, ← List.append_assoc]
      exact hheard
    rw [h.heard, hevents, List.flatMap_cons]
    simp only [List.append_assoc]
  · have hopened := openedAt_subset c file s.files
    rw [houtput] at hchanged hopened
    exact (hchanged.mono hopened (List.Subset.refl _)).append h.changed
  · intro before r' after hsplit hlater
    cases before with
    | nil =>
      obtain ⟨rfl, rfl⟩ := List.cons.inj hsplit
      obtain ⟨T, lines, session, bytes, hT, hout, hlines, herrors, hbytes, hfile⟩ := hprinted
      exact ⟨s, rfl, T, lines, session, bytes, hT, hout, hlines, herrors, hbytes,
        h.changed.file_of_ne hlater hfile⟩
    | cons b before =>
      obtain ⟨rfl, hrest⟩ := List.cons.inj hsplit
      obtain ⟨w, hbefore, hw⟩ := h.printed before r' after hrest hlater
      exact ⟨w, mapM_cons_of_ok hunit hbefore, hw⟩

/-- Whatever a run comes to after some templates, the templates before it have been followed. -/
theorem followed_of_mapM (h : files.mapM (generateUnit c) s = .ok results u)
    (hlast : Followed c [] u [] last opened made t) :
    Followed c files s results last opened made t := by
  induction files generalizing s results with
  | nil =>
    cases h
    exact hlast
  | cons file files ih =>
    obtain ⟨r, v, rest, hunit, hrest, rfl⟩ := mapM_cons_eq_ok h
    exact .cons hunit (ih hrest)

/-- **What a run tells and writes.** Where a run ends well there is a result for each template, in
their order; of each in turn the beginning and the end were told to every listener; nothing has
changed but the outputs and the missing directories above them; and every output that has not been
written over holds the lines of its template. Where a run fails it has got to one of the templates.
All of this holds of those before it; of the template itself only the beginning was told, and only
its own output may have been opened, and directories above it made, and neither when its source
could not be read. -/
theorem generate_followed (c : Setup) (s : Site) :
    match generate c s with
    | .ok results t => Followed c c.settings.files s results [] [] [] t
    | .error f t => ∃ before file after results u,
        c.settings.files = before ++ file :: after ∧
        before.mapM (generateUnit c) s = .ok results u ∧ generateUnit c file u = .error f t ∧
        Followed c before s results (told c (.began (sourceOf c file)))
          (openedAt c file u.files).toList ((outputAt c file u.files).toList.map Path.parent) t ∧
        ∀ g, templateAt c (sourceOf c file) u.files = .error g → f = g ∧ t.files = u.files := by
  cases h : generate c s with
  | ok results t => exact followed_of_mapM h (followed_nil (List.append_nil _).symm (.refl _))
  | error f t =>
    obtain ⟨before, file, after, results, u, hfiles, hbefore, hunit⟩ := mapM_eq_error h
    have hheard := heard_generateUnit c file u
    have hchanged := changed_generateUnit c file u
    rw [hunit] at hheard hchanged
    refine ⟨before, file, after, results, u, hfiles, hbefore, hunit,
      followed_of_mapM hbefore (followed_nil (hheard.trans (List.append_nil _)) hchanged), ?_⟩
    intro g hread
    cases (generateUnit_of_unread hread).symm.trans hunit
    exact ⟨rfl, rfl⟩

end Runs

/-! ## A template in Punycode -/

/-- A setup with one template, in Punycode. -/
def delimited : Setup where
  settings := {
    files := [⟨0, ["a"]⟩]
    base := ⟨0, []⟩
    output := ⟨0, ["out"]⟩
    encodingName := "punycode"
    encoding := .punycode
    parameters := [] }
  working := ⟨1, ["w"]⟩

/-- Where a template of the line `x` is generated. -/
def delimitedSite : Site where
  files := ⟨[(["w"], .directory), (["w", "a"], .file [120, 10, 45])]⟩

/-- The line is rendered, and written with a delimiter behind it and one behind its line feed. The
encoding of the line with its line feed has one delimiter only. -/
theorem generate_delimited :
    (generate delimited).run' delimitedSite = some [⟨⟨0, ["a"]⟩, ⟨0, ["out", "a"]⟩, []⟩] ∧
      (renderIn delimited (Template.parse ["x"]).root none {}).1 = #[⟨"x", 0⟩] ∧
      (ended (generate delimited delimitedSite)).files.find? ["w", "out", "a"] =
        some (.file [120, 45, 10, 45]) ∧
      delimited.settings.encoding.encode "strict" (unlines ["x".toList]) = .ok [120, 10, 45] := by
  have hwhole : Punycode.encode (unlines ["x".toList]) = [120, 10, 45] := by decide +kernel
  exact ⟨by decide +kernel, by decide +kernel, by decide +kernel, congrArg Except.ok hwhole⟩

end Generator

end Stencil
