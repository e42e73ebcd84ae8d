import Stencil.CommandLine
import Stencil.Proofs.Moments
import Stencil.Proofs.Protocol
import Stencil.Proofs.Reasons
/-!
# Stencil.Proofs.Status -- what the exit status tells

The exit status is made at three places: where the command line is turned into settings, where a run
fails, and where the results of a run are counted. The first of them comes before anything is read,
so a run that is refused is the same whatever files there are. The last looks at the errors that each
template has in the end; since errors are never taken back, these have in them every error that was
recorded at any moment.
-/

namespace Stencil

open Stencil.Expr Render FileTree Filing

/-! ## Errors recorded at some moment -/

section Recording

variable {e : Evaluator} {limit : Nat} {m m' : Moment}

/-- What follows an action takes back none of the errors that it has left. -/
theorem Grows.prefix_bind {α β : Type} {k : α → Render β} (hk : ∀ x, Grows (k x)) (a : Render α)
    (s : Session) : (ended (a s)).scope.errors <+: (ended ((a >>= k) s)).scope.errors := by
  cases hrun : a s with
  | ok x t =>
    rw [bind_of_ok hrun]
    exact hk x t
  | error q t =>
    rw [bind_of_error hrun]
    exact List.prefix_refl _

theorem Action.Brings.errors {a : Action} {s t : Scope} {rules : List Rule}
    (h : a.Brings s t rules) : t.errors = s.errors := by
  cases h with
  | opened => rfl
  | given _ =>
    rw [Scope.foldl_addAlone]
  | between _ =>
    rw [Scope.foldl_addAlone]
    rfl

/-- Actions that are done after others take back none of their errors. -/
theorem Render.errors_perform_append (description : String) (before after : List Action)
    (s : Session) : (ended (perform description before s)).scope.errors <+:
      (ended (perform description (before ++ after) s)).scope.errors := by
  induction before generalizing s with
  | nil => exact Grows.perform description after s
  | cons b before ih =>
    cases hb : b.apply s.scope with
    | ok scope =>
      rw [List.cons_append, perform_cons_of_ok hb, perform_cons_of_ok hb]
      exact ih _
    | error f =>
      have hsame : perform description (b :: before ++ after) s =
          perform description (b :: before) s := by
        rw [List.cons_append, perform_cons_of_error hb, perform_cons_of_error hb]
      exact hsame ▸ List.prefix_refl _

theorem VisitsPass.errors {α : Type} {ns : List Node} {name : Option String} {v : Value}
    {collected : Bool} {body : Render α} (hgrows : Grows body)
    (hbody : ∀ s, (ended (body s)).scope =
      (ended (Node.renderAll e limit ns (if collected then apart s else s))).scope)
    (hns : ∀ {m m' : Moment}, VisitsAll e limit ns m m' →
      m'.scope.errors <+: (ended (Node.renderAll e limit ns m.session)).scope.errors)
    (h : VisitsPass e limit name v collected ns m m') :
    m'.scope.errors <+: (ended (nested name v body m.session)).scope.errors := by
  have hnested : m.scope.errors <+: (ended (nested name v body m.session)).scope.errors :=
    (Grows.enterPass name v).bind (fun _ => .leaving hgrows) m.session
  -- Where the level has been entered, the errors of the pass are those of its body.
  have hended {m₁ : Moment} (henter : m.Enters name v m₁) :
      (ended (nested name v body m.session)).scope.errors = (ended (Node.renderAll e limit ns
        (if collected then apart m₁.session else m₁.session))).scope.errors := by
    rw [ended_nested henter.enterPass_eq]
    exact (Scope.errors_leave _).trans (congrArg Scope.errors (hbody m₁.session))
  cases h with
  | entered => exact hnested
  | bound _ => exact hnested
  | placed _ _ => exact hnested
  | body henter h =>
    rw [hended henter]
    exact hns h
  | left henter h _ =>
    rw [hended henter]
    show (Scope.leave _).errors <+: _
    rw [Scope.errors_leave]
    exact hns h

theorem VisitsPasses.errors {loop : LoopHeader} {ns : List Node} {r : Ref} {fuel : Nat}
    (hns : ∀ {m m' : Moment}, VisitsAll e limit ns m m' →
      m'.scope.errors <+: (ended (Node.renderAll e limit ns m.session)).scope.errors) :
    ∀ {previous : Option (List String)} {m m' : Moment},
      VisitsPasses e limit loop ns r fuel previous m m' → m'.scope.errors <+:
        (ended (passes loop r (Node.renderAll e limit ns) fuel previous m.session)).scope.errors := by
  have hbody := (Grows.compositional e).renderAll limit ns
  have hpasses (fuel : Nat) (previous : Option (List String)) :=
    (Grows.compositional e).toEnclosing.passes hbody loop r fuel previous
  induction fuel with
  | zero =>
    intro previous m m' h
    cases h
    exact hpasses 0 previous m.session
  | succ fuel ih =>
    intro previous m m' h
    cases h with
    | start => exact hpasses (fuel + 1) previous m.session
    | pass hv h =>
      rw [passes_of_some hv]
      refine List.IsPrefix.trans ?_ (Grows.prefix_bind (hpasses fuel) _ _)
      rw [scope_pass]
      cases hcollapse : loop.collapse with
      | false =>
        rw [hcollapse] at h
        exact h.errors hbody (fun _ => rfl) hns
      | true =>
        rw [hcollapse] at h
        exact h.errors (.collecting hbody) (scope_collecting _) hns
    | later hv hpass h =>
      rw [passes_of_some hv, bind_of_ok hpass]
      exact ih h

mutual

/-- The errors recorded at any moment of a run are there when it has ended. -/
theorem Visits.errors {n : Node} {m m' : Moment} (h : Visits e limit n m m') :
    m'.scope.errors <+: (ended (n.render e limit m.session)).scope.errors := by
  have hstart := n.errors_prefix_render e limit m.session
  cases n with
  | list _ ns =>
    cases h with
    | start => exact hstart
    | list h => exact VisitsAll.errors h
  | line text =>
    cases h with
    | start => exact hstart
    | line => exact List.prefix_refl _
  | eval text =>
    cases h with
    | start => exact hstart
    | eval => exact List.prefix_refl _
  | insert text indent =>
    cases h with
    | start => exact hstart
    | insert => exact List.prefix_refl _
  | error message =>
    cases h with
    | start => exact hstart
    | error => exact List.prefix_refl _
  | operation description actions =>
    cases h with
    | start => exact hstart
    | acted => exact errors_perform_append description _ _ m.session
    | @acting _ before after a _ scope scope' _ hbefore hbrings =>
      show scope'.errors <+: (ended (perform description (before ++ a :: after) m.session)).scope.errors
      rw [perform_append hbefore, hbrings.errors]
      exact Grows.perform description (a :: after) { m.session with scope := scope }
  | block loop ns =>
    have hns : ∀ {m m' : Moment}, VisitsAll e limit ns m m' →
        m'.scope.errors <+: (ended (Node.renderAll e limit ns m.session)).scope.errors :=
      VisitsAll.errors
    cases h with
    | start => exact hstart
    | refused htext hv => exact List.prefix_refl _
    | once hnone h =>
      rw [Node.render, blockNode_of_once hnone]
      exact h.errors ((Grows.compositional e).renderAll limit ns) (fun _ => rfl) hns
    | loop htext hv hr h =>
      rw [Node.render, blockNode_of_ok htext hv, bind_of_ok (act_of_ok hr)]
      exact VisitsPasses.errors hns h

theorem VisitsAll.errors {ns : List Node} {m m' : Moment} (h : VisitsAll e limit ns m m') :
    m'.scope.errors <+: (ended (Node.renderAll e limit ns m.session)).scope.errors := by
  have hstart := (Grows.compositional e).renderAll limit ns m.session
  cases ns with
  | nil =>
    cases h
    exact hstart
  | cons n ns =>
    have hrest : ∀ _ : Unit, Grows (Node.renderAll e limit ns) :=
      fun _ => (Grows.compositional e).renderAll limit ns
    cases h with
    | start => exact hstart
    | head h => exact (Visits.errors h).trans (Grows.prefix_bind hrest _ _)
    | tail hrun h =>
      rw [Node.renderAll, bind_of_ok hrun]
      exact VisitsAll.errors h

end

end Recording

/-! ## Command lines that are refused -/

namespace Parameter

variable {w : Limits} {definition : String} {m m' : Machine} {f : Failure}

/-- An expression that cannot be evaluated is the failure of its definition, unless it cannot be
told. -/
theorem valueOf_failure {expression : Option (List Char)}
    (h : valueOf (.standardWithin w) definition expression m = .error f m') :
    (∃ reason, f = .parameter definition reason) ∨ Unshowable f := by
  cases expression with
  | none => cases h
  | some text =>
    cases hv : (Evaluator.standardWithin w).evaluate {} (String.ofList text) m with
    | ok v k => cases (tryCatch_of_ok hv).symm.trans h
    | error g k =>
      have h := (tryCatch_of_error hv).symm.trans h
      by_cases hown : ∃ reason, g = .expression (String.ofList text) reason
      · obtain ⟨reason, rfl⟩ := hown
        cases h
        exact .inl ⟨reason, rfl⟩
      · have hleaks : Leaks (String.ofList text)
            ((Evaluator.standardWithin w).evaluate {} (String.ofList text)) m g :=
          ⟨⟨k, hv⟩, not_exists.mp hown⟩
        have hunshowable := (leaks_asFailureOf_iff.mp hleaks).unshowable
        obtain ⟨kind, message, rfl⟩ := hunshowable.eq_fault
        cases h
        exact .inr hunshowable

/-- Whatever a definition fails with, it is rejected, unless that cannot be told. -/
theorem parse_failure (h : parse (.standardWithin w) definition m = .error f m') :
    (∃ reason, f = .parameter definition reason) ∨ Unshowable f := by
  unfold parse at h
  generalize cut definition.toList = parts at h
  obtain ⟨name, expression⟩ := parts
  rcases bind_eq_error_iff.mp h with hv | ⟨v, u, _, h⟩
  · exact valueOf_failure hv
  · split at h
    · cases h
    · cases h
      exact .inl ⟨_, rfl⟩

end Parameter

namespace CommandLine

open Generator

/-- A definition of a parameter is rejected, when those before it have been read. -/
def Rejected (machine : Machine) (w : Limits) (definitions : List String) : Prop :=
  ∃ before d after values m reason m', definitions = before ++ d :: after ∧
    before.mapM (Parameter.parse (.standardWithin w)) machine = .ok values m ∧
    Parameter.parse (.standardWithin w) d m = .error (.parameter d reason) m'

/-- The settings that a command line gives with its parameters cannot be used, with the codecs that
the machine knows. -/
def Invalid (machine : Machine) (w : Limits) (a : Arguments) (working : Path) : Prop :=
  ∃ parameters m problems,
    Parameter.parseAll (.standardWithin w) a.parameters machine = .ok parameters m ∧
    Settings.check working (fields a parameters) machine.codecs = .error problems

section Refusing

variable {machine : Machine} {w : Limits} {a : Arguments} {working : Path}

theorem parseAll_error {definitions : List String} {f : Failure} {m : Machine}
    (h : Parameter.parseAll (.standardWithin w) definitions machine = .error f m) :
    (Rejected machine w definitions ∧ ∃ d reason, f = .parameter d reason) ∨ Unshowable f := by
  rcases bind_eq_error_iff.mp h with h | ⟨pairs, u, _, h⟩
  · obtain ⟨before, d, after, values, u, hsplit, hbefore, hd⟩ := mapM_eq_error h
    rcases Parameter.parse_failure hd with ⟨reason, rfl⟩ | hunshowable
    · exact .inl ⟨⟨before, d, after, values, u, reason, m, hsplit, hbefore, hd⟩, d, reason, rfl⟩
    · exact .inr hunshowable
  · cases h

theorem not_rejected {definitions : List String} {l : Layer} {m : Machine}
    (h : Parameter.parseAll (.standardWithin w) definitions machine = .ok l m) :
    ¬Rejected machine w definitions := by
  rintro ⟨before, d, after, values, u, reason, m', rfl, hbefore, hd⟩
  obtain ⟨pairs, v, h, _⟩ := bind_eq_ok_iff.mp h
  rw [List.mapM_append, bind_of_ok hbefore] at h
  obtain ⟨_, w, h, _⟩ := bind_eq_ok_iff.mp h
  obtain ⟨_, _, _, hd', _, _⟩ := mapM_cons_eq_ok h
  cases hd.symm.trans hd'

/-- A command line is refused exactly when a definition is rejected or the settings cannot be used.
Otherwise there are settings, or a definition fails in a way that cannot be told. -/
theorem settingsFor_cases (a : Arguments) (working : Path) (machine : Machine) (w : Limits) :
    (∃ message, settingsFor a working machine w = .error (.refused message) ∧
      (Rejected machine w a.parameters ∨ Invalid machine w a working)) ∨
    (∃ f, settingsFor a working machine w = .error (.failed f)) ∨
    ∃ settings m, settingsFor a working machine w = .ok (settings, m) ∧
      ¬(Rejected machine w a.parameters ∨ Invalid machine w a working) := by
  rw [settingsFor]
  cases hparse : Parameter.parseAll (.standardWithin w) a.parameters machine with
  | error f m =>
    rcases parseAll_error hparse with ⟨hrejected, d, reason, rfl⟩ | hunshowable
    · exact .inl ⟨_, rfl, .inl hrejected⟩
    · obtain ⟨kind, message, rfl⟩ := hunshowable.eq_fault
      exact .inr (.inl ⟨_, rfl⟩)
  | ok l m =>
    dsimp only
    cases hcheck : Settings.check working (fields a l) machine.codecs with
    | error problems => exact .inl ⟨_, rfl, .inr ⟨l, m, problems, hparse, hcheck⟩⟩
    | ok settings =>
      refine .inr (.inr ⟨settings, m, rfl, ?_⟩)
      rintro (hrejected | ⟨l', m', problems, hparse', hcheck'⟩)
      · exact not_rejected hparse hrejected
      · cases hparse.symm.trans hparse'
        cases hcheck.symm.trans hcheck'

end Refusing

/-! ## The status of a run -/

/-- The session in which the rendering of a template begins. -/
def outset (c : Setup) (m : Machine) : Session where
  scope := Scope.ofLayer c.settings.parameters
  machine := m

/-- What a status tells of a run that was not refused. -/
structure Tells (c : Setup) (s : Site) (status : Nat) : Prop where
  ok : status = statusOk ↔
    ∃ results t, generate c s = .ok results t ∧ ∀ r ∈ results, r.errors = []
  failed : status = statusFailed ↔
    (∃ f t, generate c s = .error f t ∧ isFileFailure f = true) ∨
      ∃ results t, generate c s = .ok results t ∧ ∃ r ∈ results, r.errors ≠ []
  /-- An error that is recorded at any moment of any template shows. -/
  recorded : ∀ before file after results u T m, c.settings.files = before ++ file :: after →
    before.mapM (generateUnit c) s = .ok results u →
    templateAt c (sourceOf c file) u.files = .ok T →
    Visits c.evaluator passLimit T.root (.start (outset c u.machine.fresh)) m →
    m.scope.errors ≠ [] → status ≠ statusOk

section Telling

variable {c : Setup} {s t : Site} {file : Path} {results : List UnitResult}

theorem scope_renderIn (c : Setup) (root : Node) (m : Machine) :
    (renderIn c root none m).2.2.scope =
      (ended (root.render c.evaluator passLimit (outset c m))).scope := by
  rw [renderIn, Node.run, Node.runWithin, if_neg (by decide)]
  show _ = (ended (root.render c.evaluator passLimit (outset c m))).scope
  unfold outset
  split <;> next hrun => rw [hrun]; rfl

/-- What is recorded at some moment of a template is among the errors of its result. -/
theorem errors_of_visits {T : Template} {r : UnitResult} {m : Moment}
    (hunit : generateUnit c file s = .ok r t)
    (hread : templateAt c (sourceOf c file) s.files = .ok T)
    (hvisits : Visits c.evaluator passLimit T.root (.start (outset c s.machine.fresh)) m) :
    m.scope.errors <+: r.errors := by
  obtain ⟨hsource, _, T', lines, session, bytes, hread', _, hlines, herrors, _⟩ :=
    printed_of_generateUnit hunit
  rw [hsource] at hread'
  cases hread.symm.trans hread'
  have hscope := scope_renderIn c T.root s.machine.fresh
  rw [hlines] at hscope
  rw [herrors, show session.scope = _ from hscope]
  exact hvisits.errors

theorem summary_eq_nil_iff : summary results = [] ↔ ∀ r ∈ results, r.errors = [] := by
  have hfailed : (results.filter (!·.ok)).length = 0 ↔ ∀ r ∈ results, r.errors = [] := by
    simp [UnitResult.ok]
  rw [← hfailed, summary]
  split
  · next h => simpa using h
  · next h => simpa using h

/-- The templates of a run that has ended well have been generated one after the other. -/
theorem generated_of_split {before after : List Path} {rest : List UnitResult} {u : Site}
    (hfiles : c.settings.files = before ++ file :: after)
    (hbefore : before.mapM (generateUnit c) s = .ok results u)
    (h : generate c s = .ok rest t) : ∃ r v, generateUnit c file u = .ok r v ∧ r ∈ rest := by
  rw [generate, hfiles, List.mapM_append, bind_of_ok hbefore] at h
  obtain ⟨rs, w, h, hrest⟩ := bind_eq_ok_iff.mp h
  obtain ⟨r, v, rs, hunit, _, rfl⟩ := mapM_cons_eq_ok h
  cases hrest
  exact ⟨r, v, hunit, List.mem_append_right _ List.mem_cons_self⟩

theorem tells_of_error {f : Failure} (h : generate c s = .error f t) (hf : isFileFailure f = true) :
    Tells c s statusFailed where
  ok := by
    rw [h]
    exact ⟨nofun, nofun⟩
  failed := ⟨fun _ => .inl ⟨f, t, h, hf⟩, fun _ => rfl⟩
  recorded _ _ _ _ _ _ _ _ _ _ _ _ := nofun

theorem tells_of_ok (h : generate c s = .ok results t) :
    Tells c s (if (summary results).isEmpty then statusOk else statusFailed) := by
  by_cases hall : ∀ r ∈ results, r.errors = []
  · rw [summary_eq_nil_iff.mpr hall]
    refine ⟨⟨fun _ => ⟨results, t, h, hall⟩, fun _ => rfl⟩, ⟨nofun, ?_⟩, ?_⟩
    · rintro (⟨f, t', h', _⟩ | ⟨results', t', h', r, hr, hbad⟩)
      · cases h.symm.trans h'
      · cases h.symm.trans h'
        exact absurd (hall r hr) hbad
    · intro before file after done u T m hfiles hbefore hread hvisits herrors _
      obtain ⟨r, v, hunit, hr⟩ := generated_of_split hfiles hbefore h
      have hprefix := errors_of_visits hunit hread hvisits
      rw [hall r hr] at hprefix
      exact herrors (List.prefix_nil.mp hprefix)
  · have hsummary : summary results ≠ [] := fun hnil => hall (summary_eq_nil_iff.mp hnil)
    rw [if_neg (by simpa using hsummary)]
    refine ⟨⟨nofun, ?_⟩, ⟨fun _ => .inr ⟨results, t, h, ?_⟩, fun _ => rfl⟩, ?_⟩
    · rintro ⟨results', t', h', hall'⟩
      cases h.symm.trans h'
      exact absurd hall' hall
    · push Not at hall
      exact hall
    · exact fun _ _ _ _ _ _ _ _ _ _ _ _ => nofun

variable {verbose : Bool} {files : FileTree} {machine : Machine}

/-- A run that ends otherwise than by a failure that is not dealt with is told by its status. -/
theorem tells_of_conduct (h : (conduct c verbose files machine).failure = none) :
    (conduct c verbose files machine).status ≠ statusUsage ∧
      Tells c { files, machine } (conduct c verbose files machine).status := by
  rw [conduct] at h ⊢
  cases hrun : generate c { files, machine } with
  | error f t =>
    simp only [hrun] at h ⊢
    split at h
    · next hf =>
      rw [if_pos hf]
      exact ⟨nofun, tells_of_error hrun hf⟩
    · cases h
  | ok results t =>
    refine ⟨?_, tells_of_ok hrun⟩
    show (if (summary results).isEmpty then statusOk else statusFailed) ≠ statusUsage
    split <;> nofun

end Telling

/-- **What the exit status tells.** Of every command line that can be read, and all files, on every
machine, whichever codecs it knows, and within all limits of reading, if the program deals with
whatever happens: the status is that of a refusal exactly when a definition of a parameter is rejected
or the settings cannot be used, and then the program does the same whatever files there are, and
leaves them as they are. Otherwise there is a run, which the status tells of: it is zero exactly when
the run has ended well and no template has errors, and one exactly when files could not be read or
written, or some template has errors, be they recorded ever so early. -/
theorem run_status {argv : List String} {a : Arguments} {working : Path} {files : FileTree}
    {machine : Machine} {w : Limits} (hargv : Arguments.parse argv = .ok a)
    (hreturns : (run argv working files machine w).failure = none) :
    ((run argv working files machine w).status = statusUsage ↔
      Rejected machine w a.parameters ∨ Invalid machine w a working) ∧
    ((run argv working files machine w).status = statusUsage →
      ∀ other, run argv working other machine w =
        { run argv working files machine w with files := other }) ∧
    ((run argv working files machine w).status ≠ statusUsage → ∃ settings m,
      settingsFor a working machine w = .ok (settings, m) ∧
      Tells (setupFor settings working w) { files, machine := m }
        (run argv working files machine w).status) := by
  have hrun (files : FileTree) :
      run argv working files machine w = carryOut a working files machine w := by
    rw [run, hargv]
  rw [hrun] at hreturns ⊢
  rcases settingsFor_cases a working machine w with
    ⟨message, hset, hrefused⟩ | ⟨f, hset⟩ | ⟨settings, m, hset, hsound⟩
  · have hout (files : FileTree) : carryOut a working files machine w =
        { status := statusUsage, reports := [complain message], files } := by
      rw [carryOut, hset]
    refine ⟨⟨fun _ => hrefused, fun _ => ?_⟩, fun _ other => ?_, fun hstatus => ?_⟩
    · rw [hout]
    · rw [hrun, hout, hout]
    · rw [hout] at hstatus
      exact absurd rfl hstatus
  · -- The failure of a definition that cannot be told is not dealt with.
    rw [carryOut, hset] at hreturns
    cases hreturns
  · have hout : carryOut a working files machine w =
        conduct (setupFor settings working w) a.verbose files m := by
      rw [carryOut, hset]
    rw [hout] at hreturns ⊢
    obtain ⟨hstatus, htells⟩ := tells_of_conduct hreturns
    exact ⟨⟨fun h => absurd h hstatus, fun h => absurd h hsound⟩, fun h => absurd h hstatus,
      fun _ => ⟨settings, m, hset, htells⟩⟩

/-- A working directory with two templates: the first has a replacement without a pattern, the second
is plain. -/
def twoTemplates : FileTree :=
  ⟨[(["w"], .directory), (["w", "a"], .file "///->X\n///filename c\n".toUTF8.toList),
    (["w", "b"], .file "x\n".toUTF8.toList)]⟩

/-- The settings with which the two are generated. -/
def twoSettings : Settings where
  files := [⟨0, ["a"]⟩, ⟨0, ["b"]⟩]
  base := ⟨1, ["w"]⟩
  output := ⟨1, ["w"]⟩
  encodingName := "utf-8"
  encoding := .utf8
  parameters := []

/-- The error of the first template shows, though the second has none. -/
theorem run_status_twoTemplates :
    Arguments.parse ["a", "b"] = .ok { files := ["a", "b"] } ∧
    (run ["a", "b"] ⟨1, ["w"]⟩ twoTemplates).failure = none ∧
    (run ["a", "b"] ⟨1, ["w"]⟩ twoTemplates).status = statusFailed := by
  have hargv : Arguments.parse ["a", "b"] = .ok { files := ["a", "b"] } := rfl
  have hreturns : (run ["a", "b"] ⟨1, ["w"]⟩ twoTemplates).failure = none := by decide +kernel
  have hstatus : (run ["a", "b"] ⟨1, ["w"]⟩ twoTemplates).status ≠ statusUsage := by decide +kernel
  have hset : settingsFor { files := ["a", "b"] } ⟨1, ["w"]⟩ = .ok (twoSettings, {}) := rfl
  obtain ⟨settings, m, hset', htells⟩ := (run_status hargv hreturns).2.2 hstatus
  cases hset.symm.trans hset'
  obtain ⟨t, hrun⟩ : ∃ t, generate (setupFor twoSettings ⟨1, ["w"]⟩) { files := twoTemplates } =
      .ok [⟨⟨1, ["w", "a"]⟩, ⟨1, ["w", "c"]⟩, ["replacement without match: X"]⟩,
        ⟨⟨1, ["w", "b"]⟩, ⟨1, ["w", "b"]⟩, []⟩] t := exists_of_run' (by decide +kernel)
  exact ⟨hargv, hreturns, htells.failed.mpr (.inr ⟨_, t, hrun, _, List.mem_cons_self, nofun⟩)⟩

end CommandLine

end Stencil
