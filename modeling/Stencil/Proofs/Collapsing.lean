import Stencil.Proofs.Containment
import Stencil.Proofs.Sequence
/-!
# Stencil.Proofs.Collapsing -- blocks that drop repeated passes

A block may drop a pass whose lines are those of the pass before. It then renders each pass to its
end before it hands out any line of it, where the same block without dropping hands out the lines as
they come. What is rendered does not notice the difference: a body sees the scope and the machine,
and neither the lines handed out before it nor the reports made before it. So both blocks make the
same passes, each of them once, and leave the same scope and the same machine; all that is missing
are the lines of passes that repeat the one before.

There is one thing that tells the scopes apart. A block whose elements cannot be found makes no pass,
and records an error that shows its head; the head of a block that drops passes is shown as such.
-/

namespace Stencil

open Stencil.Expr Render

/-- The texts of the lines that have been handed out. -/
def Session.texts (s : Session) : List String := s.lines.toList.map (·.text)

/-- A session with the scope and the machine of another, in which nothing has been handed out or
reported, for a reader of all lines. -/
def Session.fresh (s : Session) : Session := { scope := s.scope, machine := s.machine }

theorem Session.fresh_since {s : Session} (h : s.wanted = none) :
    s.fresh.since s.lines s.reports = s := by
  simp [fresh, since, ← h]

theorem Session.texts_since (lines : Array Line) (reports : List Report) (s : Session) :
    (s.since lines reports).texts = lines.toList.map (·.text) ++ s.texts := by
  simp [texts, since]

/-- Where all lines are wanted, rendering only depends on the scope and the machine. -/
theorem Impartial.eq_fresh {α : Type} {a : Render α} (ha : Impartial a) {s : Session}
    (h : s.wanted = none) : a s = leftIn (Session.since s.lines s.reports) (a s.fresh) := by
  rw [← ha, Session.fresh_since h]

/-- A list without the members that are equal to the one right before them; `before` stands before
the first. -/
def dropRepeats {α : Type} [BEq α] (before : Option α) : List α → List α
  | [] => []
  | x :: xs => if some x == before then dropRepeats (some x) xs else x :: dropRepeats (some x) xs

namespace Render

variable {e : Evaluator} {limit fuel : Nat} {loop : LoopHeader} {name : Option String} {v : Value}
  {ns : List Node} {body : Render Unit} {s t : Session} {q : Halt}

/-! ## One pass -/

/-- Opening a level hands out nothing and reports nothing. -/
theorem enterPass_eq_ok (h : enterPass name v s = .ok () t) :
    t = { s with scope := t.scope, machine := t.machine } := by
  by_cases hname : name.getD "" = ""
  · rw [enterPass_of_unnamed hname] at h
    cases h
    rfl
  · cases hv : asText v s.machine with
    | ok shown m =>
      rw [enterPass_of_ok hname hv] at h
      cases h
      rfl
    | error f m =>
      rw [enterPass_of_error hname hv] at h
      cases h

/-- A pass whose lines are collected ends as it does when they are handed out. -/
theorem nested_collecting_of_ok (h : nested name v body s.fresh = .ok () t) :
    nested name v (collecting body) s.fresh =
      .ok t.texts { t with lines := #[], wanted := none } := by
  rw [nested] at h ⊢
  obtain ⟨_, u, henter, hbody⟩ := bind_eq_ok_iff.mp h
  have hu : apart u = u := by rw [enterPass_eq_ok henter]; rfl
  have hlines : u.lines = #[] ∧ u.wanted = none := by rw [enterPass_eq_ok henter]; exact ⟨rfl, rfl⟩
  rw [bind_of_ok henter]
  cases hrun : body u with
  | ok _ w =>
    rw [ensuring_of_ok hrun] at hbody
    cases hbody
    rw [← hu] at hrun
    rw [ensuring_of_ok (collecting_of_ok hrun), hlines.1, hlines.2]
    rfl
  | error q w =>
    rw [ensuring_of_error hrun] at hbody
    cases hbody

theorem nested_collecting_of_error (h : nested name v body s.fresh = .error q t) :
    ∃ t', nested name v (collecting body) s.fresh = .error q t' := by
  rw [nested] at h ⊢
  rcases bind_eq_error_iff.mp h with henter | ⟨_, u, henter, hbody⟩
  · exact ⟨t, bind_of_error henter⟩
  · have hu : apart u = u := by rw [enterPass_eq_ok henter]; rfl
    cases hrun : body u with
    | ok _ w =>
      rw [ensuring_of_ok hrun] at hbody
      cases hbody
    | error q' w =>
      rw [ensuring_of_error hrun] at hbody
      cases hbody
      rw [← hu] at hrun
      exact ⟨_, (bind_of_ok henter).trans (ensuring_of_error (collecting_of_error hrun))⟩

/-- Where all lines are wanted, handing lines out does nothing else. -/
theorem emitAll_of_all (texts : List String) (h : s.wanted = none) :
    ∃ t, emitAll texts s = .ok () t ∧ t.scope = s.scope ∧ t.machine = s.machine ∧
      t.wanted = none ∧ t.texts = s.texts ++ texts := by
  induction texts generalizing s with
  | nil => exact ⟨s, rfl, rfl, rfl, h, (List.append_nil _).symm⟩
  | cons text texts ih =>
    have hwanted : (handed text s).wanted = none := by rw [handed, h]; rfl
    obtain ⟨t, hrun, hscope, hmachine, hall, htexts⟩ := ih hwanted
    have hhanded : (handed text s).texts = s.texts ++ [text] := by simp [Session.texts, handed]
    refine ⟨t, ?_, hscope, hmachine, hall, ?_⟩
    · show (emit text >>= fun _ => emitAll texts) s = _
      rw [bind_of_ok (emit_of_all text h), hrun]
    · rw [htexts, hhanded, List.append_assoc]
      rfl

/-- What a pass hands out in a block that may drop it. -/
def handedOut (collapse : Bool) (previous : Option (List String)) (lines : List String) :
    List String :=
  if collapse && some lines == previous then [] else lines

/-- What the pass behind a pass is compared with. -/
def comparedWith (collapse : Bool) (lines : List String) : Option (List String) :=
  if collapse then some lines else none

/-- A pass does what its body does in a level of its own, whatever has been handed out before it; it
hands out all its lines, or none where it is dropped. -/
theorem pass_of_ok (hbody : Impartial body) (hall : s.wanted = none)
    (h : nested loop.name v body s.fresh = .ok () t) (hwanted : t.wanted = none)
    (previous : Option (List String)) :
    ∃ u, pass loop body previous v s = .ok (comparedWith loop.collapse t.texts) u ∧
      u.scope = t.scope ∧ u.machine = t.machine ∧ u.wanted = none ∧
      u.texts = s.texts ++ handedOut loop.collapse previous t.texts := by
  have hplain : Impartial (nested loop.name v body) :=
    (Impartial.stepwise.enterPass _ _).bind fun _ => hbody.leaving
  have hcollecting : Impartial (nested loop.name v (collecting body)) :=
    (Impartial.stepwise.enterPass _ _).bind fun _ => hbody.collecting.leaving
  cases hcollapse : loop.collapse with
  | false =>
    have hrun := hplain.eq_fresh hall
    rw [h] at hrun
    refine ⟨t.since s.lines s.reports, ?_, rfl, rfl, hwanted, ?_⟩
    · rw [pass, hcollapse, if_neg Bool.false_ne_true, bind_of_ok hrun]
      rfl
    · rw [Session.texts_since]
      rfl
  | true =>
    have hrun := hcollecting.eq_fresh hall
    rw [nested_collecting_of_ok h] at hrun
    -- The session in which the pass is over and none of its lines handed out.
    obtain ⟨w, hw⟩ : ∃ w : Session, w = Session.since s.lines s.reports
      { t with lines := #[], wanted := none } := ⟨_, rfl⟩
    have hscope : w.scope = t.scope := by rw [hw]; rfl
    have hmachine : w.machine = t.machine := by rw [hw]; rfl
    have hw' : w.wanted = none := by rw [hw]; rfl
    have htexts : w.texts = s.texts := by
      rw [hw, Session.texts_since]
      exact List.append_nil _
    replace hrun : nested loop.name v (collecting body) s = .ok t.texts w := by rw [hrun, hw]; rfl
    by_cases hsame : (some t.texts == previous) = true
    · have hprevious : previous = some t.texts := (beq_iff_eq.mp hsame).symm
      refine ⟨{ w with reports :=
        ⟨.tree, .debug, "Collapsing repeated pass of " ++ loop.shown⟩ :: w.reports },
        ?_, hscope, hmachine, hw', ?_⟩
      · rw [pass, hcollapse, if_pos rfl, bind_of_ok hrun, if_pos hsame, hprevious]
        rfl
      · rw [handedOut, hsame, Bool.and_self, if_pos rfl, List.append_nil, ← htexts]
        rfl
    · obtain ⟨u, hemit, huscope, humachine, hu, hutexts⟩ := emitAll_of_all t.texts hw'
      refine ⟨u, ?_, huscope.trans hscope, humachine.trans hmachine, hu, ?_⟩
      · rw [pass, hcollapse, if_pos rfl, bind_of_ok hrun, if_neg hsame, bind_of_ok hemit]
        rfl
      · rw [hutexts, htexts, handedOut, Bool.true_and, if_neg hsame]

theorem pass_of_error (hbody : Impartial body) (hall : s.wanted = none)
    (h : nested loop.name v body s.fresh = .error q t) (previous : Option (List String)) :
    ∃ u, pass loop body previous v s = .error q u := by
  cases hcollapse : loop.collapse with
  | false =>
    have hplain : Impartial (nested loop.name v body) :=
      (Impartial.stepwise.enterPass _ _).bind fun _ => hbody.leaving
    have hrun := hplain.eq_fresh hall
    rw [h] at hrun
    refine ⟨t.since s.lines s.reports, ?_⟩
    rw [pass, hcollapse, if_neg Bool.false_ne_true, bind_of_error hrun]
  | true =>
    have hcollecting : Impartial (nested loop.name v (collecting body)) :=
      (Impartial.stepwise.enterPass _ _).bind fun _ => hbody.collecting.leaving
    have hrun := hcollecting.eq_fresh hall
    obtain ⟨t', ht'⟩ := nested_collecting_of_error h
    rw [ht'] at hrun
    refine ⟨t'.since s.lines s.reports, ?_⟩
    rw [pass, hcollapse, if_pos rfl, bind_of_error hrun]

end Render

/-! ## All passes -/

/-- The passes of a block that runs through the elements of an iterator, from a scope and a machine
on: for each element the body is rendered once in a level of its own, where the pass before has left
off. What is told of them is the lines that each would hand out, and the scope and the machine in the
end. -/
inductive Passed (e : Evaluator) (limit : Nat) (name : Option String) (ns : List Node) (r : Ref) :
    Scope → Machine → List (List String) → Scope → Machine → Prop
  | done {scope : Scope} {m m' : Machine} (hnext : next r m = .ok none m') :
    Passed e limit name ns r scope m [] scope m'
  | pass {scope scope' : Scope} {m m₁ m' : Machine} {v : Value} {t : Session}
      {outputs : List (List String)} (hnext : next r m = .ok (some v) m₁)
      (hpass : nested name v (Node.renderAll e limit ns) { scope := scope, machine := m₁ } = .ok () t)
      (rest : Passed e limit name ns r t.scope t.machine outputs scope' m') :
    Passed e limit name ns r scope m (t.texts :: outputs) scope' m'

/-- What some passes hand out in a block that may drop repeated ones. -/
def keptOf (collapse : Bool) (previous : Option (List String)) (outputs : List (List String)) :
    List (List String) :=
  if collapse then dropRepeats previous outputs else outputs

theorem flatten_keptOf_cons (collapse : Bool) (previous : Option (List String))
    (lines : List String) (outputs : List (List String)) :
    (keptOf collapse previous (lines :: outputs)).flatten =
      handedOut collapse previous lines ++
        (keptOf collapse (comparedWith collapse lines) outputs).flatten := by
  cases collapse with
  | false => rfl
  | true =>
    show (dropRepeats previous (lines :: outputs)).flatten = _
    rw [dropRepeats, handedOut, Bool.true_and]
    by_cases hsame : (some lines == previous) = true
    · rw [if_pos hsame, if_pos hsame]
      rfl
    · rw [if_neg hsame, if_neg hsame]
      rfl

section Passing

variable {e : Evaluator} {limit fuel : Nat} {loop : LoopHeader} {ns : List Node} {r : Ref}
  {s t : Session} {scope scope' : Scope} {m m' : Machine} {outputs : List (List String)}

theorem impartial_body (e : Evaluator) (limit : Nat) (ns : List Node) :
    Impartial (Node.renderAll e limit ns) := (Impartial.compositional e).renderAll limit ns

/-- A reader of all lines still wants all of them when a pass is over. -/
theorem wanted_of_nested {name : Option String} {v : Value} (hall : s.wanted = none)
    (h : nested name v (Node.renderAll e limit ns) s = .ok () t) : t.wanted = none := by
  have hlazy : Lazy (nested name v (Node.renderAll e limit ns)) :=
    (Lazy.compositional e).nested name v ((Lazy.compositional e).renderAll limit ns)
  obtain ⟨new, hnew⟩ := hlazy s hall
  have hwanted := hnew.wanted
  rwa [h] at hwanted

/-- A block makes the passes that there are, whether it drops some or not. -/
theorem passes_of_passed (h : Passed e limit loop.name ns r scope m outputs scope' m')
    (hfuel : outputs.length < fuel) (hscope : s.scope = scope) (hmachine : s.machine = m)
    (hall : s.wanted = none) (previous : Option (List String)) :
    ∃ t, passes loop r (Node.renderAll e limit ns) fuel previous s = .ok () t ∧
      t.scope = scope' ∧ t.machine = m' ∧
      t.texts = s.texts ++ (keptOf loop.collapse previous outputs).flatten := by
  induction h generalizing fuel s previous with
  | @done scope m m' hnext =>
    obtain ⟨fuel, rfl⟩ := Nat.exists_eq_add_one.mpr hfuel
    subst hscope hmachine
    refine ⟨{ s with machine := m' }, passes_of_none hnext, rfl, rfl, ?_⟩
    cases loop.collapse <;> exact (List.append_nil _).symm
  | @pass scope scope' m m₁ m' v t outputs hnext hpass _ ih =>
    obtain ⟨fuel, rfl⟩ := Nat.exists_eq_add_one.mpr (Nat.zero_lt_of_lt hfuel)
    subst hscope hmachine
    -- The pass is made where the elements have been asked for one.
    obtain ⟨u, hrun, huscope, humachine, hu, hutexts⟩ :=
      pass_of_ok (s := { s with machine := m₁ }) (impartial_body e limit ns) hall hpass
        (wanted_of_nested rfl hpass) previous
    obtain ⟨w, hrest, hwscope, hwmachine, hwtexts⟩ :=
      ih (Nat.lt_of_succ_lt_succ hfuel) huscope humachine hu (comparedWith loop.collapse t.texts)
    refine ⟨w, ?_, hwscope, hwmachine, ?_⟩
    · rw [passes_of_some hnext, bind_of_ok hrun, hrest]
    · rw [hwtexts, hutexts, flatten_keptOf_cons, List.append_assoc]
      rfl

/-- A block that comes to its end has made passes. -/
theorem passed_of_passes {previous : Option (List String)} (hall : s.wanted = none)
    (h : passes loop r (Node.renderAll e limit ns) fuel previous s = .ok () t) :
    ∃ outputs scope' m', outputs.length < fuel ∧
      Passed e limit loop.name ns r s.scope s.machine outputs scope' m' := by
  induction fuel generalizing s previous with
  | zero => cases h
  | succ fuel ih =>
    cases hnext : next r s.machine with
    | error f m =>
      rw [passes, bind_of_error (act_of_error hnext)] at h
      cases h
    | ok found m =>
      cases found with
      | none => exact ⟨[], s.scope, m, Nat.zero_lt_succ fuel, .done hnext⟩
      | some v =>
        rw [passes_of_some hnext] at h
        cases hpass : nested loop.name v (Node.renderAll e limit ns)
            { scope := s.scope, machine := m } with
        | error q u =>
          obtain ⟨w, hrun⟩ := pass_of_error (s := { s with machine := m }) (impartial_body e limit ns)
            hall hpass previous
          rw [bind_of_error hrun] at h
          cases h
        | ok _ u =>
          obtain ⟨w, hrun, hwscope, hwmachine, hw, -⟩ :=
            pass_of_ok (s := { s with machine := m }) (impartial_body e limit ns) hall hpass
              (wanted_of_nested rfl hpass) previous
          rw [bind_of_ok hrun] at h
          obtain ⟨outputs, scope', m', hlength, hrest⟩ := ih hw h
          rw [hwscope, hwmachine] at hrest
          exact ⟨u.texts :: outputs, scope', m', Nat.succ_lt_succ hlength, .pass hnext hpass hrest⟩

end Passing

/-! ## Blocks -/

/-- The run of a block with an expression for its elements, which may drop repeated passes. -/
def blockRun (e : Evaluator) (limit : Nat) (name : Option String) (text : String) (ns : List Node)
    (s : Session) (collapse : Bool) : Array Line × Option Halt × Session :=
  (Node.block ⟨name, some text, collapse⟩ ns).runWithin limit e none s

/-- The texts of the lines that a run has handed out. -/
def textsOf (run : Array Line × Option Halt × Session) : List String := run.1.toList.map (·.text)

/-- What passes that hand out `outputs` come to in a block that drops none of them and in one that
drops repeated ones. -/
structure OnlyRepeatsDropped (outputs : List (List String))
    (plain collapsing : Array Line × Option Halt × Session) : Prop where
  plain_lines : textsOf plain = outputs.flatten
  lines : textsOf collapsing = (dropRepeats none outputs).flatten
  scope : collapsing.2.2.scope = plain.2.2.scope
  machine : collapsing.2.2.machine = plain.2.2.machine

/-- How a block that drops repeated passes compares with the block that drops none. -/
structure CollapsesRepeats (e : Evaluator) (limit : Nat) (name : Option String) (text : String)
    (ns : List Node) (s : Session) : Prop where
  /-- One comes to its end exactly when the other does. -/
  ends : (blockRun e limit name text ns s true).2.1 = none ↔
    (blockRun e limit name text ns s false).2.1 = none
  /-- When the elements are found, both make the same passes, and one of them drops those that repeat
  the one before. -/
  passed : ∀ v m, s.scope.evaluate e text s.machine = .ok v m →
    (blockRun e limit name text ns s false).2.1 = none →
    ∃ r m₁ outputs, elementsOf v m = .ok r m₁ ∧
      Passed e limit name ns r s.scope m₁ outputs (blockRun e limit name text ns s false).2.2.scope
        (blockRun e limit name text ns s false).2.2.machine ∧
      OnlyRepeatsDropped outputs (blockRun e limit name text ns s false)
        (blockRun e limit name text ns s true)
  /-- When they are not, there is no pass, and both record the failure under their heads. -/
  unfound : ∀ f m, s.scope.evaluate e text s.machine = .error f m → ∀ collapse,
    blockRun e limit name text ns s collapse =
      (#[], none, recorded ((LoopHeader.mk name (some text) collapse).shown ++ ": " ++ f.describe)
        (apart { s with machine := m }))

section Blocks

variable {e : Evaluator} {limit : Nat} {name : Option String} {text : String} {ns : List Node}
  {s t : Session} {v : Value} {m m₁ : Machine} {r : Ref} {collapse : Bool} {q : Halt}

theorem blockRun_of_ok
    (h : blockNode e limit ⟨name, some text, collapse⟩ (Node.renderAll e limit ns) (apart s) =
      .ok () t) : blockRun e limit name text ns s collapse = (t.lines, none, apart t) :=
  Node.runWithin_of_ok none nofun h

/-- A run without a reason to end early has rendered the block to its end. -/
theorem exists_of_blockRun (h : (blockRun e limit name text ns s collapse).2.1 = none) :
    ∃ t, blockNode e limit ⟨name, some text, collapse⟩ (Node.renderAll e limit ns) (apart s) =
      .ok () t := by
  cases hrun : blockNode e limit ⟨name, some text, collapse⟩ (Node.renderAll e limit ns)
      (apart s) with
  | ok _ t => exact ⟨t, rfl⟩
  | error q t =>
    have hlazy : Lazy ((Node.block ⟨name, some text, collapse⟩ ns).render e limit) :=
      (Lazy.compositional e).render limit _
    obtain ⟨new, hnew⟩ := hlazy (apart s) rfl
    have hq : q ≠ .closed := by
      rintro rfl
      exact hnew.open_ t hrun
    have hfails : blockRun e limit name text ns s collapse = (t.lines, some q, apart t) :=
      Node.runWithin_of_error none nofun hq hrun
    rw [hfails] at h
    cases h

theorem blockNode_of_elements (hv : s.scope.evaluate e text s.machine = .ok v m)
    (hr : elementsOf v m = .ok r m₁) :
    blockNode e limit ⟨name, some text, collapse⟩ (Node.renderAll e limit ns) (apart s) =
      passes ⟨name, some text, collapse⟩ r (Node.renderAll e limit ns) limit none
        (apart { s with machine := m₁ }) := by
  have hevaluated : blockNode e limit ⟨name, some text, collapse⟩ (Node.renderAll e limit ns)
      (apart s) = _ := blockNode_of_ok rfl hv
  exact hevaluated.trans (bind_of_ok (act_of_ok (s := apart { s with machine := m }) hr))

/-- The passes of a block are those of the block that drops repeated ones. -/
theorem blockRun_of_passed {outputs : List (List String)} {scope' : Scope} {m' : Machine}
    (hv : s.scope.evaluate e text s.machine = .ok v m) (hr : elementsOf v m = .ok r m₁)
    (h : Passed e limit name ns r s.scope m₁ outputs scope' m') (hlimit : outputs.length < limit)
    (collapse : Bool) :
    (blockRun e limit name text ns s collapse).2.1 = none ∧
      (blockRun e limit name text ns s collapse).2.2.scope = scope' ∧
      (blockRun e limit name text ns s collapse).2.2.machine = m' ∧
      textsOf (blockRun e limit name text ns s collapse) =
        (keptOf collapse none outputs).flatten := by
  obtain ⟨t, hrun, hscope, hmachine, htexts⟩ : ∃ t,
      passes ⟨name, some text, collapse⟩ r (Node.renderAll e limit ns) limit none
        (apart { s with machine := m₁ }) = .ok () t ∧ t.scope = scope' ∧ t.machine = m' ∧
        t.texts = (keptOf collapse none outputs).flatten :=
    passes_of_passed h hlimit rfl rfl rfl none
  rw [blockRun_of_ok ((blockNode_of_elements hv hr).trans hrun)]
  exact ⟨rfl, hscope, hmachine, htexts⟩

/-- **Collapsing only removes repeats.** A block that drops repeated passes makes the passes that the
block makes that drops none, ends with the same scope, and hands out the same lines but those of the
passes that repeat the one before. Only its head tells the two apart, where an error shows it. -/
theorem collapses_repeats (e : Evaluator) (limit : Nat) (name : Option String) (text : String)
    (ns : List Node) (s : Session) : CollapsesRepeats e limit name text ns s := by
  cases hv : s.scope.evaluate e text s.machine with
  | error f m =>
    have hrun (collapse : Bool) : blockRun e limit name text ns s collapse = _ :=
      blockRun_of_ok (blockNode_of_error rfl hv)
    refine ⟨by rw [hrun, hrun], fun _ _ hok => (nomatch hv.symm.trans hok), ?_⟩
    intro f' m' herror collapse
    cases hv.symm.trans herror
    exact hrun collapse
  | ok v m =>
    obtain ⟨r, m₁, hr⟩ := Safe.elementsOf v m
    have hpasses (collapse : Bool) (hends : (blockRun e limit name text ns s collapse).2.1 = none) :
        ∃ outputs scope' m', outputs.length < limit ∧
          Passed e limit name ns r s.scope m₁ outputs scope' m' := by
      obtain ⟨t, ht⟩ := exists_of_blockRun hends
      rw [blockNode_of_elements hv hr] at ht
      exact passed_of_passes rfl ht
    refine ⟨?_, ?_, fun _ _ herror => (nomatch hv.symm.trans herror)⟩
    · constructor
      · intro hends
        obtain ⟨outputs, scope', m', hlimit, hpassed⟩ := hpasses true hends
        exact (blockRun_of_passed hv hr hpassed hlimit false).1
      · intro hends
        obtain ⟨outputs, scope', m', hlimit, hpassed⟩ := hpasses false hends
        exact (blockRun_of_passed hv hr hpassed hlimit true).1
    · intro v' m₂ hok hends
      cases hv.symm.trans hok
      obtain ⟨outputs, scope', m', hlimit, hpassed⟩ := hpasses false hends
      obtain ⟨-, hscope, hmachine, hlines⟩ := blockRun_of_passed hv hr hpassed hlimit false
      obtain ⟨-, hscope', hmachine', hlines'⟩ := blockRun_of_passed hv hr hpassed hlimit true
      refine ⟨r, m₁, outputs, hr, ?_, hlines, hlines', hscope'.trans hscope.symm,
        hmachine'.trans hmachine.symm⟩
      rwa [hscope, hmachine]

end Blocks

/-! ## A block without elements -/

/-- That a block that drops repeated passes always hands out the lines of the same passes without
those that repeat the one before, and ends with the same scope. -/
def AlwaysOnlyRepeatsDropped : Prop :=
  ∀ (e : Evaluator) (limit : Nat) (name : Option String) (text : String) (ns : List Node)
    (s : Session), (blockRun e limit name text ns s false).2.1 = none →
    ∃ outputs, OnlyRepeatsDropped outputs (blockRun e limit name text ns s false)
      (blockRun e limit name text ns s true)

/-- Where the elements cannot be found, the two heads are recorded, which differ by their signs. -/
theorem not_alwaysOnlyRepeatsDropped : ¬AlwaysOnlyRepeatsDropped := by
  intro halways
  obtain ⟨outputs, hdropped⟩ :=
    halways (.table [] [("xs", .fault .badValue "boom")]) 1 none "xs" [] { scope := {} } rfl
  have herrors := congrArg Scope.errors hdropped.scope
  have hsigns : ["<<</ xs: boom"] = ["<<< xs: boom"] := herrors
  exact absurd hsigns (by decide)

end Stencil
