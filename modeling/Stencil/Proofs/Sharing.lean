import Mathlib.Data.List.Nodup
import Stencil.Proofs.Groups
/-!
# Stencil.Proofs.Sharing -- frames that refer to their groups

A group of rules can stand at a place of its own and be changed there. A frame then knows the places
of its groups, in their order, and apart from them the place of the group that takes rules. Nothing
about such a frame says that it takes rules in a group that it lists, or that no other frame lists
the same group; and levels of bindings and of rules are opened and closed one after the other.

All the same the group that takes rules is always the last one that its frame lists, no place is
listed twice, and what stands at the places is what a scope has in its frames. So both are as good as
one list of groups.
-/

namespace Stencil

open Stencil.Expr Render

/-! ## Groups at places -/

/-- The group at a place. -/
def groupAt (places : List (List Rule)) (i : Nat) : List Rule := places[i]?.getD []

section Places

variable {places : List (List Rule)} {i j : Nat}

theorem groupAt_append (h : i < places.length) : groupAt (places ++ [[]]) i = groupAt places i := by
  rw [groupAt, List.getElem?_append_left h, groupAt]

theorem groupAt_length : groupAt (places ++ [[]]) places.length = [] := by
  rw [groupAt, List.getElem?_concat_length, Option.getD_some]

theorem groupAt_modify_self (f : List Rule → List Rule) (h : i < places.length) :
    groupAt (places.modify i f) i = f (groupAt places i) := by
  rw [groupAt, groupAt, List.getElem?_modify_eq, List.getElem?_eq_getElem h]
  rfl

theorem groupAt_modify_ne (f : List Rule → List Rule) (h : i ≠ j) :
    groupAt (places.modify i f) j = groupAt places j := by
  rw [groupAt, groupAt, List.getElem?_modify_ne f places h]

end Places

/-- A frame that refers to its groups by their places. -/
structure PlacedFrame where
  members : List Nat
  /-- The place of the group that takes rules. -/
  current : Nat
  deriving DecidableEq, Repr

namespace PlacedFrame

/-- Take rules at a place from now on, and list it. -/
def turnTo (f : PlacedFrame) (i : Nat) : PlacedFrame := ⟨f.members ++ [i], i⟩

/-- The frame with the groups themselves: those listed, the last one left out, and the one that takes
rules. -/
def read (places : List (List Rule)) (f : PlacedFrame) : Frame :=
  ⟨f.members.dropLast.map (groupAt places), groupAt places f.current⟩

/-- Apply the groups listed, one after the other. -/
def apply (e : Evaluator) (b : Bindings) (places : List (List Rule)) (o : Outcome)
    (f : PlacedFrame) : Act Outcome :=
  f.members.foldlM (fun o i => (groupOf (groupAt places i)).apply e b o) o

/-- The group that takes rules is the last one listed. -/
def Faithful (f : PlacedFrame) : Prop := f.members.getLast? = some f.current

namespace Faithful

variable {f : PlacedFrame} {places places' : List (List Rule)}

theorem members_eq (h : f.Faithful) : f.members = f.members.dropLast ++ [f.current] :=
  (List.dropLast_append_getLast? f.current h).symm

theorem current_mem (h : f.Faithful) : f.current ∈ f.members := List.mem_of_getLast? h

/-- The groups of a frame are at all places listed. -/
theorem groups_read (h : f.Faithful) :
    (f.read places).groups = f.members.map (groupAt places) :=
  calc (f.read places).groups
      = (f.members.dropLast ++ [f.current]).map (groupAt places) := by rw [List.map_append]; rfl
    _ = f.members.map (groupAt places) := by rw [← h.members_eq]

/-- What a frame is does not depend on what is at other places. -/
theorem read_congr (h : f.Faithful)
    (hsame : ∀ i ∈ f.members, groupAt places' i = groupAt places i) :
    f.read places' = f.read places := by
  rw [read, read, hsame f.current h.current_mem, Frame.mk.injEq]
  exact ⟨List.map_congr_left fun i hi => hsame i (List.dropLast_subset _ hi), rfl⟩

/-- Going from place to place is going through the groups. -/
theorem apply_eq (h : f.Faithful) (e : Evaluator) (b : Bindings) (o : Outcome) :
    f.apply e b places o = (f.read places).substitution.apply e b o := by
  rw [Frame.substitution, Substitution.apply, h.groups_read, applyAll_eq_foldlM, List.foldlM_map]
  rfl

end Faithful

theorem foldlM_apply {places : List (List Rule)} {fs : List PlacedFrame}
    (h : ∀ f ∈ fs, f.Faithful) (e : Evaluator) (b : Bindings) (o : Outcome) :
    fs.foldlM (fun o f => f.apply e b places o) o =
      Substitution.applyAll e b ((fs.map (·.read places)).map Frame.substitution) o := by
  induction fs generalizing o with
  | nil => rfl
  | cons f fs ih =>
    have hrest : ∀ g ∈ fs, g.Faithful := fun g hg => h g (.tail _ hg)
    rw [List.foldlM_cons, (h f (.head _)).apply_eq, List.map_cons, List.map_cons,
      Substitution.applyAll]
    exact congrArg _ (funext fun o' => ih hrest o')

theorem faithful_turnTo (f : PlacedFrame) (i : Nat) : (f.turnTo i).Faithful :=
  List.getLast?_concat ..

end PlacedFrame

/-! ## Scopes with groups at places -/

/-- The layers around the innermost one; one layer is always left. -/
def Expr.Bindings.parents (b : Bindings) : Bindings :=
  match b.outer with
  | [] => {}
  | l :: ls => ⟨l, ls⟩

/-- A scope whose groups are changed where they stand. -/
structure PlacedScope where
  bindings : Bindings := {}
  /-- All groups that have been made, also those that no frame refers to any more. -/
  places : List (List Rule) := []
  /-- All frames, the innermost first. -/
  frames : List PlacedFrame := []
  errors : List String := []

namespace PlacedScope

/-- How many levels are open. -/
def depth (p : PlacedScope) : Nat := p.frames.length - 1

/-- All groups, in the order in which lines go through them. -/
def allGroups (p : PlacedScope) : List (List Rule) :=
  p.frames.flatMap fun f => f.members.map (groupAt p.places)

/-- The groups that hold rules. -/
def groups (p : PlacedScope) : List (List Rule) :=
  p.frames.flatMap fun f => (f.members.map (groupAt p.places)).filter (!·.isEmpty)

/-- Record an error. -/
def error (p : PlacedScope) (message : String) : PlacedScope :=
  { p with errors := p.errors ++ [message] }

/-- Open a frame that takes rules in a new group. -/
def openFrame (p : PlacedScope) : PlacedScope :=
  { p with
    places := p.places ++ [[]]
    frames := PlacedFrame.turnTo ⟨[], 0⟩ p.places.length :: p.frames }

/-- A scope with bindings of its own and no rules. -/
def ofLayer (l : Layer) : PlacedScope := ({ bindings := ⟨l, []⟩ } : PlacedScope).openFrame

/-- Make a group for the innermost frame, unless the one that takes rules is still empty. -/
def newGroup (p : PlacedScope) : PlacedScope :=
  match p.frames with
  | [] => p
  | f :: fs =>
    if (groupAt p.places f.current).isEmpty then p
    else { p with places := p.places ++ [[]], frames := f.turnTo p.places.length :: fs }

/-- Put a rule in the group that takes rules, where it stands. -/
def add (p : PlacedScope) (r : Rule) : PlacedScope :=
  match p.frames with
  | [] => p
  | f :: _ => { p with places := p.places.modify f.current (· ++ [r]) }

/-- Add a rule in a group of its own. -/
def addAlone (p : PlacedScope) (r : Rule) : PlacedScope := p.newGroup.add r

/-- Add the rules for blanks. -/
def normalizeSpaces (p : PlacedScope) : PlacedScope :=
  (Scope.spacing.foldl addAlone p).newGroup

/-- Open a level: first of bindings, then of rules. -/
def enter (p : PlacedScope) : PlacedScope :=
  { p with bindings := p.bindings.push [] }.openFrame

/-- Close a level: first of rules, then of bindings. -/
def leave (p : PlacedScope) : PlacedScope :=
  { p with frames := p.frames.tail, bindings := p.bindings.parents }

/-- Bind a variable in the innermost layer. -/
def bind (p : PlacedScope) (name : String) (v : Value) : PlacedScope :=
  { p with bindings := p.bindings.put name v }

/-- Send a text through all frames. -/
def filterOrFail (p : PlacedScope) (e : Evaluator) (text : String) : Act Outcome :=
  p.frames.foldlM (fun o f => f.apply e p.bindings p.places o) (Outcome.initial text)

/-- Send a text through the rules. A pattern that cannot be used is recorded as an error and shown
instead of the line. -/
def filter (p : PlacedScope) (e : Evaluator) (text : String) : Act (Outcome × PlacedScope) :=
  tryCatch (do return (← p.filterOrFail e text, p)) fun f =>
    return (⟨false, diagnostic f.message⟩, p.error f.messageOrKind)

/-- No pattern fails of the rules that a text comes to. -/
def PatternsHold (p : PlacedScope) (e : Evaluator) (text : String) (m : Machine) : Prop :=
  ∀ q, Comes e p.bindings p.allGroups (Outcome.initial text) m q →
    ∃ hits m', q.rule.matchesIn e p.bindings q.outcome.text q.machine = .ok hits m'

end PlacedScope

/-! ## Frames that are well placed -/

/-- Each frame takes rules in the last group that it lists, the groups have been made, and no place is
listed twice. -/
structure WellPlaced (places : List (List Rule)) (fs : List PlacedFrame) : Prop where
  faithful : ∀ f ∈ fs, f.Faithful
  inside : ∀ f ∈ fs, ∀ i ∈ f.members, i < places.length
  apart : (fs.flatMap (·.members)).Nodup

namespace WellPlaced

variable {places : List (List Rule)} {f : PlacedFrame} {fs : List PlacedFrame}

theorem tail (h : WellPlaced places (f :: fs)) : WellPlaced places fs where
  faithful g hg := h.faithful g (.tail _ hg)
  inside g hg := h.inside g (.tail _ hg)
  apart := List.Nodup.of_append_right h.apart

/-- The place of the next group is not listed yet. -/
theorem fresh (h : WellPlaced places fs) : places.length ∉ fs.flatMap (·.members) := by
  intro hmem
  obtain ⟨f, hf, hi⟩ := List.mem_flatMap.mp hmem
  exact Nat.lt_irrefl _ (h.inside f hf _ hi)

/-- A group that is made leaves those of the frames as they are. -/
theorem read_append (h : WellPlaced places fs) :
    fs.map (·.read (places ++ [[]])) = fs.map (·.read places) :=
  List.map_congr_left fun f hf =>
    (h.faithful f hf).read_congr fun i hi => groupAt_append (h.inside f hf i hi)

/-- A frame may be turned to a group that has just been made. -/
theorem turnTo (hfs : WellPlaced places fs) (hinside : ∀ i ∈ f.members, i < places.length)
    (hapart : (f.members ++ fs.flatMap (·.members)).Nodup) :
    WellPlaced (places ++ [[]]) (f.turnTo places.length :: fs) where
  faithful g hg := by
    rcases List.mem_cons.mp hg with rfl | hg
    · exact f.faithful_turnTo _
    · exact hfs.faithful g hg
  inside g hg i hi := by
    rw [List.length_append, List.length_singleton, Nat.lt_succ_iff]
    rcases List.mem_cons.mp hg with rfl | hg
    · rcases List.mem_append.mp hi with hi | hi
      · exact Nat.le_of_lt (hinside i hi)
      · exact Nat.le_of_eq (List.mem_singleton.mp hi)
    · exact Nat.le_of_lt (hfs.inside g hg i hi)
  apart := by
    rw [List.flatMap_cons, PlacedFrame.turnTo, List.append_assoc]
    refine List.perm_middle.nodup_iff.mpr (List.nodup_cons.mpr ⟨fun hmem => ?_, hapart⟩)
    rcases List.mem_append.mp hmem with hmem | hmem
    · exact Nat.lt_irrefl _ (hinside _ hmem)
    · exact hfs.fresh hmem

/-- A frame that is turned to a group that has just been made has all groups of before, and takes
rules in one that is empty. -/
theorem read_turnTo (hfaithful : f.Faithful) (hinside : ∀ i ∈ f.members, i < places.length) :
    (f.turnTo places.length).read (places ++ [[]]) = ⟨(f.read places).groups, []⟩ := by
  rw [PlacedFrame.read, PlacedFrame.turnTo, groupAt_length, List.dropLast_concat,
    hfaithful.groups_read, List.map_congr_left fun i hi => groupAt_append (hinside i hi)]

/-- A group may be changed where it stands. -/
theorem modify (h : WellPlaced places fs) (i : Nat) (g : List Rule → List Rule) :
    WellPlaced (places.modify i g) fs where
  faithful := h.faithful
  inside f hf j hj := by
    rw [List.length_modify]
    exact h.inside f hf j hj
  apart := h.apart

/-- A rule that is put in the group that takes rules is put in the last group of its frame, -/
theorem read_modify_current (h : WellPlaced places (f :: fs)) (r : Rule) :
    f.read (places.modify f.current (· ++ [r])) = (f.read places).add r := by
  have hfaithful : f.Faithful := h.faithful f (.head _)
  have hmembers : f.members.Nodup := List.Nodup.of_append_left h.apart
  -- The place is listed at the end, and so nowhere else.
  rw [hfaithful.members_eq] at hmembers
  have hother : ∀ i ∈ f.members.dropLast, f.current ≠ i := by
    rintro i hi rfl
    exact List.disjoint_of_nodup_append hmembers hi (.head _)
  rw [PlacedFrame.read, groupAt_modify_self _ (h.inside f (.head _) _ hfaithful.current_mem),
    List.map_congr_left fun i hi => groupAt_modify_ne _ (hother i hi)]
  rfl

/-- and in no group of another frame. -/
theorem read_modify_others (h : WellPlaced places (f :: fs)) (r : Rule) :
    fs.map (·.read (places.modify f.current (· ++ [r]))) = fs.map (·.read places) := by
  have hcurrent : f.current ∈ f.members := (h.faithful f (.head _)).current_mem
  refine List.map_congr_left fun g hg => (h.tail.faithful g hg).read_congr fun i hi => ?_
  refine groupAt_modify_ne _ ?_
  rintro rfl
  exact List.disjoint_of_nodup_append h.apart hcurrent (List.mem_flatMap.mpr ⟨g, hg, hi⟩)

end WellPlaced

/-! ## What a scope keeps at its places -/

/-- The frames are well placed, and hold what a scope has. -/
structure PlacedScope.Keeps (p : PlacedScope) (s : Scope) : Prop where
  placed : WellPlaced p.places p.frames
  bindings : p.bindings = s.bindings
  frames : p.frames.map (·.read p.places) = s.frames
  errors : p.errors = s.errors

namespace PlacedScope.Keeps

variable {p : PlacedScope} {s : Scope}

theorem exists_frames (h : p.Keeps s) :
    ∃ f fs, p.frames = f :: fs ∧ f.read p.places = s.frame ∧
      fs.map (·.read p.places) = s.enclosing :=
  List.map_eq_cons_iff.mp h.frames

/-- A frame that is opened has no rules. -/
theorem openFrame {t : Scope} (hplaced : WellPlaced p.places p.frames)
    (hbindings : p.bindings = t.bindings) (herrors : p.errors = t.errors) (hframe : t.frame = {})
    (henclosing : p.frames.map (·.read p.places) = t.enclosing) : p.openFrame.Keeps t where
  placed := hplaced.turnTo (fun _ => nofun) hplaced.apart
  bindings := hbindings
  frames := by
    show Frame.mk [] (groupAt (p.places ++ [[]]) p.places.length) ::
      p.frames.map (·.read (p.places ++ [[]])) = t.frame :: t.enclosing
    rw [groupAt_length, hplaced.read_append, hframe, henclosing]
  errors := herrors

theorem error (h : p.Keeps s) (message : String) : (p.error message).Keeps (s.error message) where
  placed := h.placed
  bindings := h.bindings
  frames := h.frames
  errors := congrArg (· ++ [message]) h.errors

/-- Bindings may be changed alike. -/
theorem rebind (h : p.Keeps s) {b b' : Bindings} (hb : b = b') :
    ({ p with bindings := b } : PlacedScope).Keeps { s with bindings := b' } where
  placed := h.placed
  bindings := hb
  frames := h.frames
  errors := h.errors

theorem newGroup (h : p.Keeps s) : p.newGroup.Keeps s.newGroup := by
  obtain ⟨f, fs, hframes, hframe, henclosing⟩ := h.exists_frames
  have hplaced : WellPlaced p.places (f :: fs) := hframes ▸ h.placed
  have hcurrent : s.frame.current = groupAt p.places f.current := by rw [← hframe]; rfl
  rw [PlacedScope.newGroup, hframes, Scope.newGroup, Frame.newGroup, hcurrent]
  dsimp only
  by_cases hempty : (groupAt p.places f.current).isEmpty = true
  · rw [if_pos hempty, if_pos hempty]
    exact h
  · rw [if_neg hempty, if_neg hempty]
    refine ⟨hplaced.tail.turnTo (hplaced.inside f (.head _)) hplaced.apart, h.bindings, ?_, h.errors⟩
    rw [List.map_cons, hplaced.tail.read_append, henclosing, WellPlaced.read_turnTo
      (hplaced.faithful f (.head _)) (hplaced.inside f (.head _)), hframe, ← hcurrent]
    rfl

theorem add (h : p.Keeps s) (r : Rule) : (p.add r).Keeps (s.add r) := by
  obtain ⟨f, fs, hframes, hframe, henclosing⟩ := h.exists_frames
  have hplaced : WellPlaced p.places (f :: fs) := hframes ▸ h.placed
  rw [PlacedScope.add, hframes]
  dsimp only
  refine ⟨hplaced.modify _ _, h.bindings, ?_, h.errors⟩
  rw [List.map_cons, hplaced.read_modify_current, hplaced.read_modify_others, hframe,
    henclosing]
  rfl

theorem foldl_addAlone (h : p.Keeps s) (rules : List Rule) :
    (rules.foldl PlacedScope.addAlone p).Keeps (rules.foldl Scope.addAlone s) := by
  induction rules generalizing p s with
  | nil => exact h
  | cons r rules ih => exact ih (h.newGroup.add r)

theorem normalizeSpaces (h : p.Keeps s) : p.normalizeSpaces.Keeps s.normalizeSpaces :=
  (h.foldl_addAlone Scope.spacing).newGroup

theorem enter (h : p.Keeps s) : p.enter.Keeps s.enter :=
  openFrame h.placed (congrArg (·.push []) h.bindings) h.errors rfl h.frames

/-- Closing a level of each kind closes the level of the scope, where one is open. -/
theorem leave (h : p.Keeps s) (hs : s.Settled) (hdepth : 0 < s.depth) : p.leave.Keeps s.leave := by
  obtain ⟨f, fs, hframes, -, hfs⟩ := h.exists_frames
  have hplaced : WellPlaced p.places (f :: fs) := hframes ▸ h.placed
  obtain ⟨l, ls, g, gs, houter, henclosing⟩ := hs.exists_around hdepth
  rw [PlacedScope.leave, hframes, Scope.leave, houter, henclosing, Bindings.parents, h.bindings,
    houter]
  exact ⟨hplaced.tail, rfl, hfs.trans henclosing, h.errors⟩

/-- What stands at the places listed is what is in the groups of the scope. -/
theorem flatMap_groups {β : Type} (h : p.Keeps s) (g : List (List Rule) → List β) :
    (p.frames.flatMap fun f => g (f.members.map (groupAt p.places))) =
      s.frames.flatMap fun f => g f.groups := by
  rw [← h.frames, List.flatMap_map]
  refine List.flatMap_congr fun f hf => ?_
  rw [(h.placed.faithful f hf).groups_read]

theorem allGroups (h : p.Keeps s) : p.allGroups = s.allGroups := h.flatMap_groups id

theorem groups (h : p.Keeps s) : p.groups = s.groups :=
  h.flatMap_groups (List.filter (!·.isEmpty))

theorem filterOrFail (h : p.Keeps s) (e : Evaluator) (text : String) :
    p.filterOrFail e text = s.filterOrFail e text := by
  rw [PlacedScope.filterOrFail, PlacedFrame.foldlM_apply h.placed.faithful, h.frames, h.bindings]
  rfl

theorem patternsHold_iff (h : p.Keeps s) {e : Evaluator} {text : String} {m : Machine} :
    p.PatternsHold e text m ↔ s.PatternsHold e text m := by
  rw [PlacedScope.PatternsHold, h.allGroups, h.bindings]
  rfl

end PlacedScope.Keeps

namespace PlacedScope

variable {p : PlacedScope} {e : Evaluator} {text : String} {o : Outcome} {f : Failure}
  {m m' : Machine}

theorem filter_ok (h : p.filterOrFail e text m = .ok o m') :
    p.filter e text m = .ok (o, p) m' :=
  tryCatch_of_ok (bind_of_ok h)

theorem filter_error (h : p.filterOrFail e text m = .error f m') :
    p.filter e text m = .ok (⟨false, diagnostic f.message⟩, p.error f.messageOrKind) m' :=
  tryCatch_of_error (bind_of_error h)

end PlacedScope

/-! ## Sessions with groups at places -/

/-- A scope with groups at places in the middle of passes, the machine, and how many passes there are
to leave. -/
structure PlacedUnderway where
  scope : PlacedScope
  machine : Machine := {}
  passes : Nat := 0

namespace PlacedUnderway

/-- A new scope with bindings of its own. -/
def start (l : Layer) (m : Machine) : PlacedUnderway := ⟨.ofLayer l, m, 0⟩

/-- Change the scope. -/
def change (u : PlacedUnderway) (f : PlacedScope → PlacedScope) : PlacedUnderway :=
  { u with scope := f u.scope }

/-- Enter a pass. Where the element has no text, what has been opened and bound stays. -/
def enter (name : Option String) (v : Value) (u : PlacedUnderway) : PlacedUnderway :=
  let opened := u.change PlacedScope.enter
  let name := name.getD ""
  if name = "" then { opened with passes := u.passes + 1 }
  else
    let bound := opened.change (·.bind name v)
    match asText v u.machine with
    | .ok shown m =>
      { bound.change (fun p => (p.add (Scope.placeholder name shown)).newGroup) with
        machine := m
        passes := u.passes + 1 }
    | .error _ m => { bound with machine := m }

/-- Do something with the scope. -/
def perform (e : Evaluator) (u : PlacedUnderway) : Operation → PlacedUnderway
  | .newGroup => u.change PlacedScope.newGroup
  | .add r => u.change (·.add r)
  | .normalizeSpaces => u.change PlacedScope.normalizeSpaces
  | .filter text =>
    match u.scope.filter e text u.machine with
    | .ok (_, p) m => { u with scope := p, machine := m }
    | .error _ m => { u with machine := m }
  | .execute text =>
    match e.execute u.scope.bindings text u.machine with
    | .ok (_, inner) m =>
      { u.change (fun p => { p with bindings := ⟨inner, p.bindings.outer⟩ }) with machine := m }
    | .error f m => { u.change (·.error ("!" ++ text ++ ": " ++ f.describe)) with machine := m }
  | .enter name v => u.enter name v
  | .leave =>
    match u.passes with
    | 0 => u
    | n + 1 => { u.change PlacedScope.leave with passes := n }

/-- Do several things with the scope, one after the other. -/
def performAll (e : Evaluator) (u : PlacedUnderway) (ops : List Operation) : PlacedUnderway :=
  ops.foldl (perform e) u

/-- A session with groups at places is in the same state as a session. -/
structure Keeps (p : PlacedUnderway) (u : Underway) : Prop where
  scope : p.scope.Keeps u.scope
  machine : p.machine = u.session.machine
  passes : p.passes = u.passes

namespace Keeps

variable {e : Evaluator} {p : PlacedUnderway} {u : Underway}

theorem start (l : Layer) (m : Machine) :
    (PlacedUnderway.start l m).Keeps (Underway.start l m) where
  scope := .openFrame ⟨nofun, nofun, .nil⟩ rfl rfl rfl rfl
  machine := rfl
  passes := rfl

theorem filter (h : p.Keeps u) (text : String) :
    (p.perform e (.filter text)).Keeps (u.perform e (.filter text)) := by
  have hsame := congrFun (h.scope.filterOrFail e text) p.machine
  rw [h.machine] at hsame
  rw [PlacedUnderway.perform, Underway.perform, h.machine]
  cases hrun : u.session.scope.filterOrFail e text u.session.machine with
  | ok o m =>
    rw [PlacedScope.filter_ok (hsame.trans hrun), filterLine_of_ok hrun]
    exact ⟨h.scope, rfl, h.passes⟩
  | error f m =>
    rw [PlacedScope.filter_error (hsame.trans hrun), filterLine_of_error hrun]
    exact ⟨h.scope.error f.messageOrKind, rfl, h.passes⟩

theorem execute (h : p.Keeps u) (text : String) :
    (p.perform e (.execute text)).Keeps (u.perform e (.execute text)) := by
  have hbindings : p.scope.bindings = u.session.scope.bindings := h.scope.bindings
  rw [PlacedUnderway.perform, Underway.perform, h.machine, hbindings]
  cases hrun : e.execute u.session.scope.bindings text u.session.machine with
  | ok r m =>
    obtain ⟨v, inner⟩ := r
    rw [executeNode_of_ok hrun]
    exact ⟨h.scope.rebind (by rw [hbindings]), rfl, h.passes⟩
  | error f m =>
    rw [executeNode_of_error hrun]
    exact ⟨h.scope.error _, rfl, h.passes⟩

theorem enter (h : p.Keeps u) (name : Option String) (v : Value) :
    (p.perform e (.enter name v)).Keeps (u.perform e (.enter name v)) := by
  have hopened : p.scope.enter.Keeps u.session.scope.enter := h.scope.enter
  have hpasses : p.passes + 1 = u.passes + 1 := congrArg (· + 1) h.passes
  rw [PlacedUnderway.perform, Underway.perform, PlacedUnderway.enter]
  by_cases hname : name.getD "" = ""
  · rw [if_pos hname, enterPass_of_unnamed hname]
    exact ⟨hopened, h.machine, hpasses⟩
  · have hbound : (p.scope.enter.bind (name.getD "") v).Keeps
        (u.session.scope.enter.bind (name.getD "") v) :=
      hopened.rebind (congrArg (·.put (name.getD "") v) hopened.bindings)
    rw [if_neg hname, h.machine]
    cases hv : asText v u.session.machine with
    | ok shown m =>
      rw [enterPass_of_ok hname hv]
      exact ⟨(hbound.add _).newGroup, rfl, hpasses⟩
    | error f m =>
      rw [enterPass_of_error hname hv]
      exact ⟨hbound, rfl, h.passes⟩

theorem leave (h : p.Keeps u) (hu : u.Settled) :
    (p.perform e .leave).Keeps (u.perform e .leave) := by
  have hpasses := hu.passes
  rw [PlacedUnderway.perform, Underway.perform, h.passes]
  cases hn : u.passes with
  | zero => exact h
  | succ n =>
    rw [hn] at hpasses
    have hdepth : 0 < u.scope.depth := Nat.lt_of_lt_of_le (Nat.succ_pos n) hpasses
    exact ⟨h.scope.leave hu.scope hdepth, h.machine, rfl⟩

/-- Whatever is done, groups at places stay those of the scope. -/
theorem perform (h : p.Keeps u) (hu : u.Settled) (op : Operation) :
    (p.perform e op).Keeps (u.perform e op) := by
  cases op with
  | newGroup => exact ⟨h.scope.newGroup, h.machine, h.passes⟩
  | add r => exact ⟨h.scope.add r, h.machine, h.passes⟩
  | normalizeSpaces => exact ⟨h.scope.normalizeSpaces, h.machine, h.passes⟩
  | filter text => exact h.filter text
  | execute text => exact h.execute text
  | enter name v => exact h.enter name v
  | leave => exact h.leave hu

theorem performAll (h : p.Keeps u) (hu : u.Settled) (ops : List Operation) :
    (p.performAll e ops).Keeps (u.performAll e ops) := by
  induction ops generalizing p u with
  | nil => exact h
  | cons op ops ih => exact ih (h.perform hu op) (hu.perform op)

end Keeps

end PlacedUnderway

/-! ## One list of groups -/

/-- The rules of a scope whose groups stand at places are as good as the list of its groups. -/
structure PlacedScope.Listed (p : PlacedScope) (e : Evaluator) : Prop where
  /-- Layers of bindings and frames of rules go together. -/
  layers : p.bindings.layers.length = p.depth + 1
  /-- The group of a frame that takes rules is the last one that it lists. -/
  current : ∀ f ∈ p.frames, f.members.getLast? = some f.current
  /-- The other groups of a frame hold rules. -/
  others : ∀ f ∈ p.frames, ∀ i ∈ f.members.dropLast, groupAt p.places i ≠ []
  /-- No group is listed twice, by one frame or by two. -/
  apart : (p.frames.flatMap (·.members)).Nodup
  /-- Where no pattern fails, a text fares as the groups that hold rules make it fare one after the
  other. -/
  filter : ∀ text m, p.PatternsHold e text m →
    ∃ o m', p.groups.foldlM (fun o g => (groupOf g).apply e p.bindings o) (Outcome.initial text) m =
        .ok o m' ∧
      p.filter e text m = .ok (o, p) m'

theorem PlacedScope.Keeps.listed {p : PlacedScope} {s : Scope} {e : Evaluator} (h : p.Keeps s)
    (hs : s.Listed e) : p.Listed e where
  layers := by
    have hdepth : p.depth = s.depth := by
      rw [PlacedScope.depth, ← List.length_map, h.frames]
      rfl
    rw [h.bindings, hs.layers, hdepth]
  current := h.placed.faithful
  others f hf i hi := by
    -- The groups listed before the last are the earlier ones of the frame that is read.
    have hread : f.read p.places ∈ s.frames := h.frames ▸ List.mem_map_of_mem hf
    refine hs.others _ hread _ ?_
    rw [Frame.groups, List.dropLast_concat]
    exact List.mem_map_of_mem hi
  apart := h.placed.apart
  filter text m hpatterns := by
    obtain ⟨o, m', hfold, -⟩ := hs.filter text m (h.patternsHold_iff.mp hpatterns)
    refine ⟨o, m', ?_, PlacedScope.filter_ok ?_⟩
    · rw [h.groups, h.bindings]
      exact hfold
    · rw [h.filterOrFail, Scope.filterOrFail_eq_groups, applyAll_eq_foldlM]
      exact hfold

/-- **Whatever has been done with a scope, its rules are as good as the list of its groups, and its
groups may be shared and changed where they stand.** It makes no difference how passes have been
entered and left, nor whether that has failed: each frame takes rules in the last group that it lists,
and what stands at the places is what the scope has. -/
theorem Underway.listed_and_kept (e : Evaluator) (l : Layer) (m : Machine) (ops : List Operation) :
    ((start l m).performAll e ops).scope.Listed e ∧
      ((PlacedUnderway.start l m).performAll e ops).scope.Listed e ∧
      ((PlacedUnderway.start l m).performAll e ops).Keeps ((start l m).performAll e ops) := by
  have hlisted := listed_performAll e l m ops
  have hkeeps := (PlacedUnderway.Keeps.start l m).performAll (e := e) (.start l m) ops
  exact ⟨hlisted, hkeeps.scope.listed hlisted, hkeeps⟩

end Stencil
