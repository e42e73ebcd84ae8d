import Stencil.Proofs.Matching
import Stencil.Proofs.Runs
/-!
# Stencil.Proofs.Edges -- runs between conditions

A pattern that repeats a class of characters takes whole runs, as far as the conditions before and
behind the repetition allow it: the repetition goes as far as it can, and giving characters back only
helps where the condition behind it could be met within the run. Such a condition is one on the
character that stands at the edge of the run, which nothing within the run meets.
-/

namespace Stencil

open Stencil.Expr Stencil.Text

/-! ## Runs that are long enough -/

/-- What replaces runs that are long enough and stand between certain characters. -/
def Touch.between (before : Option Char → Bool) (least : Nat) (behind : Option Char → Bool)
    (new : List Char) : Touch :=
  ⟨fun r => before r.before && least ≤ r.chars.length && behind r.behind, new⟩

section Between

variable {before behind : Option Char → Bool} {least : Nat} {new : List Char} {r : Run}

@[simp] theorem Touch.chooses_between : (between before least behind new).chooses r =
    (before r.before && least ≤ r.chars.length && behind r.behind) := rfl

@[simp] theorem Touch.on_between : (between before least behind new).on r =
    if before r.before && least ≤ r.chars.length && behind r.behind then new else r.chars := rfl

end Between

namespace Pattern

/-- Conditions on a place, which are met where the text before and behind it is such. -/
def Conditions (ns : List Node) (holds : List Char → List Char → Bool) : Prop :=
  ∀ (x : Subject) (t : Trail) (rest : List Node) (k : Next),
    followAll x (ns ++ rest) t k =
      if holds t.here.before t.here.after then followAll x rest t k else none

theorem conditions_nil : Conditions [] fun _ _ => true := fun _ _ _ _ => rfl

theorem conditions_lookAhead {items : List ClassItem} {q : Char → Bool}
    (hq : belongs false items {} = q) :
    Conditions [.look false false (.one false items {})] fun _ after => after.head?.any q := by
  intro x t rest k
  rw [List.singleton_append, followAll_cons, follow_lookAhead, Bool.bne_false, hq]

theorem conditions_lookBehind {items : List ClassItem} {q : Char → Bool}
    (hq : belongs false items {} = q) :
    Conditions [.look true false (.one false items {})] fun before _ => before.head?.any q := by
  intro x t rest k
  rw [List.singleton_append, followAll_cons, follow_lookBehind, Bool.bne_false, hq]

theorem conditions_lastLineEnd :
    Conditions [.anchor .lastLineEnd false] fun _ after => after.isEmpty || after == ['\n'] :=
  fun _ _ _ _ => rfl

/-- A condition on the end of a run: the character that stands there decides, and where it is not met
there it is not met within the run either. -/
structure Edge (p : Char → Bool) (holds : List Char → Bool) (behind : Option Char → Bool) :
    Prop where
  atEnd : ∀ r, (∀ c, r.head? = some c → p c = false) → holds r = behind r.head?
  within : ∀ w r, (∀ c ∈ w, p c = true) → (∀ c, r.head? = some c → p c = false) →
    holds r = false → holds (w ++ r) = false

/-- A repetition of a class between conditions takes runs: where the condition before it is met, it
goes to the end of the run, and when the condition behind it is not met there it is met nowhere. -/
theorem takesRuns_atLeast {P : Pattern} {p : Char → Bool} {n : Node} {ns ms : List Node}
    {least : Nat} {before : Option Char → Bool} {holds : List Char → Bool}
    {behind : Option Char → Bool} (hnode : P.node = .sequence (ns ++ atLeast least n :: ms))
    (hn : n.Takes p) (hleast : 0 < least) (hns : Conditions ns fun s _ => before s.head?)
    (hms : Conditions ms fun _ s => holds s) (hedge : Edge p holds behind) (new : List Char) :
    P.TakesRuns p (.between before least behind new) := by
  intro length advance c hlen
  have hfar : c.after.drop (run p c.after) = c.after.dropWhile p := drop_run p c.after
  have hstop := head?_dropWhile p c.after
  -- What follows the repetition.
  obtain ⟨k, hk⟩ : ∃ k : Next, k = fun t =>
      if advance && t.here.pos == c.pos then none else some t := ⟨_, rfl⟩
  have hend : run p c.after ≠ 0 → k (Trail.ahead ⟨c, []⟩ (run p c.after)) =
      some (Trail.ahead ⟨c, []⟩ (run p c.after)) := by
    intro hrun
    have hpos : (c.pos + run p c.after == c.pos) = false := by
      rw [beq_eq_false_iff_ne]
      omega
    rw [hk]
    show (if advance && c.pos + run p c.after == c.pos then none else some _) = _
    rw [hpos, Bool.and_false]
    rfl
  have hbehind : ∀ i, followAll ⟨length, P.widths⟩ ms (Trail.ahead ⟨c, []⟩ i) k =
      if holds (c.after.drop i) then k (Trail.ahead ⟨c, []⟩ i) else none := by
    intro i
    have hcond := hms ⟨length, P.widths⟩ (Trail.ahead ⟨c, []⟩ i) [] k
    rwa [List.append_nil] at hcond
  have hbefore : ∀ rest, followAll ⟨length, P.widths⟩ (ns ++ rest) ⟨c, []⟩ k =
      if before c.before.head? then followAll ⟨length, P.widths⟩ rest ⟨c, []⟩ k else none :=
    fun rest => hns _ _ rest k
  rw [Pattern.matchAt, hnode, follow_sequence, ← hk, hbefore, followAll_cons,
    follow_atLeast_of_edge _ least hn hlen, hbehind, hfar, hedge.atEnd _ hstop]
  · have hchooses : (Touch.between before least behind new).chooses (c.runAt p) =
        (before c.before.head? && least ≤ run p c.after &&
          behind (c.after.dropWhile p).head?) := rfl
    rw [hchooses]
    by_cases hlong : least ≤ run p c.after
    · rw [hend (by omega), if_pos hlong, decide_eq_true hlong, Bool.and_true]
      cases before c.before.head? <;> cases behind (c.after.dropWhile p).head? <;> rfl
    · rw [if_neg hlong, decide_eq_false hlong, Bool.and_false, Bool.false_and, ite_self]
      rfl
  · intro hnone i hi
    rw [hbehind, hfar] at hnone
    have hmet : holds (c.after.dropWhile p) = false := by
      by_contra hmet
      rw [if_pos (by simpa using hmet), hend (Nat.ne_zero_of_lt hi)] at hnone
      cases hnone
    rw [hbehind, ← List.takeWhile_append_dropWhile (p := p) (l := c.after.drop i),
      dropWhile_drop hi.le, if_neg]
    rw [hedge.within _ _ (fun _ => List.mem_takeWhile_imp) hstop hmet]
    exact Bool.false_ne_true

/-! ## Ends of runs -/

section Edges

variable {p : Char → Bool}

theorem edge_anywhere (p : Char → Bool) : Edge p (fun _ => true) fun _ => true :=
  ⟨fun _ _ => rfl, fun _ _ _ _ h => h⟩

theorem edge_lookAhead {q : Char → Bool} (hapart : ∀ c, p c = true → q c = false) :
    Edge p (fun s => s.head?.any q) fun b => b.any q where
  atEnd _ _ := rfl
  within w r hw _ hmet := by
    cases w with
    | nil => exact hmet
    | cons c w => exact hapart c (hw c List.mem_cons_self)

/-- Before a line feed at the end of the text, too, a run of blanks is not over. -/
theorem edge_lastLineEnd : Edge isBlank (fun s => s.isEmpty || s == ['\n']) fun b => b.isNone where
  atEnd r hr := by
    cases r with
    | nil => rfl
    | cons c r =>
      have hc : c ≠ '\n' := by
        rintro rfl
        exact absurd (hr '\n' rfl) (by decide)
      simp [hc]
  within w r _ _ hmet := by
    cases r with
    | nil => cases hmet
    | cons d r =>
      cases w with
      | nil => exact hmet
      | cons c w => simp

end Edges

end Pattern

theorem Touch.fair_between {p : Char → Bool} {before behind : Option Char → Bool} {least : Nat}
    (hbefore : ∀ c b, p c = true → before (some c) = true → before b = true) (hleast : 0 < least)
    (new : List Char) : (between before least behind new).Fair p where
  ne_nil b n := by simp [between, Nat.ne_zero_of_lt hleast]
  tail b c w n hc hnot := by
    rw [← Bool.not_eq_true] at hnot ⊢
    intro hchosen
    simp only [between, Bool.and_eq_true, decide_eq_true_eq] at hchosen
    obtain ⟨⟨hb, hlong⟩, hn⟩ := hchosen
    refine hnot ?_
    simp only [between, Bool.and_eq_true, decide_eq_true_eq]
    exact ⟨⟨hbefore c b hc hb, Nat.le_succ_of_le hlong⟩, hn⟩

end Stencil
