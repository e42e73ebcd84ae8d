import Stencil.Expr.Evaluator
import Stencil.Proofs.Drawing
/-!
# Stencil.Proofs.Showing -- why a value has no text

The text of a value shows everything in it, and there are two things that cannot be shown: an integer
with too many digits, and what is nested too deep. Nothing else can go wrong when a text is made.
-/

namespace Stencil.Expr

variable {α β : Type} {f : Failure} {p q : Failure → Prop}

/-! ## Actions that fail in few ways -/

theorem ofExcept_eq_error_iff {x : Except Failure α} {m m' : Machine} :
    Expr.ofExcept x m = .error f m' ↔ x = .error f ∧ m = m' := by
  cases x with
  | ok a => exact iff_of_false (fun h => nomatch h) (fun h => nomatch h.1)
  | error g =>
    constructor
    · rintro ⟨⟩
      exact ⟨rfl, rfl⟩
    · rintro ⟨⟨⟩, rfl⟩
      rfl

/-- Whatever an action fails with has a property. -/
def FailsOnly (p : Failure → Prop) (a : Act α) : Prop := ∀ m f m', a m = .error f m' → p f

namespace FailsOnly

variable {a : Act α}

theorem mono (h : FailsOnly p a) (hpq : ∀ f, p f → q f) : FailsOnly q a :=
  fun m f m' hfails => hpq f (h m f m' hfails)

theorem of_ok (h : ∀ m, ∃ v m', a m = .ok v m') : FailsOnly p a := by
  intro m f m' hfails
  obtain ⟨v, m₁, hok⟩ := h m
  rw [hok] at hfails
  cases hfails

theorem pure (v : α) : FailsOnly p (pure v : Act α) := of_ok fun m => ⟨v, m, rfl⟩

theorem throw (h : p f) : FailsOnly p (throw f : Act α) := by
  rintro m g m' ⟨⟩
  exact h

theorem bind {k : α → Act β} (ha : FailsOnly p a) (hk : ∀ v, FailsOnly p (k v)) :
    FailsOnly p (a >>= k) := by
  intro m f m' h
  rcases bind_eq_error_iff.mp h with h | ⟨v, m₁, -, h⟩
  · exact ha m f m' h
  · exact hk v m₁ f m' h

theorem ite {c : Prop} [Decidable c] {a' : Act α} (ha : FailsOnly p a) (ha' : FailsOnly p a') :
    FailsOnly p (if c then a else a') := by
  split
  · exact ha
  · exact ha'

theorem ofExcept {x : Except Failure α} (h : ∀ f, x = .error f → p f) :
    FailsOnly p (Expr.ofExcept x) := by
  intro m f m' hfails
  exact h f (ofExcept_eq_error_iff.mp hfails).1

theorem listItems (r : Ref) : FailsOnly p (listItems r) := of_ok fun m => by
  obtain ⟨items, h, -⟩ := listItems_apply r m
  exact ⟨items, m, h⟩

theorem dictEntries (r : Ref) : FailsOnly p (dictEntries r) := of_ok fun m => by
  obtain ⟨t, h⟩ := dictTable_apply r m
  exact ⟨t.entries, m, bind_of_ok h⟩

theorem setMembers (r : Ref) : FailsOnly p (setMembers r) := of_ok fun m => by
  obtain ⟨t, h, -⟩ := setTable_apply r m
  exact ⟨t.members, m, bind_of_ok h⟩

end FailsOnly

/-! ## Texts of values -/

/-- What the text of a value fails with: the value holds an integer with too many digits, or it is
nested too deep. -/
def Unshowable (f : Failure) : Prop :=
  f = Number.tooManyDigits ∨
    f = .fault .recursion "maximum recursion depth exceeded while getting the repr of an object"

theorem Unshowable.message_ne (h : Unshowable f) : f.message ≠ "" := by
  rcases h with rfl | rfl <;> decide

theorem Unshowable.eq_fault (h : Unshowable f) : ∃ kind message, f = .fault kind message := by
  rcases h with rfl | rfl <;> exact ⟨_, _, rfl⟩

theorem Unshowable.ne_expression (h : Unshowable f) (text reason : String) :
    f ≠ .expression text reason := by
  rcases h with rfl | rfl <;> exact nofun

theorem integerText_eq_error {i : Int} (h : Number.integerText i = .error f) :
    f = Number.tooManyDigits := by
  unfold Number.integerText at h
  by_cases hlarge : Nat.log2 i.natAbs ≥ 14285
  · rw [if_pos hlarge] at h
    exact (Except.error.inj h).symm
  · rw [if_neg hlarge] at h
    dsimp only at h
    by_cases hlong : (Nat.toDigits 10 i.natAbs).length > Number.digitLimit
    · rw [if_pos hlong] at h
      exact (Except.error.inj h).symm
    · rw [if_neg hlong] at h
      cases h

theorem unshowable_integerText (i : Int) :
    FailsOnly Unshowable (Expr.ofExcept (Number.integerText i)) :=
  .ofExcept fun _ h => .inl (integerText_eq_error h)

mutual

theorem unshowable_showWithin (fuel : Nat) (outer : List Ref) (v : Value) :
    FailsOnly Unshowable (showWithin fuel outer v) := by
  cases fuel with
  | zero =>
    unfold showWithin
    exact .throw (.inr rfl)
  | succ fuel =>
    have hone := unshowable_showWithin fuel
    have hall := unshowable_showAllWithin fuel
    have hentries := unshowable_showEntriesWithin fuel
    unfold showWithin
    cases v with
    | int i => exact unshowable_integerText i
    | tuple items =>
      match items with
      | [x] => exact (hone outer x).bind fun _ => .pure _
      | [] | _ :: _ :: _ => exact (hall outer _).bind fun _ => .pure _
    | range start stop step =>
      refine (unshowable_integerText start).bind fun _ => (unshowable_integerText stop).bind fun _ => ?_
      split
      · exact .pure _
      · exact (unshowable_integerText step).bind fun _ => .pure _
    | slice a b c => exact (hall outer [a, b, c]).bind fun _ => .pure _
    | list r =>
      refine .ite (.pure _) ?_
      exact (FailsOnly.listItems r).bind fun _ => (hall _ _).bind fun _ => .pure _
    | dict r =>
      refine .ite (.pure _) ?_
      exact (FailsOnly.dictEntries r).bind fun _ => (hentries _ _).bind fun _ => .pure _
    | set r =>
      refine .ite (.pure _) ((FailsOnly.setMembers r).bind fun _ => .ite (.pure _) ?_)
      exact (hall _ _).bind fun _ => .pure _
    | view kind r =>
      refine .ite (.pure _) ?_
      exact (FailsOnly.dictEntries r).bind fun _ => (hall _ _).bind fun _ => .pure _
    | _ => exact .pure _

theorem unshowable_showAllWithin (fuel : Nat) (outer : List Ref) (vs : List Value) :
    FailsOnly Unshowable (showAllWithin fuel outer vs) := by
  cases fuel with
  | zero =>
    unfold showAllWithin
    exact .throw (.inr rfl)
  | succ fuel =>
    have hone := unshowable_showWithin fuel
    induction vs with
    | nil =>
      unfold showAllWithin
      exact .pure _
    | cons v vs ih =>
      unfold showAllWithin
      exact (hone outer v).bind fun _ => ih.bind fun _ => .pure _

theorem unshowable_showEntriesWithin (fuel : Nat) (outer : List Ref) (es : List Entry) :
    FailsOnly Unshowable (showEntriesWithin fuel outer es) := by
  cases fuel with
  | zero =>
    unfold showEntriesWithin
    exact .throw (.inr rfl)
  | succ fuel =>
    have hone := unshowable_showWithin fuel
    induction es with
    | nil =>
      unfold showEntriesWithin
      exact .pure _
    | cons x es ih =>
      unfold showEntriesWithin
      exact (hone outer x.shown).bind fun _ => (hone outer x.value).bind fun _ =>
        ih.bind fun _ => .pure _

end

/-- **A value has a text, or one of two things stands in the way.** -/
theorem unshowable_quotedValue (v : Value) : FailsOnly Unshowable (quotedValue v) :=
  unshowable_showWithin _ [] v

theorem unshowable_asText (v : Value) : FailsOnly Unshowable (asText v) := by
  unfold asText
  split
  · exact .pure _
  · unfold plainText
    split
    · exact .pure _
    · exact unshowable_quotedValue _

end Stencil.Expr
