import Mathlib.Data.List.TakeWhile
import Stencil.Pattern.Match
/-!
# Stencil.Proofs.Matching -- how patterns go through a text

A pattern is matched by trying its choices in order and handing every place that it reaches to what
follows. For the parts of which most patterns consist the places are known beforehand: a class
passes one character or none, a word passes its letters, and a repetition of a class can stop
anywhere in the run of characters of the class, at the far end first when it is greedy and at the
near end first when it is lazy. So what a pattern matches can be told without following the trail.
-/

namespace Stencil.Pattern

open Stencil.Text

/-! ## Patterns compared -/

mutual

/-- Whether two patterns are the same. -/
def Node.same : Node → Node → Bool
  | .one negated items f, .one negated' items' f' =>
    negated == negated' && items == items' && f == f'
  | .any dotAll, .any dotAll' => dotAll == dotAll'
  | .anchor a ascii, .anchor a' ascii' => a == a' && ascii == ascii'
  | .sequence ns, .sequence ms => sameAll ns ms
  | .choice ns, .choice ms => sameAll ns ms
  | .loop least most greed n, .loop least' most' greed' m =>
    least == least' && most == most' && greed == greed' && n.same m
  | .group i n, .group j m => i == j && n.same m
  | .atomic n, .atomic m => n.same m
  | .look behind absent n, .look behind' absent' m =>
    behind == behind' && absent == absent' && n.same m
  | .again i f, .again j f' => i == j && f == f'
  | .conditional i yes no, .conditional j yes' no' => i == j && yes.same yes' && no.same no'
  | .never, .never => true
  | _, _ => false

/-- Whether two sequences of patterns are the same. -/
def sameAll : List Node → List Node → Bool
  | [], [] => true
  | n :: ns, m :: ms => n.same m && sameAll ns ms
  | _, _ => false

end

mutual

theorem Node.same_iff : ∀ {n m : Node}, n.same m = true ↔ n = m
  | .one .., m => by cases m <;> simp [Node.same, and_assoc]
  | .any _, m => by cases m <;> simp [Node.same]
  | .anchor .., m => by cases m <;> simp [Node.same]
  | .sequence ns, m => by cases m <;> simp [Node.same, @sameAll_iff ns]
  | .choice ns, m => by cases m <;> simp [Node.same, @sameAll_iff ns]
  | .loop _ _ _ n, m => by cases m <;> simp [Node.same, @Node.same_iff n, and_assoc]
  | .group _ n, m => by cases m <;> simp [Node.same, @Node.same_iff n]
  | .atomic n, m => by cases m <;> simp [Node.same, @Node.same_iff n]
  | .look _ _ n, m => by cases m <;> simp [Node.same, @Node.same_iff n, and_assoc]
  | .again .., m => by cases m <;> simp [Node.same]
  | .conditional _ yes no, m => by
    cases m <;> simp [Node.same, @Node.same_iff yes, @Node.same_iff no, and_assoc]
  | .never, m => by cases m <;> simp [Node.same]

theorem sameAll_iff : ∀ {ns ms : List Node}, sameAll ns ms = true ↔ ns = ms
  | [], [] => by simp [sameAll]
  | n :: ns, m :: ms => by simp [sameAll, @Node.same_iff n, @sameAll_iff ns]
  | [], _ :: _ => by simp [sameAll]
  | _ :: _, [] => by simp [sameAll]

end

/-- Patterns can be compared, so that what a pattern is read as can be checked. -/
instance : DecidableEq Node := fun n m => decidable_of_iff (n.same m = true) Node.same_iff

/-! ## Whole texts -/

/-- Accept a place at which nothing of the text is left. -/
def atEnd : Next := fun t => if t.here.after.isEmpty then some t else none

/-- The place before a text. -/
def outset (s : List Char) : Trail := ⟨{ after := s }, []⟩

/-- The match that a trail from the start of a text leads to. -/
def Trail.matched (s : List Char) (t : Trail) : Match := ⟨⟨(outset s).here, t.here⟩, t.groups⟩

/-- The match of a pattern with a whole text: the first one in the order in which choices are
tried. -/
def matchWhole (p : Pattern) (s : List Char) : Option Match :=
  (p.node.follow ⟨s.length, p.widths⟩ (outset s) atEnd).map (Trail.matched s)

/-- The first match of a pattern, given by its text, with a whole text. -/
def matchText? (pattern : String) (s : List Char) : Option Match :=
  (Pattern.ofText pattern.toList).toOption.bind fun p => p.matchWhole s

/-- A pattern is read as some parts, one after the other. -/
def ReadAs (pattern : String) (ns : List Node) : Prop :=
  (Pattern.ofText pattern.toList).map (·.node) = .ok (.sequence ns)

instance (pattern : String) (ns : List Node) : Decidable (ReadAs pattern ns) :=
  inferInstanceAs (Decidable (_ = _))

/-! ## Places further on -/

/-- Some characters further. -/
def Cursor.ahead (c : Cursor) (n : Nat) : Cursor :=
  ⟨c.pos + n, (c.after.take n).reverse ++ c.before, c.after.drop n⟩

theorem Cursor.ahead_ahead (c : Cursor) (m n : Nat) : (c.ahead m).ahead n = c.ahead (m + n) := by
  simp [ahead, Nat.add_assoc, List.take_add]

/-- The characters between a place and one further on. -/
theorem chars_ahead (c : Cursor) (n : Nat) : Span.chars ⟨c, c.ahead n⟩ = c.after.take n := by
  simp [Span.chars, Cursor.ahead]

/-- A trail that has gone some characters further. -/
def Trail.ahead (t : Trail) (n : Nat) : Trail := { t with here := t.here.ahead n }

/-- A trail on which a group has matched since a place. -/
def Trail.grouped (t : Trail) (i : Nat) (since : Trail) : Trail :=
  { t with groups := (i, ⟨since.here, t.here⟩) :: t.groups }

section Trails

variable (t : Trail)

@[simp] theorem Trail.ahead_zero : t.ahead 0 = t := rfl

@[simp] theorem Trail.ahead_ahead (m n : Nat) : (t.ahead m).ahead n = t.ahead (m + n) := by
  rw [ahead, ahead, ahead, Cursor.ahead_ahead]

@[simp] theorem Trail.after_ahead (n : Nat) : (t.ahead n).here.after = t.here.after.drop n := rfl

theorem Trail.length_ahead (n : Nat) :
    (t.ahead n).here.after.length = t.here.after.length - n := List.length_drop

theorem Trail.length_ahead_le (n : Nat) :
    (t.ahead n).here.after.length ≤ t.here.after.length := by
  rw [length_ahead]
  exact Nat.sub_le _ _

theorem Trail.after_ahead_one {t : Trail} {c : Char} {r : List Char}
    (h : t.here.after = c :: r) : (t.ahead 1).here.after = r := by
  rw [after_ahead, h, List.drop_one, List.tail_cons]

@[simp] theorem Trail.pos_ahead (n : Nat) : (t.ahead n).here.pos = t.here.pos + n := rfl

@[simp] theorem Trail.groups_ahead (n : Nat) : (t.ahead n).groups = t.groups := rfl

@[simp] theorem Trail.here_grouped (i : Nat) (since : Trail) :
    (t.grouped i since).here = t.here := rfl

@[simp] theorem Trail.groups_grouped (i : Nat) (since : Trail) :
    (t.grouped i since).groups = (i, ⟨since.here, t.here⟩) :: t.groups := rfl

@[simp] theorem after_outset (s : List Char) : (outset s).here.after = s := rfl

theorem atEnd_of_nil {t : Trail} (h : t.here.after = []) : atEnd t = some t := by
  rw [atEnd, h]
  rfl

theorem atEnd_ahead_length (t : Trail) :
    atEnd (t.ahead t.here.after.length) = some (t.ahead t.here.after.length) :=
  atEnd_of_nil List.drop_length

theorem atEnd_of_ne_nil {t : Trail} (h : t.here.after ≠ []) : atEnd t = none := by
  rw [atEnd, if_neg (by simpa using h)]

end Trails

/-! ## Sequences and groups -/

section Parts

variable (x : Subject) (t : Trail) (k : Next)

theorem follow_sequence (ns : List Node) :
    (Node.sequence ns).follow x t k = followAll x ns t k := rfl

theorem followAll_cons (n : Node) (ns : List Node) :
    followAll x (n :: ns) t k = n.follow x t fun t' => followAll x ns t' k := rfl

theorem followAll_nil : followAll x [] t k = k t := rfl

theorem follow_group (i : Nat) (body : Node) :
    (Node.group (some i) body).follow x t k = body.follow x t fun t' => k (t'.grouped i t) := rfl

theorem follow_plainGroup (body : Node) :
    (Node.group none body).follow x t k = body.follow x t k := rfl

theorem follow_anchor (a : Anchor) (ascii : Bool) :
    (Node.anchor a ascii).follow x t k = if a.holds ascii t.here then k t else none := rfl

theorem follow_choice (n m : Node) :
    (Node.choice [n, m]).follow x t k = (n.follow x t k).or (m.follow x t k) := by
  simp only [Node.follow, followAny]
  cases n.follow x t k with
  | some found => rfl
  | none => cases m.follow x t k <;> rfl

theorem follow_greedy (least most : Nat) (body : Node) :
    (Node.loop least most .greedy body).follow x t k =
      greedyRounds (body.follow x) least most k (x.rounds least) 0 none t := rfl

theorem follow_lazy (least most : Nat) (body : Node) :
    (Node.loop least most .lazy body).follow x t k =
      lazyRounds (body.follow x) least most k (x.rounds least) 0 none t := rfl

end Parts

/-- A pattern matches a whole text when its parts go to the end. -/
theorem ReadAs.exists_ofText {pattern : String} {ns : List Node} (h : ReadAs pattern ns) :
    ∃ p, Pattern.ofText pattern.toList = .ok p ∧ p.node = .sequence ns := by
  rw [ReadAs] at h
  cases hp : Pattern.ofText pattern.toList with
  | error e => rw [hp] at h; cases h
  | ok p =>
    rw [hp] at h
    exact ⟨p, rfl, Except.ok.inj h⟩

theorem ReadAs.matchText? {pattern : String} {ns : List Node} (h : ReadAs pattern ns)
    (s : List Char) : ∃ x : Subject, x.length = s.length ∧
      Pattern.matchText? pattern s = (followAll x ns (outset s) atEnd).map (Trail.matched s) := by
  obtain ⟨p, hp, hnode⟩ := h.exists_ofText
  refine ⟨⟨s.length, p.widths⟩, rfl, ?_⟩
  rw [Pattern.matchText?, hp, ← follow_sequence, ← hnode]
  rfl

/-! ## Classes and words -/

/-- A pattern that passes one character of a class. -/
def Node.Takes (n : Node) (p : Char → Bool) : Prop :=
  ∀ (x : Subject) (t : Trail) (k : Next), n.follow x t k =
    match t.here.after with
    | [] => none
    | c :: _ => if p c then k (t.ahead 1) else none

namespace Node.Takes

variable {n : Node} {p : Char → Bool} (h : n.Takes p) (x : Subject) {t : Trail} (k : Next)
include h

theorem of_holds {c : Char} {r : List Char} (hafter : t.here.after = c :: r) (hc : p c = true) :
    n.follow x t k = k (t.ahead 1) := by
  rw [h, hafter]
  exact if_pos hc

theorem of_not_holds (hafter : ∀ c, t.here.after.head? = some c → p c = false) :
    n.follow x t k = none := by
  rw [h]
  cases hs : t.here.after with
  | nil => rfl
  | cons c r => exact if_neg (by simp [hafter c (by rw [hs]; rfl)])

end Node.Takes

theorem takes_one (negated : Bool) (items : List ClassItem) (f : Flags) :
    (Node.one negated items f).Takes (belongs negated items f) := by
  intro x t k
  simp only [Node.follow, Cursor.forward]
  cases h : t.here.after <;> simp [Trail.ahead, Cursor.ahead, h]

theorem takes_dot (dotAll : Bool) : (Node.any dotAll).Takes fun c => dotAll || c != '\n' := by
  intro x t k
  simp only [Node.follow, Cursor.forward]
  cases h : t.here.after <;> simp [Trail.ahead, Cursor.ahead, h]

theorem takes_any : (Node.any false).Takes (· != '\n') := takes_dot false

/-- The pattern that passes a sign. -/
def sign (c : Char) : Node := .one false [.char c.toNat] {}

theorem belongs_sign (c : Char) : belongs false [.char c.toNat] {} = (· == c) := by
  funext d
  rw [Bool.eq_iff_iff]
  simp [belongs, Flags.forms, ClassItem.holds, Char.toNat_inj]

theorem takes_sign (c : Char) : (sign c).Takes (· == c) := by
  rw [← belongs_sign]
  exact takes_one _ _ _

/-- A word is passed when the text goes on with it. -/
theorem followAll_word (x : Subject) (w : List Char) (ns : List Node) (t : Trail) (k : Next) :
    followAll x (w.map sign ++ ns) t k =
      (afterPrefix? w t.here.after).bind fun _ => followAll x ns (t.ahead w.length) k := by
  induction w generalizing t with
  | nil => simp [afterPrefix?]
  | cons c w ih =>
    rw [List.map_cons, List.cons_append, followAll_cons]
    cases h : t.here.after with
    | nil => simp [(takes_sign c).of_not_holds x _ (t := t) (by simp [h]), afterPrefix?]
    | cons d r =>
      by_cases hd : c = d
      · have hdrop := Trail.after_ahead_one h
        rw [(takes_sign c).of_holds x _ h (by simp [hd]), ih, hdrop, Trail.ahead_ahead]
        simp [hd, Nat.add_comm, afterPrefix?]
      · rw [(takes_sign c).of_not_holds x _ (by simpa [h] using Ne.symm hd)]
        simp [hd, afterPrefix?]

/-! ## Conditions -/

section Conditions

variable (x : Subject) (t : Trail) (absent negated : Bool) (items : List ClassItem) (f : Flags)
  (k : Next)

/-- A condition on the character behind a place. -/
theorem follow_lookAhead :
    (Node.look false absent (.one negated items f)).follow x t k =
      if t.here.after.head?.any (belongs negated items f) != absent then k t else none := by
  have hbody := takes_one negated items f x t some
  simp only [Node.follow, Option.bind_some, Bool.false_eq_true, if_false] at hbody ⊢
  rw [hbody]
  cases t.here.after with
  | nil => cases absent <;> rfl
  | cons c r => cases hc : belongs negated items f c <;> cases absent <;> simp [hc]

/-- A condition on the character before a place. -/
theorem follow_lookBehind :
    (Node.look true absent (.one negated items f)).follow x t k =
      if t.here.before.head?.any (belongs negated items f) != absent then k t else none := by
  obtain ⟨⟨pos, before, after⟩, groups⟩ := t
  cases before with
  | nil => cases absent <;> rfl
  | cons c r =>
    have hbody := takes_one negated items f x ⟨⟨pos - 1, r, c :: after⟩, groups⟩ some
    have hback : (Cursor.mk pos (c :: r) after).back 1 = some ⟨pos - 1, r, c :: after⟩ := rfl
    simp only [Node.follow, if_true, Node.width, hback, Option.bind_some] at hbody ⊢
    rw [hbody]
    cases hc : belongs negated items f c <;> cases absent <;> simp [hc]

end Conditions

/-! ## Repetitions of a class -/

/-- How long the run of characters of a class is with which a text goes on. -/
def run (p : Char → Bool) (s : List Char) : Nat := (s.takeWhile p).length

theorem run_le (p : Char → Bool) (s : List Char) : run p s ≤ s.length :=
  (List.takeWhile_sublist p).length_le

theorem drop_run (p : Char → Bool) (s : List Char) : s.drop (run p s) = s.dropWhile p :=
  (congrArg (List.drop _) List.takeWhile_append_dropWhile.symm).trans List.drop_left

theorem take_run (p : Char → Bool) (s : List Char) : s.take (run p s) = s.takeWhile p :=
  (congrArg (List.take _) List.takeWhile_append_dropWhile.symm).trans List.take_left

/-- A run goes on with one character and a shorter run, or is over. -/
theorem run_cases (p : Char → Bool) (s : List Char) :
    (∃ c r, s = c :: r ∧ p c = true ∧ run p s = run p r + 1) ∨
      (∀ c, s.head? = some c → p c = false) ∧ run p s = 0 := by
  cases s with
  | nil => exact .inr ⟨nofun, rfl⟩
  | cons c r =>
    cases hc : p c with
    | true => exact .inl ⟨c, r, rfl, hc, by simp [run, hc]⟩
    | false =>
      refine .inr ⟨?_, by simp [run, hc]⟩
      rintro _ ⟨⟩
      exact hc

theorem run_drop {p : Char → Bool} {s : List Char} {i : Nat} (h : i ≤ run p s) :
    run p (s.drop i) = run p s - i := by
  induction i generalizing s with
  | zero => rfl
  | succ i ih =>
    rcases run_cases p s with ⟨c, r, rfl, -, hrun⟩ | ⟨-, hrun⟩
    · rw [hrun] at h ⊢
      rw [List.drop_succ_cons, ih (Nat.le_of_succ_le_succ h), Nat.add_sub_add_right]
    · exact absurd (hrun ▸ h) (Nat.not_succ_le_zero i)

theorem dropWhile_drop {p : Char → Bool} {s : List Char} {i : Nat} (h : i ≤ run p s) :
    (s.drop i).dropWhile p = s.dropWhile p := by
  rw [← drop_run, ← drop_run, run_drop h, List.drop_drop, Nat.add_sub_cancel' h]

section Ranges

variable {α : Type} (f : Nat → Option α) (n : Nat)

/-- The first of some numbers for which there is a result. -/
theorem findSome?_range_succ :
    (List.range (n + 1)).findSome? f = (f 0).or ((List.range n).findSome? fun i => f (i + 1)) := by
  rw [List.range_succ_eq_map, List.findSome?_cons, List.findSome?_map]
  cases f 0 <;> rfl

/-- The last of some numbers for which there is a result. -/
theorem findSome?_reverse_range_succ :
    (List.range (n + 1)).reverse.findSome? f =
      ((List.range n).reverse.findSome? fun i => f (i + 1)).or (f 0) := by
  rw [List.range_succ_eq_map, List.reverse_cons, List.findSome?_append, ← List.map_reverse,
    List.findSome?_map, List.findSome?_singleton]
  rfl

end Ranges

section Rounds

variable {n : Node} {p : Char → Bool} (h : n.Takes p) {x : Subject} {t : Trail} (k : Next)
include h

/-- Greedy rounds, as soon as no further one is demanded, end at the far end of the run first. -/
theorem greedyRounds_of_takes {least count fuel : Nat} {last : Option Nat} (hcount : least ≤ count)
    (hfuel : t.here.after.length < fuel) (hlast : last ≠ some t.here.pos) :
    greedyRounds (n.follow x) least unbounded k fuel count last t =
      (List.range (run p t.here.after + 1)).reverse.findSome? fun i => k (t.ahead i) := by
  induction fuel generalizing t count last with
  | zero => exact absurd hfuel (Nat.not_lt_zero _)
  | succ fuel ih =>
    have hmay : mayRepeat unbounded count last t = true := by simp [mayRepeat, hlast]
    rw [greedyRounds, if_neg (Nat.not_lt.mpr hcount), if_pos hmay, findSome?_reverse_range_succ]
    rcases run_cases p t.here.after with ⟨c, r, hafter, hc, hrun⟩ | ⟨hstays, hrun⟩
    · have hdrop := Trail.after_ahead_one hafter
      -- After one more character the same holds of the rest of the run.
      have hfuel' : (t.ahead 1).here.after.length < fuel := by simpa [hafter] using hfuel
      have hlast' : some t.here.pos ≠ some (t.ahead 1).here.pos := by simp
      have hrest := ih (Nat.le_succ_of_le hcount) hfuel' hlast'
      rw [h.of_holds x _ hafter hc, hrest, hdrop, hrun]
      simp only [Trail.ahead_ahead, Nat.add_comm 1, Trail.ahead_zero]
      cases (List.range (run p r + 1)).reverse.findSome? fun i => k (t.ahead (i + 1)) <;> rfl
    · rw [h.of_not_holds x _ hstays, hrun]
      rfl

/-- Demanded rounds are made before those that are not. -/
theorem greedyRounds_of_demanded (least demanded : Nat) {count fuel : Nat}
    (hcount : count + demanded = least) (hfuel : t.here.after.length + demanded < fuel) :
    greedyRounds (n.follow x) least unbounded k fuel count none t =
      if demanded ≤ run p t.here.after then
        (List.range (run p (t.ahead demanded).here.after + 1)).reverse.findSome? fun i =>
          k ((t.ahead demanded).ahead i)
      else none := by
  induction demanded generalizing t count fuel with
  | zero =>
    rw [if_pos (Nat.zero_le _), Trail.ahead_zero]
    exact greedyRounds_of_takes h k (Nat.le_of_eq hcount.symm) hfuel nofun
  | succ demanded ih =>
    obtain ⟨fuel, rfl⟩ := Nat.exists_eq_succ_of_ne_zero (Nat.ne_zero_of_lt hfuel)
    rw [greedyRounds, if_pos (by omega)]
    rcases run_cases p t.here.after with ⟨c, r, hafter, hc, hrun⟩ | ⟨hstays, hrun⟩
    · have hdrop := Trail.after_ahead_one hafter
      rw [hafter, List.length_cons] at hfuel
      rw [h.of_holds x _ hafter hc, ih (by omega) (by rw [hdrop]; omega), hdrop, Trail.ahead_ahead,
        Nat.add_comm 1, hrun]
      simp only [Nat.add_le_add_iff_right]
    · rw [h.of_not_holds x _ hstays, hrun, if_neg (Nat.not_succ_le_zero _)]

theorem lazyRounds_of_takes {count fuel : Nat} {last : Option Nat}
    (hfuel : t.here.after.length < fuel) (hlast : last ≠ some t.here.pos) :
    lazyRounds (n.follow x) 0 unbounded k fuel count last t =
      (List.range (run p t.here.after + 1)).findSome? fun i => k (t.ahead i) := by
  induction fuel generalizing t count last with
  | zero => exact absurd hfuel (Nat.not_lt_zero _)
  | succ fuel ih =>
    have hmay : mayRepeat unbounded count last t = true := by simp [mayRepeat, hlast]
    rw [lazyRounds, if_neg (Nat.not_lt_zero count), if_pos hmay, findSome?_range_succ,
      Trail.ahead_zero]
    cases k t with
    | some found => rfl
    | none =>
      rcases run_cases p t.here.after with ⟨c, r, hafter, hc, hrun⟩ | ⟨hstays, hrun⟩
      · have hdrop := Trail.after_ahead_one hafter
        have hfuel' : (t.ahead 1).here.after.length < fuel := by simpa [hafter] using hfuel
        have hlast' : some t.here.pos ≠ some (t.ahead 1).here.pos := by simp
        have hrest := @ih (t.ahead 1) (count + 1) (some t.here.pos) hfuel' hlast'
        rw [h.of_holds x _ hafter hc, hrest, hdrop, hrun]
        simp only [Trail.ahead_ahead, Nat.add_comm 1, Option.none_or]
      · rw [h.of_not_holds x _ hstays, hrun]
        rfl

end Rounds

/-! ## Repetitions -/

/-- Any number of times, as often as possible first. -/
def star (n : Node) : Node := .loop 0 unbounded .greedy n

/-- Any number of times but none, as often as possible first. -/
def plus (n : Node) : Node := .loop 1 unbounded .greedy n

/-- At least some number of times, as often as possible first. -/
def atLeast (least : Nat) (n : Node) : Node := .loop least unbounded .greedy n

/-- Any number of times, as seldom as possible first. -/
def lazyStar (n : Node) : Node := .loop 0 unbounded .lazy n

/-- Once or not at all, once first. -/
def optional (n : Node) : Node := .loop 0 1 .greedy n

section Repetitions

variable {n : Node} {p : Char → Bool} {x : Subject} {t : Trail} (k : Next)

theorem follow_star (h : n.Takes p) (hlen : t.here.after.length ≤ x.length) :
    (star n).follow x t k =
      (List.range (run p t.here.after + 1)).reverse.findSome? fun i => k (t.ahead i) := by
  rw [star, follow_greedy]
  exact greedyRounds_of_takes h k (Nat.le_refl 0) (by rw [Subject.rounds]; omega) nofun

theorem follow_lazyStar (h : n.Takes p) (hlen : t.here.after.length ≤ x.length) :
    (lazyStar n).follow x t k =
      (List.range (run p t.here.after + 1)).findSome? fun i => k (t.ahead i) := by
  rw [lazyStar, follow_lazy]
  exact lazyRounds_of_takes h k (by rw [Subject.rounds]; omega) nofun

/-- A demanded round comes before those that are not. -/
theorem follow_plus (h : n.Takes p) (hlen : t.here.after.length ≤ x.length) :
    (plus n).follow x t k = n.follow x t fun t' => (star n).follow x t' k := by
  rw [plus, follow_greedy]
  show greedyRounds (n.follow x) 1 unbounded k (1 + x.length + 1 + 1) 0 none t = _
  rw [greedyRounds, if_pos Nat.one_pos]
  rcases run_cases p t.here.after with ⟨c, r, hafter, hc, -⟩ | ⟨hstays, -⟩
  · have hshort := (t.length_ahead_le 1).trans hlen
    rw [h.of_holds x _ hafter hc, h.of_holds x _ hafter hc, follow_star k h hshort]
    exact greedyRounds_of_takes h k (Nat.le_refl 1) (by omega) nofun
  · rw [h.of_not_holds x _ hstays, h.of_not_holds x _ hstays]

/-- Several demanded rounds come before those that are not. -/
theorem follow_atLeast (least : Nat) (h : n.Takes p) (hlen : t.here.after.length ≤ x.length) :
    (atLeast least n).follow x t k =
      if least ≤ run p t.here.after then (star n).follow x (t.ahead least) k else none := by
  rw [follow_star k h ((t.length_ahead_le least).trans hlen), atLeast, follow_greedy]
  exact greedyRounds_of_demanded h k least least (Nat.zero_add _)
    (by rw [Subject.rounds]; omega)

theorem follow_optional (n : Node) : (optional n).follow x t k = (n.follow x t k).or (k t) := by
  -- After one round no further one may follow.
  have hrest : greedyRounds (n.follow x) 0 1 k (x.length + 1) 1 (some t.here.pos) = k := by
    funext t'
    simp [greedyRounds, mayRepeat, unbounded]
  rw [optional, follow_greedy]
  show greedyRounds (n.follow x) 0 1 k (0 + x.length + 1 + 1) 0 none t = _
  rw [Nat.zero_add, greedyRounds, if_neg (Nat.not_lt_zero 0), if_pos (by simp [mayRepeat]), hrest]
  cases n.follow x t k <;> rfl

/-- A greedy repetition stops at the far end of its run when what follows matches there. -/
theorem follow_star_of_some {found : Trail} (h : n.Takes p) (hlen : t.here.after.length ≤ x.length)
    (hk : k (t.ahead (run p t.here.after)) = some found) : (star n).follow x t k = some found := by
  rw [follow_star k h hlen, List.range_succ, List.reverse_append, List.reverse_singleton,
    List.singleton_append, List.findSome?_cons, hk]

/-- A greedy repetition can only stop at the far end of its run when what follows matches nowhere
else in it. -/
theorem follow_star_of_stuck (h : n.Takes p) (hlen : t.here.after.length ≤ x.length)
    (hk : ∀ i < run p t.here.after, k (t.ahead i) = none) :
    (star n).follow x t k = k (t.ahead (run p t.here.after)) := by
  have hnone : (List.range (run p t.here.after)).reverse.findSome? (fun i => k (t.ahead i)) =
      none := by
    simpa [List.findSome?_eq_none_iff] using hk
  rw [follow_star k h hlen, List.range_succ, List.reverse_append, List.reverse_singleton,
    List.singleton_append, List.findSome?_cons, hnone]
  cases k (t.ahead (run p t.here.after)) <;> rfl

/-- A greedy repetition that can stop nowhere if not at the far end of its run takes the whole run,
which has to be long enough. -/
theorem follow_atLeast_of_edge (least : Nat) (h : n.Takes p) (hlen : t.here.after.length ≤ x.length)
    (hedge : k (t.ahead (run p t.here.after)) = none →
      ∀ i < run p t.here.after, k (t.ahead i) = none) :
    (atLeast least n).follow x t k =
      if least ≤ run p t.here.after then k (t.ahead (run p t.here.after)) else none := by
  rw [follow_atLeast k least h hlen]
  split
  · next hleast =>
    have hshort := (t.length_ahead_le least).trans hlen
    have hrun : run p (t.ahead least).here.after = run p t.here.after - least := run_drop hleast
    have hfar : (t.ahead least).ahead (run p (t.ahead least).here.after) =
        t.ahead (run p t.here.after) := by
      rw [hrun, Trail.ahead_ahead, Nat.add_sub_cancel' hleast]
    cases hk : k (t.ahead (run p t.here.after)) with
    | some found => exact follow_star_of_some k h hshort (by rw [hfar, hk])
    | none =>
      rw [follow_star_of_stuck k h hshort, hfar, hk]
      intro i hi
      rw [Trail.ahead_ahead]
      exact hedge hk _ (by omega)
  · rfl

/-- A lazy repetition stops at the first place of its run where what follows matches. -/
theorem follow_lazyStar_of_first {found : Trail} {i : Nat} (h : n.Takes p)
    (hlen : t.here.after.length ≤ x.length) (hi : i ≤ run p t.here.after)
    (hbefore : ∀ j < i, k (t.ahead j) = none) (hk : k (t.ahead i) = some found) :
    (lazyStar n).follow x t k = some found := by
  have hnone : (List.range i).findSome? (fun j => k (t.ahead j)) = none := by
    simpa [List.findSome?_eq_none_iff] using hbefore
  obtain ⟨m, hm⟩ : ∃ m, run p t.here.after + 1 = i + (m + 1) := ⟨run p t.here.after - i, by omega⟩
  rw [follow_lazyStar k h hlen, hm, List.range_add, List.findSome?_append, hnone,
    Option.none_or, List.range_succ_eq_map, List.map_cons, List.findSome?_cons, Nat.add_zero, hk]

end Repetitions

/-! ## What follows a repetition -/

/-- What follows does not match before a character of a class. -/
def Barred (x : Subject) (p : Char → Bool) (k : Next) : Prop :=
  ∀ (t : Trail) (c : Char), t.here.after.length ≤ x.length → t.here.after.head? = some c →
    p c = true → k t = none

/-- What follows only matches at the end of the text. -/
def Final (k : Next) : Prop := ∀ t : Trail, t.here.after ≠ [] → k t = none

section Following

variable {n : Node} {p : Char → Bool} {x : Subject} {t : Trail} {k : Next}

theorem Node.Takes.barred {q : Char → Bool} (h : n.Takes q) (x : Subject) (k : Next)
    (hapart : ∀ c, p c = true → q c = false) : Barred x p fun t => n.follow x t k := by
  intro t c _ hc hp
  refine h.of_not_holds x k fun d hd => hapart d ?_
  rw [hc] at hd
  exact Option.some.inj hd ▸ hp

/-- A sign does not match before another character. -/
theorem barred_sign {c : Char} (hc : p c = false) (x : Subject) (k : Next) :
    Barred x p fun t => (sign c).follow x t k := by
  refine (takes_sign c).barred x k fun d hd => ?_
  rw [beq_eq_false_iff_ne]
  rintro rfl
  exact Bool.false_ne_true (hc.symm.trans hd)

theorem Barred.grouped (h : Barred x p k) (i : Nat) (since : Trail) :
    Barred x p fun t => k (t.grouped i since) := fun t => h (t.grouped i since)

theorem final_atEnd : Final atEnd := fun _ => atEnd_of_ne_nil

theorem Final.grouped (h : Final k) (i : Nat) (since : Trail) :
    Final fun t => k (t.grouped i since) := fun t => h (t.grouped i since)

/-- A greedy repetition before what its characters bar takes the whole run. -/
theorem follow_star_of_barred (h : n.Takes p) (hlen : t.here.after.length ≤ x.length)
    (hk : Barred x p k) : (star n).follow x t k = k (t.ahead (run p t.here.after)) := by
  refine follow_star_of_stuck k h hlen fun i hi => ?_
  obtain ⟨c, hc⟩ : ∃ c, (t.here.after.takeWhile p)[i]? = some c := ⟨_, List.getElem?_eq_getElem hi⟩
  have hafter : t.here.after[i]? = some c := by
    rw [← List.takeWhile_append_dropWhile (p := p) (l := t.here.after),
      List.getElem?_append_left hi, hc]
  refine hk _ c ?_ ?_ (List.mem_takeWhile_imp (List.mem_of_getElem? hc))
  · exact (t.length_ahead_le i).trans hlen
  · rw [Trail.after_ahead, List.head?_drop, hafter]

theorem follow_plus_of_barred (h : n.Takes p) (hlen : t.here.after.length ≤ x.length)
    (hk : Barred x p k) : (plus n).follow x t k =
      if run p t.here.after = 0 then none else k (t.ahead (run p t.here.after)) := by
  rw [follow_plus k h hlen]
  rcases run_cases p t.here.after with ⟨c, r, hafter, hc, hrun⟩ | ⟨hstays, hrun⟩
  · have hdrop := Trail.after_ahead_one hafter
    have hshort := (t.length_ahead_le 1).trans hlen
    rw [h.of_holds x _ hafter hc, follow_star_of_barred h hshort hk, hdrop, Trail.ahead_ahead,
      hrun, if_neg (Nat.succ_ne_zero _), Nat.add_comm 1]
  · rw [h.of_not_holds x _ hstays, if_pos hrun]

/-- What does not match before a character does not match either where a repetition of others may
come first. -/
theorem Barred.star {q : Char → Bool} (hk : Barred x p k) (h : n.Takes q)
    (hapart : ∀ c, p c = true → q c = false) : Barred x p fun t => (star n).follow x t k := by
  intro t c hlen hc hp
  have hrun : run q t.here.after = 0 := by
    cases hafter : t.here.after with
    | nil => rfl
    | cons d r =>
      rw [hafter] at hc
      obtain rfl : d = c := Option.some.inj hc
      simp [run, hapart d hp]
  refine (follow_star k h hlen).trans ?_
  rw [hrun]
  simp [hk t c hlen hc hp]

/-- A greedy repetition before the end of a text takes all that is left. -/
theorem follow_star_of_final (h : n.Takes p) (hlen : t.here.after.length ≤ x.length)
    (hk : Final k) : (star n).follow x t k =
      if t.here.after.all p then k (t.ahead t.here.after.length) else none := by
  have hstuck : ∀ i < run p t.here.after, k (t.ahead i) = none := by
    intro i hi
    have hle := run_le p t.here.after
    refine hk _ ?_
    rw [Trail.after_ahead, Ne, List.drop_eq_nil_iff]
    omega
  rw [follow_star_of_stuck k h hlen hstuck]
  split
  · next hall =>
    have hrun : run p t.here.after = t.here.after.length := by
      rw [run, List.takeWhile_eq_self_iff.mpr (by simpa using hall)]
    rw [hrun]
  · next hsome =>
    refine hk _ ?_
    rw [Trail.after_ahead, drop_run, Ne, List.dropWhile_eq_nil_iff]
    simpa using hsome

theorem follow_plus_of_final (h : n.Takes p) (hlen : t.here.after.length ≤ x.length)
    (hk : Final k) : (plus n).follow x t k =
      if t.here.after ≠ [] ∧ t.here.after.all p then k (t.ahead t.here.after.length) else none := by
  rw [follow_plus k h hlen]
  cases hafter : t.here.after with
  | nil => rw [h.of_not_holds x _ (by simp [hafter]), if_neg (by simp)]
  | cons c r =>
    have hdrop := Trail.after_ahead_one hafter
    have hshort := (t.length_ahead_le 1).trans hlen
    cases hc : p c with
    | true =>
      rw [h.of_holds x _ hafter hc, follow_star_of_final h hshort hk, hdrop, Trail.ahead_ahead]
      simp [hc, Nat.add_comm]
    | false =>
      rw [h.of_not_holds x _ (by simpa [hafter] using hc), if_neg (by simp [hc])]

end Following

end Stencil.Pattern
