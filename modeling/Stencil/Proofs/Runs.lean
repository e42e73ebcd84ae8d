import Stencil.Proofs.Blanks
import Stencil.Proofs.Gaps
/-!
# Stencil.Proofs.Runs -- the runs of a text

A text falls into the runs of characters of a class and the single characters that stand between
them; a run may be empty. A rule whose pattern only ever matches whole runs, chosen by what they are
and by what stands beside them, puts its replacement for the runs that it chooses and keeps everything
else. What several such rules do one after the other is told by the runs as well: the runs of what a
rule leaves are, in turn, the runs of what it has put for each run, seen between the characters beside
that run. So none of what follows has to look at the text as a whole.
-/

namespace Stencil

open Stencil.Expr Stencil.Pattern

/-! ## Runs -/

/-- A run of characters of a class, which may be empty, and the characters beside it; there is none at
an end of the text. -/
structure Run where
  before : Option Char
  chars : List Char
  behind : Option Char
  deriving DecidableEq, Repr

/-- The runs of characters of a class from a place of a text on, of the first of which `read` has been
read already. `before` and `stop` stand before that one and behind the text. -/
def runsFrom (p : Char → Bool) (before : Option Char) (read : List Char) (stop : Option Char) :
    List Char → List Run
  | [] => [⟨before, read, stop⟩]
  | c :: r =>
    if p c then runsFrom p before (read ++ [c]) stop r
    else ⟨before, read, some c⟩ :: runsFrom p (some c) [] stop r

/-- The runs of characters of a class in a text. -/
def runs (p : Char → Bool) (s : List Char) : List Run := runsFrom p none [] none s

/-- The text in which something is put for each run. -/
def retouched (f : Run → List Char) (rs : List Run) : List Char :=
  rs.flatMap fun r => f r ++ r.behind.toList

/-- Nothing that could be added to a run stands beside it. -/
structure Run.Maximal (r : Run) (p : Char → Bool) : Prop where
  before : ∀ c, r.before = some c → p c = false
  chars : ∀ c ∈ r.chars, p c = true
  behind : ∀ c, r.behind = some c → p c = false

section Runs

variable {p : Char → Bool} {c : Char} {b stop : Option Char} {read w s r : List Char}

theorem runsFrom_cons_of_mem (hc : p c = true) :
    runsFrom p b read stop (c :: r) = runsFrom p b (read ++ [c]) stop r := by
  rw [runsFrom, if_pos hc]

theorem runsFrom_cons_of_not_mem (hc : p c = false) :
    runsFrom p b read stop (c :: r) = ⟨b, read, some c⟩ :: runsFrom p (some c) [] stop r := by
  rw [runsFrom, if_neg (by simp [hc])]

theorem runsFrom_append_of_all (hw : ∀ c ∈ w, p c = true) (s : List Char) :
    runsFrom p b read stop (w ++ s) = runsFrom p b (read ++ w) stop s := by
  induction w generalizing read with
  | nil => rw [List.nil_append, List.append_nil]
  | cons c w ih =>
    rw [List.cons_append, runsFrom_cons_of_mem (hw c List.mem_cons_self),
      ih fun d hd => hw d (List.mem_cons_of_mem c hd), List.append_assoc, List.singleton_append]

/-- A text of the class is one run. -/
theorem runsFrom_of_all (hw : ∀ c ∈ w, p c = true) :
    runsFrom p b read stop w = [⟨b, read ++ w, stop⟩] := by
  have hall : runsFrom p b read stop (w ++ []) = runsFrom p b (read ++ w) stop [] :=
    runsFrom_append_of_all hw []
  rwa [List.append_nil] at hall

/-- A character outside of the class stands between the runs before it and those behind it. -/
theorem runsFrom_append_cons (hc : p c = false) (s r : List Char) :
    runsFrom p b read stop (s ++ c :: r) =
      runsFrom p b read (some c) s ++ runsFrom p (some c) [] stop r := by
  induction s generalizing b read with
  | nil => exact runsFrom_cons_of_not_mem hc
  | cons d s ih =>
    cases hd : p d with
    | true =>
      rw [List.cons_append, runsFrom_cons_of_mem hd, runsFrom_cons_of_mem hd, ih]
    | false =>
      rw [List.cons_append, runsFrom_cons_of_not_mem hd, runsFrom_cons_of_not_mem hd, ih,
        List.cons_append]

/-- The first run goes as far as the characters of the class do, and has no part in the others. -/
theorem exists_laterRuns (p : Char → Bool) (s : List Char) :
    ∃ later, (∀ b read, runsFrom p b read none s =
        ⟨b, read ++ s.takeWhile p, (s.dropWhile p).head?⟩ :: later) ∧
      ∀ b, runsFrom p b [] none (s.dropWhile p) = ⟨b, [], (s.dropWhile p).head?⟩ :: later := by
  have htake : ∀ c ∈ s.takeWhile p, p c = true := fun c => List.mem_takeWhile_imp
  have hrest : ∃ later, ∀ b read, runsFrom p b read none (s.dropWhile p) =
      ⟨b, read, (s.dropWhile p).head?⟩ :: later := by
    have hstop := head?_dropWhile p s
    cases hdrop : s.dropWhile p with
    | nil => exact ⟨[], fun b read => rfl⟩
    | cons c r =>
      rw [hdrop] at hstop
      exact ⟨_, fun b read => runsFrom_cons_of_not_mem (hstop c rfl)⟩
  obtain ⟨later, hlater⟩ := hrest
  refine ⟨later, fun b read => ?_, fun b => hlater b []⟩
  have hsplit : runsFrom p b read none (s.takeWhile p ++ s.dropWhile p) = _ :=
    runsFrom_append_of_all htake (s.dropWhile p)
  rwa [List.takeWhile_append_dropWhile, hlater] at hsplit

/-- A text is put together from its runs and the characters between them. -/
theorem retouched_chars_from (p : Char → Bool) (b : Option Char) (read : List Char)
    (stop : Option Char) (s : List Char) :
    retouched Run.chars (runsFrom p b read stop s) = read ++ s ++ stop.toList := by
  induction s generalizing b read with
  | nil => simp [runsFrom, retouched]
  | cons c r ih =>
    cases hc : p c with
    | true =>
      rw [runsFrom_cons_of_mem hc, ih, List.append_assoc read, List.singleton_append]
    | false =>
      rw [runsFrom_cons_of_not_mem hc]
      show read ++ [c] ++ retouched Run.chars (runsFrom p (some c) [] stop r) = _
      rw [ih, List.nil_append, List.append_assoc, List.singleton_append, ← List.cons_append,
        List.append_assoc]

theorem retouched_chars (p : Char → Bool) (s : List Char) :
    retouched Run.chars (runs p s) = s := by
  rw [runs, retouched_chars_from]
  exact List.append_nil s

/-- What stands before and behind a text has no part in its runs. -/
theorem map_chars_runsFrom (p : Char → Bool) (b stop : Option Char) (read s : List Char) :
    (runsFrom p b read stop s).map Run.chars = (runsFrom p none read none s).map Run.chars := by
  induction s generalizing b stop read with
  | nil => rfl
  | cons c r ih =>
    cases hc : p c with
    | true => rw [runsFrom_cons_of_mem hc, runsFrom_cons_of_mem hc, ih]
    | false =>
      rw [runsFrom_cons_of_not_mem hc, runsFrom_cons_of_not_mem hc, List.map_cons, List.map_cons,
        ih (some c) stop, ih (some c) none]

theorem maximal_of_mem_runsFrom (hb : ∀ c, b = some c → p c = false)
    (hread : ∀ c ∈ read, p c = true) (hstop : ∀ c, stop = some c → p c = false) :
    ∀ r ∈ runsFrom p b read stop s, r.Maximal p := by
  induction s generalizing b read with
  | nil =>
    intro r hr
    rw [List.mem_singleton.mp hr]
    exact ⟨hb, hread, hstop⟩
  | cons c s ih =>
    cases hc : p c with
    | true =>
      rw [runsFrom_cons_of_mem hc]
      refine ih hb fun d hd => ?_
      rcases List.mem_append.mp hd with hd | hd
      · exact hread d hd
      · rwa [List.mem_singleton.mp hd]
    | false =>
      have hsome : ∀ d, some c = some d → p d = false := fun d hd => Option.some.inj hd ▸ hc
      rw [runsFrom_cons_of_not_mem hc]
      intro r hr
      rcases List.mem_cons.mp hr with rfl | hr
      · exact ⟨hb, hread, hsome⟩
      · exact ih hsome (by simp) r hr

theorem maximal_of_mem_runs {r : Run} (h : r ∈ runs p s) : r.Maximal p :=
  maximal_of_mem_runsFrom (by simp) (by simp) (by simp) r h

/-- Between the characters beside it a run is all there is. -/
theorem Run.Maximal.runsFrom_chars {r : Run} (h : r.Maximal p) :
    runsFrom p r.before [] r.behind r.chars = [r] := runsFrom_of_all h.chars

/-- The runs of a retouched text are those of what has been put for its runs. -/
theorem runsFrom_retouched (f : Run → List Char) (b : Option Char) (read s : List Char) :
    runsFrom p b [] none (retouched f (runsFrom p b read none s)) =
      (runsFrom p b read none s).flatMap fun r => runsFrom p r.before [] r.behind (f r) := by
  induction s generalizing b read with
  | nil => simp [runsFrom, retouched]
  | cons c s ih =>
    cases hc : p c with
    | true => rw [runsFrom_cons_of_mem hc, ih]
    | false =>
      have htext : retouched f (⟨b, read, some c⟩ :: runsFrom p (some c) [] none s) =
          f ⟨b, read, some c⟩ ++ c :: retouched f (runsFrom p (some c) [] none s) := by
        simp [retouched]
      rw [runsFrom_cons_of_not_mem hc, htext, runsFrom_append_cons hc, ih, List.flatMap_cons]

theorem runs_retouched (p : Char → Bool) (f : Run → List Char) (s : List Char) :
    runs p (retouched f (runs p s)) =
      (runs p s).flatMap fun r => runsFrom p r.before [] r.behind (f r) :=
  runsFrom_retouched f none [] s

end Runs

/-! ## Rules that replace runs -/

/-- The runs that a rule chooses, and what it puts for them. -/
structure Touch where
  chooses : Run → Bool
  new : List Char

/-- What a rule leaves of a run. -/
def Touch.on (t : Touch) (r : Run) : List Char := if t.chooses r then t.new else r.chars

theorem Touch.on_of_chosen {t : Touch} {r : Run} (h : t.chooses r = true) : t.on r = t.new := by
  rw [on, if_pos h]

theorem Touch.on_of_not_chosen {t : Touch} {r : Run} (h : t.chooses r = false) :
    t.on r = r.chars := by
  rw [on, if_neg (by simp [h])]

/-- Empty runs are not chosen, nor is what is left of a run that is not. -/
structure Touch.Fair (t : Touch) (p : Char → Bool) : Prop where
  ne_nil : ∀ b n, t.chooses ⟨b, [], n⟩ = false
  tail : ∀ b c w n, p c = true → t.chooses ⟨b, c :: w, n⟩ = false →
    t.chooses ⟨some c, w, n⟩ = false

namespace Pattern

/-- What a place of a text finds of a run before it: what stands before the place, the characters of
the class behind it, and what stands behind these. -/
def Cursor.runAt (p : Char → Bool) (c : Cursor) : Run :=
  ⟨c.before.head?, c.after.takeWhile p, (c.after.dropWhile p).head?⟩

end Pattern

/-- A pattern matches the runs that are chosen, from where they begin to where they end, and nothing
else. -/
def Pattern.TakesRuns (P : Pattern) (p : Char → Bool) (t : Touch) : Prop :=
  ∀ (length : Nat) (advance : Bool) (c : Cursor), c.after.length ≤ length →
    P.matchAt length advance c =
      if t.chooses (c.runAt p) then some ⟨⟨c, c.ahead (run p c.after)⟩, []⟩ else none

section Taking

variable {P : Pattern} {p : Char → Bool} {t : Touch} {c : Char} {b : Option Char} {r s : List Char}

/-- Where the run that begins is not chosen its first character is kept. -/
theorem Touch.Fair.retouched_cons (h : t.Fair p)
    (hnot : t.chooses ⟨b, (c :: r).takeWhile p, ((c :: r).dropWhile p).head?⟩ = false) :
    retouched t.on (runsFrom p b [] none (c :: r)) =
        c :: retouched t.on (runsFrom p (some c) [] none r) ∧
      (runsFrom p b [] none (c :: r)).any t.chooses =
        (runsFrom p (some c) [] none r).any t.chooses := by
  cases hc : p c with
  | false =>
    rw [runsFrom_cons_of_not_mem hc]
    simp [retouched, h.ne_nil, on]
  | true =>
    rw [List.takeWhile_cons_of_pos hc, List.dropWhile_cons_of_pos hc] at hnot
    have htail := h.tail b c _ _ hc hnot
    obtain ⟨later, hlater, -⟩ := exists_laterRuns p r
    rw [runsFrom_cons_of_mem hc, hlater, hlater]
    simp [retouched, on, hnot, htail]

/-- Where it is chosen its text is put for it, and what is behind it is as if it were not there. -/
theorem Touch.Fair.retouched_of_chosen (h : t.Fair p)
    (hchosen : t.chooses ⟨b, s.takeWhile p, (s.dropWhile p).head?⟩ = true) (b' : Option Char) :
    retouched t.on (runsFrom p b [] none s) =
        t.new ++ retouched t.on (runsFrom p b' [] none (s.dropWhile p)) ∧
      (runsFrom p b [] none s).any t.chooses = true := by
  obtain ⟨later, hlater, hrest⟩ := exists_laterRuns p s
  rw [hlater, hrest]
  simp [retouched, on, hchosen, h.ne_nil]

theorem matchesFrom_succ_of_some {length : Nat} {advance : Bool} {d : Cursor} {m : Match}
    (h : P.matchAt length advance d = some m) (fuel : Nat) :
    P.matchesFrom length (fuel + 1) advance d =
      m :: P.matchesFrom length fuel (m.start == m.stop) m.span.stop := by
  have hsearch : P.searchFrom length advance d.pos d.before d.after = some m := by
    obtain ⟨pos, before, after⟩ := d
    cases after with
    | nil => exact h
    | cons c r => rw [Pattern.searchFrom, h]
  rw [Pattern.matchesFrom, hsearch]

theorem matchesFrom_succ_of_none {length : Nat} {advance : Bool} {d : Cursor}
    (h : P.matchAt length advance d = none) (hafter : d.after = c :: r) (fuel : Nat) :
    P.matchesFrom length (fuel + 1) advance d =
      P.matchesFrom length (fuel + 1) false (d.ahead 1) := by
  obtain ⟨pos, before, after⟩ := d
  subst hafter
  rw [Pattern.matchesFrom, Pattern.searchFrom, h, Pattern.matchesFrom]
  rfl

theorem matchesFrom_of_nil {length : Nat} {advance : Bool} {d : Cursor}
    (h : P.matchAt length advance d = none) (hafter : d.after = []) (fuel : Nat) :
    P.matchesFrom length fuel advance d = [] := by
  obtain ⟨pos, before, after⟩ := d
  subst hafter
  cases fuel with
  | zero => rfl
  | succ fuel => rw [Pattern.matchesFrom, Pattern.searchFrom, h]

/-- A match at a place, when `gap` is what stands between the last match and the place. -/
theorem replaceHits_constantly_at {new gap after : List Char} {pos n : Nat} {d : Cursor} {h : Hit}
    {hs : List Hit} (hpos : pos + gap.length = d.pos) (hstart : h.start = d.pos)
    (hstop : h.stop = d.pos + n)
    (hrest : replaceHits (constantly new) (d.pos + n) (d.ahead n).after hs = pure after) :
    replaceHits (constantly new) pos (gap ++ d.after) (h :: hs) = pure (gap ++ new ++ after) := by
  have hdrop : (gap ++ d.after).drop (h.stop - pos) = (d.ahead n).after := by
    rw [hstop, ← hpos, Nat.add_assoc, Nat.add_sub_cancel_left, List.drop_append,
      List.drop_eq_nil_of_le (Nat.le_add_right _ _), Nat.add_sub_cancel_left]
    rfl
  have htake : (gap ++ d.after).take (h.start - pos) = gap := by
    rw [hstart, ← hpos, Nat.add_sub_cancel_left, List.take_left]
  rw [replaceHits_constantly_cons after (by rw [hdrop, hstop]; exact hrest), htake]

/-- From a place in the middle of the text on, walking along the matches comes to the same as going
from run to run. -/
theorem Pattern.TakesRuns.replaceHits_matchesFrom (hP : P.TakesRuns p t) (ht : t.Fair p)
    (length n : Nat) {fuel : Nat} {advance : Bool} {d : Cursor} {gap : List Char} {pos : Nat}
    (hn : d.after.length = n) (hfuel : n < fuel) (hlength : n ≤ length)
    (hpos : pos + gap.length = d.pos) :
    replaceHits (constantly t.new) pos (gap ++ d.after)
        ((P.matchesFrom length fuel advance d).map (Match.hit P.groups)) =
      pure (gap ++ retouched t.on (runsFrom p d.before.head? [] none d.after)) ∧
    (P.matchesFrom length fuel advance d).isEmpty =
      !(runsFrom p d.before.head? [] none d.after).any t.chooses := by
  induction n using Nat.strong_induction_on generalizing fuel advance d gap pos with
  | _ n ih =>
    obtain ⟨fuel, rfl⟩ := Nat.exists_eq_succ_of_ne_zero (Nat.ne_zero_of_lt hfuel)
    have hmatch := hP length advance d (hn ▸ hlength)
    by_cases hchosen : t.chooses (d.runAt p) = true
    -- The run is matched as a whole; the next match is looked for behind it.
    · have hrun : run p d.after ≠ 0 := by
        intro hzero
        rw [Cursor.runAt, List.length_eq_zero_iff.mp hzero, ht.ne_nil] at hchosen
        cases hchosen
      have hle := run_le p d.after
      have hshort : (d.ahead (run p d.after)).after.length = n - run p d.after := by
        rw [← hn]
        exact List.length_drop
      have hdrop : (d.ahead (run p d.after)).after = d.after.dropWhile p := drop_run p d.after
      rw [if_pos hchosen] at hmatch
      obtain ⟨htext, hany⟩ := ht.retouched_of_chosen hchosen (d.ahead (run p d.after)).before.head?
      obtain ⟨hrest, -⟩ := @ih _ (by omega) fuel (d.pos == d.pos + run p d.after)
        (d.ahead (run p d.after)) [] _ hshort (by omega) (by omega) (Nat.add_zero _)
      rw [List.nil_append, List.nil_append] at hrest
      rw [matchesFrom_succ_of_some hmatch, List.map_cons, hany, htext, ← hdrop, ← List.append_assoc]
      exact ⟨replaceHits_constantly_at hpos rfl rfl hrest, rfl⟩
    · rw [if_neg hchosen] at hmatch
      replace hchosen : t.chooses (d.runAt p) = false := by simpa using hchosen
      cases hafter : d.after with
      | nil =>
        rw [matchesFrom_of_nil hmatch hafter]
        simp [replaceHits, runsFrom, retouched, Touch.on, ht.ne_nil]
      -- The character that stands here is kept.
      | cons c r =>
        rw [Cursor.runAt, hafter] at hchosen
        obtain ⟨htext, hany⟩ := ht.retouched_cons hchosen
        have hone : d.ahead 1 = ⟨d.pos + 1, c :: d.before, r⟩ := by simp [Cursor.ahead, hafter]
        have hlen : r.length + 1 = n := by rw [← hn, hafter, List.length_cons]
        obtain ⟨hrest, hnone⟩ := @ih r.length (by omega) (fuel + 1) false (d.ahead 1) (gap ++ [c])
          pos (by rw [hone]) (by omega) (by omega)
          (by rw [List.length_append, ← Nat.add_assoc, hpos, hone]; rfl)
        rw [matchesFrom_succ_of_none hmatch hafter, htext, hany]
        rw [hone] at hrest hnone ⊢
        simpa [List.append_assoc] using And.intro hrest hnone

/-- Putting a text for every match in a text is going from run to run. -/
theorem Pattern.TakesRuns.replaceHits_allMatches (hP : P.TakesRuns p t) (ht : t.Fair p)
    (s : List Char) :
    replaceHits (constantly t.new) 0 s ((P.allMatches s).map (Match.hit P.groups)) =
      pure (retouched t.on (runs p s)) ∧
    (P.allMatches s).isEmpty = !(runs p s).any t.chooses := by
  have hwhole : replaceHits (constantly t.new) 0 ([] ++ s)
        ((P.allMatches s).map (Match.hit P.groups)) = pure ([] ++ retouched t.on (runs p s)) ∧ _ :=
    hP.replaceHits_matchesFrom ht s.length s.length (d := { after := s }) rfl
      (by omega) (Nat.le_refl _) rfl
  exact hwhole

end Taking

/-! ## What rules do to lines -/

/-- What a rule leaves of a line. -/
def Touch.outcome (t : Touch) (p : Char → Bool) (o : Outcome) : Outcome :=
  ⟨o.hit || (runs p o.text.toList).any t.chooses,
    String.ofList (retouched t.on (runs p o.text.toList))⟩

/-- A rule replaces runs of characters of a class: its pattern takes the runs that are chosen, and its
replacement stands for the text that is put for them, whatever the evaluator and the bindings are. -/
structure Rule.Touches (r : Rule) (p : Char → Bool) (t : Touch) : Prop where
  mode : r.mode = .regex
  pattern : ∃ text P, (∀ e b, Evaluator.resolve e b r.pattern = pure text) ∧
    Pattern.ofText text.toList = .ok P ∧ P.TakesRuns p t
  fair : t.Fair p
  new : ∀ e b, Evaluator.resolve e b r.replacement = pure (String.ofList t.new)

section Touches

variable {r : Rule} {p : Char → Bool} {t : Touch} {e : Evaluator} {b : Bindings}

theorem retouched_of_none_chosen {s : List Char} (h : (runs p s).any t.chooses = false) :
    retouched t.on (runs p s) = s := by
  have hsame : retouched t.on (runs p s) = retouched Run.chars (runs p s) := by
    refine List.flatMap_congr fun r hr => ?_
    rw [Touch.on_of_not_chosen (by simpa using List.any_eq_false.mp h r hr)]
  rw [hsame, retouched_chars]

/-- A rule that replaces runs never fails. -/
theorem Rule.Touches.apply (h : r.Touches p t) (o : Outcome) :
    r.apply e b o = pure (t.outcome p o) := by
  obtain ⟨text, P, hresolve, hread, htakes⟩ := h.pattern
  have hhits : r.mode.hits text.toList o.text.toList =
      .ok ((P.allMatches o.text.toList).map (Match.hit P.groups)) := by
    rw [h.mode, MatchMode.hits, hread]
    rfl
  have hreplacement : r.replacementFor e b = constantly t.new := by
    funext hit
    rw [replacementFor, h.new, constantly]
  obtain ⟨htext, hany⟩ := htakes.replaceHits_allMatches h.fair o.text.toList
  funext m
  have hmatches : r.matchesIn e b o.text m =
      .ok ((P.allMatches o.text.toList).map (Match.hit P.groups)) m :=
    matchesIn_of_hits (by rw [hresolve]; rfl) hhits
  rw [apply_eq_matchesIn_bind, bind_of_ok hmatches]
  cases hfound : (P.allMatches o.text.toList).map (Match.hit P.groups) with
  | nil =>
    have hnone : (runs p o.text.toList).any t.chooses = false := by
      rw [← Bool.not_eq_true', ← hany]
      exact List.isEmpty_iff.mpr (List.map_eq_nil_iff.mp hfound)
    rw [Touch.outcome, hnone, retouched_of_none_chosen hnone, Bool.or_false, String.ofList_toList]
    rfl
  | cons hit hits =>
    have hsome : (runs p o.text.toList).any t.chooses = true := by
      rw [← Bool.not_eq_false', ← hany, List.isEmpty_eq_false_iff]
      intro hnil
      rw [hnil] at hfound
      cases hfound
    rw [Touch.outcome, hsome, Bool.or_true]
    refine respond_of_ok ?_
    rw [hreplacement, ← hfound]
    exact congrFun htext m

/-- Rules that replace runs do so one after the other. -/
theorem foldlM_apply_touches {rs : List Rule} {ts : List Touch}
    (h : List.Forall₂ (fun r t => r.Touches p t) rs ts) (o : Outcome) :
    rs.foldlM (fun o r => r.apply e b o) o = pure (ts.foldl (fun o t => t.outcome p o) o) := by
  induction h generalizing o with
  | nil => rfl
  | cons hr _ ih => rw [List.foldlM_cons, hr.apply, pure_bind, ih, List.foldl_cons]

end Touches

/-! ## Replacements of the same class -/

namespace Touch

/-- A run after a rule that puts characters of the class for it. -/
def after (t : Touch) (r : Run) : Run := { r with chars := t.on r }

/-- A run after several such rules. -/
def afterAll (ts : List Touch) (r : Run) : Run := ts.foldl (fun r t => t.after r) r

/-- One of several such rules chooses a run as it is then. -/
def anyChooses : List Touch → Run → Bool
  | [], _ => false
  | t :: ts, r => t.chooses r || anyChooses ts (t.after r)

variable {p : Char → Bool} {t : Touch} {ts : List Touch} {r : Run}

@[simp] theorem afterAll_nil : afterAll [] r = r := rfl

@[simp] theorem afterAll_cons : afterAll (t :: ts) r = afterAll ts { r with chars := t.on r } := rfl

@[simp] theorem anyChooses_nil : anyChooses [] r = false := rfl

@[simp] theorem anyChooses_cons :
    anyChooses (t :: ts) r = (t.chooses r || anyChooses ts { r with chars := t.on r }) := rfl

/-- Runs stay runs. -/
theorem runs_outcome (hnew : ∀ c ∈ t.new, p c = true) (o : Outcome) :
    runs p (t.outcome p o).text.toList = (runs p o.text.toList).map t.after := by
  rw [outcome, String.toList_ofList, runs_retouched, List.map_eq_flatMap]
  refine List.flatMap_congr fun r hr => runsFrom_of_all ?_
  cases hchosen : t.chooses r with
  | true => rwa [on_of_chosen hchosen]
  | false =>
    rw [on_of_not_chosen hchosen]
    exact (maximal_of_mem_runs hr).chars

theorem runs_foldl_outcome (hnew : ∀ t ∈ ts, ∀ c ∈ t.new, p c = true) (o : Outcome) :
    runs p (ts.foldl (fun o t => t.outcome p o) o).text.toList =
        (runs p o.text.toList).map (afterAll ts) ∧
      (ts.foldl (fun o t => t.outcome p o) o).hit =
        (o.hit || (runs p o.text.toList).any (anyChooses ts)) := by
  induction ts generalizing o with
  | nil =>
    have hsame : afterAll [] = id := rfl
    simp [hsame, anyChooses]
  | cons t ts ih =>
    obtain ⟨hruns, hhit⟩ := ih (fun u hu => hnew u (List.mem_cons_of_mem t hu)) (t.outcome p o)
    rw [runs_outcome (hnew t List.mem_cons_self)] at hruns hhit
    rw [List.foldl_cons, hruns, hhit, List.map_map]
    refine ⟨rfl, ?_⟩
    rw [Bool.eq_iff_iff]
    simp [outcome, anyChooses, or_assoc, and_or_left, exists_or]

end Touch

end Stencil
