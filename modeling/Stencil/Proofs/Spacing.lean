import Stencil.Proofs.Alone
import Stencil.Proofs.Edges
import Stencil.Proofs.Readings
/-!
# Stencil.Proofs.Spacing -- the normal form of blanks

Four rules tidy the blanks of a line, and each of them replaces whole runs of blanks by blanks or by
nothing. So the runs of the line stay what they are seen from the characters between them, and what
all four leave of a line is told by what they leave of one run between two characters. That no rule
brings back what another one has removed is a matter of a few cases then, and so is that going through
the rules once more changes nothing. What is left is the normal form that the rules are there for.
-/

namespace Stencil

open Stencil.Expr Stencil.Text

/-! ## The rules for blanks -/

namespace Scope

/-- The characters before which no blank is left. -/
def isClosing (c : Char) : Bool := [',', ';', ')'].contains c

/-- The runs that the rules for blanks replace, and what they put for them. -/
def spacingTouches : List Touch :=
  [.between (·.any (!isBlank ·)) 2 (fun _ => true) [' '],
   .between (fun _ => true) 1 (·.isNone) [],
   .between (·.any (!isBlank ·)) 1 (·.any isClosing) [],
   .between (·.any (· == '(')) 1 (fun _ => true) []]

end Scope

section Spacing

open Pattern CommandForm

theorem touches_of_readAs {pattern replacement : String} {ns ms : List Pattern.Node} {least : Nat}
    {before behind : Option Char → Bool} {holds : List Char → Bool} {new : List Char}
    (hread : ReadAs pattern (ns ++ atLeast least blank :: ms)) (hleast : 0 < least)
    (hns : Conditions ns fun s _ => before s.head?) (hms : Conditions ms fun _ s => holds s)
    (hedge : Edge isBlank holds behind)
    (hbefore : ∀ c b, isBlank c = true → before (some c) = true → before b = true)
    (hpattern : ∀ e b, Evaluator.resolve e b pattern = pure pattern)
    (hnew : ∀ e b, Evaluator.resolve e b replacement = pure (String.ofList new)) :
    Rule.Touches ⟨.regex, pattern, replacement⟩ isBlank (.between before least behind new) := by
  obtain ⟨P, hP, hnode⟩ := hread.exists_ofText
  exact ⟨rfl, ⟨pattern, P, hpattern, hP,
    takesRuns_atLeast hnode takes_blank hleast hns hms hedge new⟩,
    Touch.fair_between hbefore hleast new, hnew⟩

/-- Closing punctuation is no blank. -/
theorem isClosing_of_isBlank {c : Char} (hc : isBlank c = true) : Scope.isClosing c = false := by
  by_contra hclosing
  have hmem : c ∈ [',', ';', ')'] := by
    rwa [Bool.not_eq_false, Scope.isClosing, List.contains_iff_mem] at hclosing
  simp only [List.mem_cons, List.not_mem_nil, or_false] at hmem
  rcases hmem with rfl | rfl | rfl <;> exact absurd hc (by decide)

theorem belongs_closing :
    belongs false [.char 44, .char 59, .char 41] {} = Scope.isClosing := by
  funext c
  rw [Bool.eq_iff_iff]
  simp [Pattern.belongs, Flags.forms, ClassItem.holds, Scope.isClosing, ← Char.toNat_inj]

theorem touches_spacing :
    List.Forall₂ (fun r t => Rule.Touches r isBlank t) Scope.spacing Scope.spacingTouches := by
  have hbetween : ReadAs "(?<=\\S)\\s\x7b2,\x7d"
      ([.look true false letter] ++ [atLeast 2 blank]) := by decide +kernel
  have hend : ReadAs "\\s+$" ([] ++ atLeast 1 blank :: [.anchor .lastLineEnd false]) := by
    decide +kernel
  have hclosing : ReadAs "(?<=\\S)\\s+(?=[,;)])" ([.look true false letter] ++
      atLeast 1 blank :: [.look false false (.one false [.char 44, .char 59, .char 41] {})]) := by
    decide +kernel
  have hopening : ReadAs "(?<=[(])\\s+"
      ([.look true false (sign '(')] ++ [atLeast 1 blank]) := by decide +kernel
  have hletter : ∀ c b, isBlank c = true → (some c).any (!isBlank ·) = true →
      Option.any (!isBlank ·) b = true := by
    intro c b hc hnot
    simp [hc] at hnot
  refine .cons ?_ (.cons ?_ (.cons ?_ (.cons ?_ .nil)))
  · exact touches_of_readAs hbetween (by decide) (conditions_lookBehind belongs_letter)
      conditions_nil (edge_anywhere _) hletter (fun _ _ => rfl) fun _ _ => rfl
  · exact touches_of_readAs hend (by decide) conditions_nil conditions_lastLineEnd edge_lastLineEnd
      (fun _ _ _ _ => rfl) (fun _ _ => rfl) fun _ _ => rfl
  · exact touches_of_readAs hclosing (by decide) (conditions_lookBehind belongs_letter)
      (conditions_lookAhead belongs_closing) (edge_lookAhead fun _ => isClosing_of_isBlank) hletter
      (fun _ _ => rfl) fun _ _ => rfl
  · refine touches_of_readAs hopening (by decide) (conditions_lookBehind (belongs_sign '('))
      conditions_nil (edge_anywhere _) ?_ (fun _ _ => rfl) fun _ _ => rfl
    intro c b hc hopening
    obtain rfl : c = '(' := by simpa using hopening
    exact absurd hc (by decide)

end Spacing

/-! ## What is left of a run -/

/-- What the rules for blanks leave of a run: nothing at the end of the text, the run itself at its
start, and in between at most one blank, none before closing punctuation or after an opening
parenthesis. -/
def Run.tidied (r : Run) : Run :=
  { r with
    chars := match r.before, r.behind with
      | _, none => []
      | none, some _ => r.chars
      | some b, some c =>
        if Scope.isClosing c || b == '(' then []
        else if 2 ≤ r.chars.length then [' '] else r.chars }

/-- A text with its blanks tidied. -/
def tidiedText (s : List Char) : List Char := retouched (fun r => r.tidied.chars) (runs isBlank s)

section Tidied

variable {r : Run} {s : List Char}

theorem afterAll_spacingTouches (h : r.Maximal isBlank) :
    Touch.afterAll Scope.spacingTouches r = r.tidied ∧
      (Touch.anyChooses Scope.spacingTouches r = true ↔ r.tidied ≠ r) := by
  obtain ⟨before, chars, behind⟩ := r
  have hbefore := h.before
  cases before with
  | none =>
    cases behind <;> rcases chars with _ | ⟨c, _ | ⟨d, w⟩⟩ <;> simp [Scope.spacingTouches, Run.tidied]
  | some b =>
    have hb : isBlank b = false := hbefore b rfl
    cases behind with
    | none =>
      rcases chars with _ | ⟨c, _ | ⟨d, w⟩⟩ <;> simp [Scope.spacingTouches, Run.tidied, hb]
    | some n =>
      -- What counts is how long the run is, and whether there is punctuation beside it.
      cases hn : Scope.isClosing n <;> cases hopening : b == '(' <;>
        rcases chars with _ | ⟨c, _ | ⟨d, w⟩⟩ <;>
        simp [Scope.spacingTouches, Run.tidied, hb, hn, hopening]

theorem tidied_tidied (r : Run) : r.tidied.tidied = r.tidied := by
  obtain ⟨before, chars, behind⟩ := r
  cases before with
  | none => cases behind <;> rfl
  | some b =>
    cases behind with
    | none => rfl
    | some n =>
      simp only [Run.tidied]
      split
      · rfl
      · split <;> simp_all

theorem isBlank_of_mem_tidied (h : r.Maximal isBlank) :
    ∀ c ∈ r.tidied.chars, isBlank c = true := by
  have hblank : isBlank ' ' = true := by decide
  have hchars := h.chars
  simp only [Run.tidied]
  split
  · nofun
  · exact hchars
  · split
    · nofun
    · split
      · simpa using hblank
      · exact hchars

/-- The runs of a tidied text are what is left of those of the text. -/
theorem runs_tidiedText (s : List Char) :
    runs isBlank (tidiedText s) = (runs isBlank s).map Run.tidied := by
  rw [tidiedText, runs_retouched, List.map_eq_flatMap]
  exact List.flatMap_congr fun r hr =>
    runsFrom_of_all (isBlank_of_mem_tidied (maximal_of_mem_runs hr))

/-- A text is tidy when its runs are. -/
theorem tidiedText_eq_self_iff : tidiedText s = s ↔ ∀ r ∈ runs isBlank s, r.tidied = r := by
  constructor
  · intro hsame
    have hruns := runs_tidiedText s
    rw [hsame] at hruns
    have hmap : (runs isBlank s).map Run.tidied = (runs isBlank s).map id := by
      rw [← hruns, List.map_id]
    exact fun r hr => List.map_inj_left.mp hmap r hr
  · intro hall
    have hsame : tidiedText s = retouched Run.chars (runs isBlank s) :=
      List.flatMap_congr fun r hr => congrArg (Run.chars · ++ r.behind.toList) (hall r hr)
    rw [hsame, retouched_chars]

theorem tidied_of_mem_runs_tidiedText (h : r ∈ runs isBlank (tidiedText s)) : r.tidied = r := by
  rw [runs_tidiedText] at h
  obtain ⟨r, -, rfl⟩ := List.mem_map.mp h
  exact tidied_tidied r

theorem tidiedText_tidiedText (s : List Char) : tidiedText (tidiedText s) = tidiedText s :=
  tidiedText_eq_self_iff.mpr fun _ => tidied_of_mem_runs_tidiedText

end Tidied

/-! ## What the rules do to a line -/

/-- A line with its blanks tidied, which is a hit when that makes a difference. -/
def Outcome.tidied (o : Outcome) : Outcome :=
  ⟨o.hit || tidiedText o.text.toList != o.text.toList, String.ofList (tidiedText o.text.toList)⟩

theorem Outcome.tidied_tidied (o : Outcome) : o.tidied.tidied = o.tidied := by
  simp [tidied, tidiedText_tidiedText]

theorem foldl_spacingTouches (o : Outcome) :
    Scope.spacingTouches.foldl (fun o t => t.outcome isBlank o) o = o.tidied := by
  have hnew : ∀ t ∈ Scope.spacingTouches, ∀ c ∈ t.new, isBlank c = true := by
    have hblank : isBlank ' ' = true := by decide
    simpa [Scope.spacingTouches, Touch.between] using hblank
  obtain ⟨hruns, hhit⟩ := Touch.runs_foldl_outcome hnew o
  generalize Scope.spacingTouches.foldl (fun o t => t.outcome isBlank o) o = u at hruns hhit ⊢
  obtain ⟨hit, text⟩ := u
  have htidied : (runs isBlank o.text.toList).map (Touch.afterAll Scope.spacingTouches) =
      runs isBlank (tidiedText o.text.toList) := by
    rw [runs_tidiedText]
    exact List.map_congr_left fun r hr => (afterAll_spacingTouches (maximal_of_mem_runs hr)).1
  -- A text is told by its runs.
  have htext : text.toList = tidiedText o.text.toList := by
    rw [← retouched_chars isBlank text.toList, hruns, htidied, retouched_chars]
  have hany : (runs isBlank o.text.toList).any (Touch.anyChooses Scope.spacingTouches) =
      (tidiedText o.text.toList != o.text.toList) := by
    rw [Bool.eq_iff_iff, bne_iff_ne, Ne, tidiedText_eq_self_iff, List.any_eq_true]
    push Not
    refine exists_congr fun r => and_congr_right fun hr => ?_
    exact (afterAll_spacingTouches (maximal_of_mem_runs hr)).2
  rw [Outcome.tidied, ← hany, ← htext, String.ofList_toList]
  exact congrArg (Outcome.mk · text) hhit

/-- The rules for blanks, registered any number of times. -/
def spacings (k : Nat) : List Rule := (List.replicate k Scope.spacing).flatten

theorem foldlM_spacings {e : Evaluator} {b : Bindings} (k : Nat) (o : Outcome) :
    (spacings (k + 1)).foldlM (fun o r => r.apply e b o) o = pure o.tidied := by
  have hone : ∀ o : Outcome, Scope.spacing.foldlM (fun o r => r.apply e b o) o = pure o.tidied := by
    intro o
    rw [foldlM_apply_touches touches_spacing, foldl_spacingTouches]
  induction k generalizing o with
  | zero => rw [spacings, List.replicate_one, List.flatten_singleton, hone]
  | succ k ih =>
    rw [spacings, List.replicate_succ, List.flatten_cons, List.foldlM_append, hone, pure_bind]
    refine (ih o.tidied).trans ?_
    rw [o.tidied_tidied]

/-! ## The normal form -/

/-- A text is the normal form of another one. -/
structure NormalFormOf (t u : List Char) : Prop where
  /-- They have the same characters that are no blanks. -/
  nonblank : u.filter (!isBlank ·) = t.filter (!isBlank ·)
  /-- The blanks at the start are kept, when there is something behind them, -/
  leading : (∃ c ∈ t, isBlank c = false) → u.takeWhile isBlank = t.takeWhile isBlank
  /-- and nothing is left when there is not. -/
  blank : (∀ c ∈ t, isBlank c = true) → u = []
  /-- There are no blanks at the end, -/
  trailing : ∀ v w, u = v ++ w → (∀ c ∈ w, isBlank c = true) → w = []
  /-- behind another character there is at most one blank, -/
  single : ∀ v a w z, u = v ++ a :: (w ++ z) → isBlank a = false → (∀ c ∈ w, isBlank c = true) →
    w.length ≤ 1
  /-- none when closing punctuation follows, -/
  closing : ∀ v a w c z, u = v ++ a :: (w ++ c :: z) → isBlank a = false →
    (∀ d ∈ w, isBlank d = true) → c ∈ [',', ';', ')'] → w = []
  /-- and none behind an opening parenthesis. -/
  opening : ∀ v w z, u = v ++ '(' :: (w ++ z) → (∀ c ∈ w, isBlank c = true) → w = []

section NormalForm

variable {p : Char → Bool} {a : Char} {v w z s t u : List Char}

/-- Behind a character that is not of the class there is a run, in which all that follows of the class
has a part. -/
theorem exists_run_behind (ha : p a = false) (hw : ∀ c ∈ w, p c = true) (v z : List Char) :
    ∃ r ∈ runs p (v ++ a :: (w ++ z)), r.before = some a ∧ r.chars = w ++ z.takeWhile p ∧
      r.behind = (z.dropWhile p).head? := by
  obtain ⟨later, hlater, -⟩ := exists_laterRuns p z
  refine ⟨⟨some a, w ++ z.takeWhile p, (z.dropWhile p).head?⟩, ?_, rfl, rfl, rfl⟩
  rw [runs, runsFrom_append_cons ha, runsFrom_append_of_all hw, hlater, List.nil_append]
  exact List.mem_append_right _ List.mem_cons_self

/-- A text is of the class, or there is a last character that is not. -/
theorem all_or_exists_last (p : Char → Bool) (s : List Char) :
    (∀ c ∈ s, p c = true) ∨ ∃ v a w, s = v ++ a :: w ∧ p a = false ∧ ∀ c ∈ w, p c = true := by
  induction s with
  | nil => exact .inl nofun
  | cons c s ih =>
    rcases ih with hall | ⟨v, a, w, rfl, ha, hw⟩
    · cases hc : p c with
      | true => exact .inl (List.forall_mem_cons.mpr ⟨hc, hall⟩)
      | false => exact .inr ⟨[], c, s, rfl, hc, hall⟩
    · exact .inr ⟨c :: v, a, w, rfl, ha, hw⟩

/-- What is put for runs, when it is of the class, does not change the characters between them. -/
theorem filter_retouched {f : Run → List Char} {rs : List Run}
    (hf : ∀ r ∈ rs, (∀ c ∈ f r, p c = true) ∧ ∀ c, r.behind = some c → p c = false) :
    (retouched f rs).filter (!p ·) = rs.filterMap Run.behind := by
  induction rs with
  | nil => rfl
  | cons r rs ih =>
    obtain ⟨hr, hbehind⟩ := hf r List.mem_cons_self
    have hrest := ih fun r' hr' => hf r' (List.mem_cons_of_mem r hr')
    have hnone : (f r).filter (!p ·) = [] := List.filter_eq_nil_iff.mpr fun c hc => by simp [hr c hc]
    rw [retouched, List.flatMap_cons, List.filter_append, List.filter_append, hnone]
    cases hr' : r.behind with
    | none => simpa [hr', retouched] using hrest
    | some c => simpa [hr', hbehind c hr', retouched] using hrest

/-- What is tidy behind another character. -/
theorem Run.chars_of_tidied {r : Run} (h : r.tidied = r) (hbefore : r.before = some a) :
    r.chars.length ≤ 1 ∧
      (r.behind = none ∨ r.behind.any Scope.isClosing ∨ a = '(' → r.chars = []) := by
  obtain ⟨before, chars, behind⟩ := r
  obtain rfl : before = some a := hbefore
  have hchars := congrArg Run.chars h
  cases behind with
  | none =>
    obtain rfl : [] = chars := hchars
    simp
  | some n =>
    simp only [tidied] at hchars
    split at hchars
    · obtain rfl := hchars
      simp
    · next hneither =>
      split at hchars
      · obtain rfl := hchars
        simp_all
      · simp_all

/-- What of a tidied text stands behind a character that is no blank. -/
theorem chars_behind_of_tidiedText (hu : tidiedText t = v ++ a :: (w ++ z)) (ha : isBlank a = false)
    (hw : ∀ c ∈ w, isBlank c = true) :
    (w ++ z.takeWhile isBlank).length ≤ 1 ∧
      ((z.dropWhile isBlank).head? = none ∨ (z.dropWhile isBlank).head?.any Scope.isClosing ∨
        a = '(' → w = []) := by
  obtain ⟨r, hr, hbefore, hchars, hafter⟩ := exists_run_behind ha hw v z
  rw [← hu] at hr
  obtain ⟨hlength, hnil⟩ := Run.chars_of_tidied (tidied_of_mem_runs_tidiedText hr) hbefore
  rw [hchars] at hlength hnil
  rw [← hafter]
  exact ⟨hlength, fun h => (List.append_eq_nil_iff.mp (hnil h)).1⟩

/-- Tidying keeps what is no blank. -/
theorem filter_tidiedText (t : List Char) :
    (tidiedText t).filter (!isBlank ·) = t.filter (!isBlank ·) := by
  have hbehind : ∀ r ∈ runs isBlank t, ∀ c, r.behind = some c → isBlank c = false :=
    fun r hr => (maximal_of_mem_runs hr).behind
  have htext := filter_retouched (f := Run.chars) fun r hr =>
    ⟨(maximal_of_mem_runs hr).chars, hbehind r hr⟩
  rw [retouched_chars] at htext
  rw [htext]
  exact filter_retouched fun r hr => ⟨isBlank_of_mem_tidied (maximal_of_mem_runs hr), hbehind r hr⟩

theorem takeWhile_tidiedText {c : Char} (hc : c ∈ t) (hblank : isBlank c = false) :
    (tidiedText t).takeWhile isBlank = t.takeWhile isBlank := by
  obtain ⟨n, hn⟩ : ∃ n, (t.dropWhile isBlank).head? = some n := by
    rw [← Option.isSome_iff_exists, List.isSome_head?]
    exact List.ne_nil_of_mem (mem_dropWhile_of_not hblank hc)
  obtain ⟨later, hlater, -⟩ := exists_laterRuns isBlank t
  obtain ⟨later', hlater', -⟩ := exists_laterRuns isBlank (tidiedText t)
  -- The run at the start is left as it is, because there is something behind it.
  have hruns := runs_tidiedText t
  rw [runs, hlater', runs, hlater, hn, List.map_cons] at hruns
  exact congrArg Run.chars (List.cons.inj hruns).1

theorem eq_nil_of_tidiedText (hu : tidiedText t = v ++ w) (hw : ∀ c ∈ w, isBlank c = true) :
    w = [] := by
  rcases all_or_exists_last isBlank v with hv | ⟨v', a, w', rfl, ha, hw'⟩
  · have hall : ∀ c ∈ tidiedText t, isBlank c = true := by
      rw [hu]
      exact List.forall_mem_append.mpr ⟨hv, hw⟩
    have hmem : ⟨none, tidiedText t, none⟩ ∈ runs isBlank (tidiedText t) := by
      rw [runs, runsFrom_of_all hall]
      exact List.mem_singleton_self _
    have hnil : [] = tidiedText t := congrArg Run.chars (tidied_of_mem_runs_tidiedText hmem)
    rw [hu] at hnil
    exact (List.append_eq_nil_iff.mp hnil.symm).2
  · have hu' : tidiedText t = v' ++ a :: (w' ++ w ++ []) := by simp [hu]
    have hblank := List.forall_mem_append.mpr ⟨hw', hw⟩
    have hnil := (chars_behind_of_tidiedText hu' ha hblank).2 (.inl rfl)
    exact (List.append_eq_nil_iff.mp hnil).2

theorem normalFormOf_tidiedText (t : List Char) : NormalFormOf t (tidiedText t) where
  nonblank := filter_tidiedText t
  leading := fun ⟨_, hc, hblank⟩ => takeWhile_tidiedText hc hblank
  blank hall := by
    rw [tidiedText, runs, runsFrom_of_all hall]
    rfl
  trailing _ _ := eq_nil_of_tidiedText
  single v a w z hu ha hw := by
    have hlength := (chars_behind_of_tidiedText hu ha hw).1
    rw [List.length_append] at hlength
    omega
  closing v a w c z hu ha hw hc := by
    have hclosing : Scope.isClosing c = true := List.contains_iff_mem.mpr hc
    have hstop : ¬isBlank c = true := fun hblank => by
      rw [isClosing_of_isBlank hblank] at hclosing
      cases hclosing
    refine (chars_behind_of_tidiedText hu ha hw).2 (.inr (.inl ?_))
    rwa [List.dropWhile_cons_of_neg hstop]
  opening v w z hu hw := (chars_behind_of_tidiedText hu (by decide) hw).2 (.inr (.inr rfl))

end NormalForm

/-! ## Scopes that hold nothing but rules for blanks -/

/-- A scope whose only rules are those of the directive for blanks, which has been given `k` times,
counting each time that blanks are named in it. -/
inductive Scope.Tidying (e : Evaluator) : Nat → Scope → Prop
  | none {s : Scope} (h : s.groups = []) : Tidying e 0 s
  /-- The directive is rendered. -/
  | directive {k : Nat} {s t : Session} (h : Tidying e k s.scope) (description : String)
      (options : List Normalizer) {limit : Nat}
      (hrun : (Node.operation description (some (options.map .normalize))).render e limit s =
        .ok () t) :
      Tidying e (k + options.length) t.scope
  /-- A level without rules is entered. -/
  | enter {k : Nat} {s : Scope} (h : Tidying e k s) : Tidying e k s.enter
  /-- Something else is done that leaves the rules as they are. -/
  | keep {k : Nat} {s t : Scope} (h : Tidying e k s) (hframes : t.frames = s.frames) : Tidying e k t

theorem Render.perform_normalize (description : String) (options : List Normalizer) (s : Session) :
    perform description (options.map .normalize) s =
      .ok () { s with scope := options.foldl (fun s _ => s.normalizeSpaces) s.scope } := by
  induction options generalizing s with
  | nil => rfl
  | cons o options ih =>
    have hstep : (Action.normalize o).apply s.scope = .ok s.scope.normalizeSpaces := by
      cases o
      rfl
    rw [List.map_cons, perform_cons_of_ok hstep, ih]
    rfl

theorem spacings_add (k n : Nat) : spacings (k + n) = spacings k ++ spacings n := by
  rw [spacings, List.replicate_add, List.flatten_append]
  rfl

namespace Scope

theorem alone_normalizeSpaces {s : Scope} {k : Nat} {ks : List Nat}
    (h : s.Alone ((k :: ks).map spacings)) :
    s.normalizeSpaces.Alone (((k + 1) :: ks).map spacings) := by
  have henclosing : s.normalizeSpaces.enclosing = s.enclosing := by
    rw [normalizeSpaces, foldl_addAlone]
    rfl
  have hheld : s.normalizeSpaces.frame.held = s.frame.held ++ Stencil.alone spacing := by
    rw [normalizeSpaces, foldl_addAlone]
    show (spacing.foldl Frame.addAlone s.frame).newGroup.held = _
    rw [Frame.held_newGroup, Frame.held_foldl_addAlone]
  have hgive := h.give henclosing hheld
  have hone : spacings 1 = spacing := by rw [spacings, List.replicate_one, List.flatten_singleton]
  rwa [List.map_cons, List.modifyHead_cons, ← hone, ← spacings_add] at hgive

theorem alone_foldl_normalizeSpaces (options : List Normalizer) {s : Scope} {k : Nat}
    {ks : List Nat} (h : s.Alone ((k :: ks).map spacings)) :
    (options.foldl (fun s _ => s.normalizeSpaces) s).Alone
      (((k + options.length) :: ks).map spacings) := by
  induction options generalizing s k with
  | nil => exact h
  | cons o options ih =>
    rw [List.foldl_cons, List.length_cons, Nat.add_comm options.length, ← Nat.add_assoc]
    exact ih (alone_normalizeSpaces h)

/-- Each level holds the rules for blanks a number of times. -/
theorem Tidying.alone {e : Evaluator} {k : Nat} {s : Scope} (h : Tidying e k s) :
    ∃ ks : List Nat, s.Alone (ks.map spacings) ∧ ks.sum = k := by
  induction h with
  | @none s h =>
    refine ⟨s.frames.map fun _ => 0, ?_, by simp⟩
    rw [List.map_map]
    exact alone_of_groups_eq_nil h
  | @directive k s t _ description options limit hrun ih =>
    obtain ⟨ks, halone, hsum⟩ := ih
    have hscope : t.scope = options.foldl (fun s _ => s.normalizeSpaces) s.scope := by
      rw [Node.render, Option.getD_some, Render.perform_normalize] at hrun
      cases hrun
      rfl
    cases ks with
    | nil => cases halone
    | cons k₀ ks =>
      rw [hscope]
      refine ⟨_, alone_foldl_normalizeSpaces options halone, ?_⟩
      rw [List.sum_cons] at hsum ⊢
      omega
  | enter _ ih =>
    obtain ⟨ks, halone, hsum⟩ := ih
    exact ⟨0 :: ks, halone.enter rfl rfl, by simpa using hsum⟩
  | keep _ hframes ih =>
    obtain ⟨ks, halone, hsum⟩ := ih
    exact ⟨ks, by rwa [Alone, hframes], hsum⟩

theorem flatten_map_spacings (ks : List Nat) : (ks.map spacings).flatten = spacings ks.sum := by
  induction ks with
  | nil => rfl
  | cons k ks ih => rw [List.map_cons, List.flatten_cons, ih, List.sum_cons, spacings_add]

/-- Sending a text through the rules for blanks. -/
theorem Tidying.filter {e : Evaluator} {k : Nat} {s : Scope} (h : Tidying e (k + 1) s) (text : String)
    (m : Machine) : s.filter e text m = .ok ((Outcome.initial text).tidied, s) m := by
  obtain ⟨ks, halone, hsum⟩ := h.alone
  refine filter_of_ok ?_
  rw [(halone.inTurn e).filter, flatten_map_spacings, hsum, foldlM_spacings]
  rfl

/-- What the rules for blanks do to a text. -/
structure NormalizesSpaces (s : Scope) (e : Evaluator) (text normal : String) (m : Machine) :
    Prop where
  /-- The text that is left is the normal form. A hit tells that it is another text than before, and
  nothing else has been done. -/
  filter : s.filter e text m = .ok (⟨normal != text, normal⟩, s) m
  form : NormalFormOf text.toList normal.toList
  /-- The normal form is left as it is. -/
  again : s.filter e normal m = .ok (⟨false, normal⟩, s) m
  /-- Giving the directive once does the same. -/
  once : ∀ s₁, Tidying e 1 s₁ → s₁.filter e text m = .ok (⟨normal != text, normal⟩, s₁) m

/-- **Tidying the blanks of a line computes a normal form**, however often it is demanded. -/
theorem normalizes_spaces {e : Evaluator} {k : Nat} {s : Scope} (h : Tidying e k s) (hk : 0 < k)
    (text : String) (m : Machine) :
    s.NormalizesSpaces e text (String.ofList (tidiedText text.toList)) m := by
  obtain ⟨k, rfl⟩ := Nat.exists_eq_add_one.mpr hk
  have htidied : (Outcome.initial text).tidied =
      ⟨String.ofList (tidiedText text.toList) != text, String.ofList (tidiedText text.toList)⟩ := by
    have hsame : (tidiedText text.toList != text.toList) =
        (String.ofList (tidiedText text.toList) != text) := by
      rw [Bool.eq_iff_iff, bne_iff_ne, bne_iff_ne, ← String.toList_inj.ne, String.toList_ofList]
    rw [Outcome.tidied, Outcome.initial, Bool.false_or, hsame]
  refine ⟨?_, ?_, ?_, ?_⟩
  · rw [h.filter, htidied]
  · rw [String.toList_ofList]
    exact normalFormOf_tidiedText text.toList
  · rw [h.filter]
    simp [Outcome.tidied, Outcome.initial, tidiedText_tidiedText]
  · intro s₁ h₁
    rw [h₁.filter, htidied]

/-- The directive in a scope of its own. -/
theorem Tidying.normalize {e : Evaluator} {k : Nat} {s : Scope} (h : Tidying e k s)
    (options : List Normalizer) :
    Tidying e (k + options.length) (options.foldl (fun s _ => s.normalizeSpaces) s) := by
  have hrun : (Node.operation "normalize" (some (options.map .normalize))).render e 0
      { scope := s } = .ok () { scope := options.foldl (fun s _ => s.normalizeSpaces) s } :=
    Render.perform_normalize "normalize" options { scope := s }
  exact .directive (s := { scope := s }) h "normalize" options hrun

/-- A scope in which blanks have been named twice in one directive and once in another. -/
def tidyingThrice : Scope := (ofLayer []).normalizeSpaces.normalizeSpaces.normalizeSpaces

/-- Blanks of several kinds, at both ends of a line and in it. -/
theorem normalizes_spaces_thrice :
    Tidying .standard 3 tidyingThrice ∧ 0 < 3 ∧
      tidyingThrice.NormalizesSpaces .standard "\t f(  a ,\n b )  " "\t f(a, b)" {} := by
  have hnone : Tidying .standard 0 (ofLayer []) := .none rfl
  have hthrice : Tidying .standard 3 tidyingThrice :=
    (hnone.normalize [.spaces, .spaces]).normalize [.spaces]
  exact ⟨hthrice, by decide, normalizes_spaces hthrice (by decide) _ {}⟩

end Scope

end Stencil
