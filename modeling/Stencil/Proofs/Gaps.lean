import Stencil.Proofs.Advancing
import Stencil.Proofs.Diagnostics
/-!
# Stencil.Proofs.Gaps -- what stands between the matches

The matches of a pattern stand in a text one behind the other, each being the text between its ends,
so that a text is made up of its matches and of the parts that stand outside of them, in turn. A rule
that replaces keeps these parts and puts a text for each match. It computes the texts from left to
right, one for each match, and seeing the match and its groups under names of their own. When one of
them fails it computes no further one and keeps nothing of the line but the diagnostic.
-/

namespace Stencil

open Stencil.Expr Stencil.Text Stencil.Pattern Render

/-! ## Texts in parts -/

/-- The text between two positions. -/
def piece (s : List Char) (start stop : Nat) : List Char := (s.drop start).take (stop - start)

theorem piece_append_drop {s : List Char} {i j : Nat} (h : i ≤ j) :
    piece s i j ++ s.drop j = s.drop i := by
  have hdrop : s.drop j = (s.drop i).drop (j - i) := by
    rw [List.drop_drop, Nat.add_sub_cancel' h]
  rw [piece, hdrop, List.take_append_drop]

/-- Matches stand in a text from a position on, one behind the other, and each of them is the text
between its ends. -/
inductive Laid (s : List Char) : Nat → List Hit → Prop
  | nil {pos : Nat} (inside : pos ≤ s.length) : Laid s pos []
  | cons {pos : Nat} {h : Hit} {hs : List Hit} (later : pos ≤ h.start) (forward : h.start ≤ h.stop)
      (whole : h.groups.head? = some (piece s h.start h.stop)) (rest : Laid s h.stop hs) :
      Laid s pos (h :: hs)

theorem Laid.inside {s : List Char} {pos : Nat} {hits : List Hit} (h : Laid s pos hits) :
    pos ≤ s.length := by
  induction h with
  | nil inside => exact inside
  | cons later forward _ _ ih => exact later.trans (forward.trans ih)

/-- The parts of a text outside of matches, from a position on: before the first match, between one
and the next, and behind the last. -/
def gapsFrom (s : List Char) (pos : Nat) : List Hit → List (List Char)
  | [] => [piece s pos s.length]
  | h :: hs => piece s pos h.start :: gapsFrom s h.stop hs

/-- The parts of a text outside of matches. -/
def gaps (s : List Char) (hits : List Hit) : List (List Char) := gapsFrom s 0 hits

/-- Parts of a text with other texts between them. -/
def weave : List (List Char) → List (List Char) → List Char
  | g :: gs, p :: ps => g ++ p ++ weave gs ps
  | gs, _ => gs.flatten

/-- The text of a whole match. -/
def Hit.whole (h : Hit) : List Char := h.groups.headD []

/-- A text is made up of its matches and the parts outside of them. -/
theorem Laid.weave_gapsFrom {s : List Char} {pos : Nat} {hits : List Hit} (h : Laid s pos hits) :
    weave (gapsFrom s pos hits) (hits.map Hit.whole) = s.drop pos := by
  induction h with
  | nil inside =>
    show [piece s _ s.length].flatten = _
    rw [List.flatten_singleton, ← piece_append_drop inside, List.drop_length, List.append_nil]
  | @cons pos h hs later forward whole _ ih =>
    have hwhole : h.whole = piece s h.start h.stop := by
      rw [Hit.whole, List.headD_eq_head?_getD, whole, Option.getD_some]
    show piece s pos h.start ++ h.whole ++ weave (gapsFrom s h.stop hs) (hs.map Hit.whole) = _
    rw [ih, hwhole, List.append_assoc, piece_append_drop forward, piece_append_drop later]

/-! ## Where patterns match -/

/-- The match of a pattern as a place with the texts of its groups. -/
def Match.hit (groups : Nat) (m : Match) : Hit :=
  ⟨m.start, m.stop, (List.range (groups + 1)).map m.group⟩

/-- The first match from a place of a text on is the text between two positions that lie further
on. -/
theorem found_piece {p : Pattern} {s : List Char} {advance : Bool} {i : Nat} {m : Match}
    (hi : i ≤ s.length)
    (h : p.searchFrom s.length advance ((outset s).here.ahead i).pos
      ((outset s).here.ahead i).before ((outset s).here.ahead i).after = some m) :
    i ≤ m.start ∧ m.start ≤ m.stop ∧ m.stop ≤ s.length ∧
      m.span.stop = (outset s).here.ahead m.stop ∧ m.group 0 = piece s m.start m.stop := by
  obtain ⟨⟨j, hj, hstart⟩, n, hn, hstop⟩ := searchFrom_leads h
  have hlength : ∀ k, ((outset s).here.ahead k).after.length = s.length - k :=
    fun k => List.length_drop
  rw [hlength i] at hj
  rw [Cursor.ahead_ahead] at hstart
  rw [hstart, hlength (i + j)] at hn
  rw [hstart, Cursor.ahead_ahead] at hstop
  have hfrom : m.start = i + j := by
    rw [Match.start, hstart]
    exact Nat.zero_add _
  have hto : m.stop = i + j + n := by
    rw [Match.stop, hstop]
    exact Nat.zero_add _
  refine ⟨by omega, by omega, by omega, by rw [hto, hstop], ?_⟩
  show m.span.start.after.take (m.stop - m.start) = piece s m.start m.stop
  rw [hstart, piece, hfrom]
  rfl

/-- Matches that are looked for one behind the other stand one behind the other. -/
theorem laid_matchesFrom (p : Pattern) (s : List Char) (fuel : Nat) (advance : Bool) {i : Nat}
    (hi : i ≤ s.length) :
    Laid s i ((p.matchesFrom s.length fuel advance ((outset s).here.ahead i)).map
      (Match.hit p.groups)) := by
  induction fuel generalizing advance i with
  | zero => exact .nil hi
  | succ fuel ih =>
    rw [matchesFrom]
    split
    · exact .nil hi
    · next m hsearch =>
      obtain ⟨hlater, hforward, hinside, hstop, hwhole⟩ := found_piece hi hsearch
      have hhead : (Match.hit p.groups m).groups.head? = some (piece s m.start m.stop) := by
        rw [Match.hit, List.range_succ_eq_map, List.map_cons, List.head?_cons, hwhole]
      refine .cons hlater hforward hhead ?_
      -- The next match is looked for from where this one has ended.
      rw [hstop]
      exact ih _ hinside

/-- The occurrences of a text stand one behind the other. -/
theorem laid_occurrencesFrom {p s : List Char} (hp : p ≠ []) {rest : List Char} {i skip pos : Nat}
    (hrest : s.drop i = rest) (hpos : pos ≤ i + skip) (hinside : i + skip ≤ s.length) :
    Laid s pos ((occurrencesFrom p rest i skip).map (occurrenceHit p)) := by
  induction rest generalizing i skip pos with
  | nil => exact .nil (hpos.trans hinside)
  | cons c r ih =>
    have hnext : s.drop (i + 1) = r := by rw [← List.drop_drop, hrest, List.drop_one, List.tail_cons]
    have hlength : s.length - i = r.length + 1 := by rw [← List.length_drop, hrest, List.length_cons]
    cases skip with
    | succ skip =>
      -- Inside of an occurrence no other one is looked for.
      exact ih hnext (by omega) (by omega)
    | zero =>
      by_cases hstart : startsWith p (c :: r) = true
      · obtain ⟨t, ht⟩ := Option.isSome_iff_exists.mp hstart
        have happend : s.drop i = p ++ t := hrest.trans (afterPrefix?_eq_some_iff.mp ht)
        have hfits : p.length ≤ s.length - i := by
          rw [← List.length_drop, happend, List.length_append]
          exact Nat.le_add_right _ _
        have hone : p.length - 1 + 1 = p.length := Nat.sub_add_cancel (List.length_pos_iff.mpr hp)
        have hwhole : piece s i (i + p.length) = p := by
          rw [piece, happend, Nat.add_sub_cancel_left, List.take_left]
        rw [occurrencesFrom_of_startsWith hstart, List.map_cons]
        refine .cons hpos (Nat.le_add_right i p.length) (congrArg some hwhole.symm) ?_
        exact ih hnext (show i + p.length ≤ _ by omega) (by omega)
      · rw [occurrencesFrom_of_not_startsWith hstart]
        exact ih hnext (by omega) (by omega)

/-- The empty text occurs everywhere. -/
theorem laid_everywhere {s : List Char} {n i pos : Nat} (hpos : pos ≤ i) (hinside : pos ≤ s.length)
    (hn : i + n = s.length + 1) : Laid s pos ((List.range' i n).map (occurrenceHit [])) := by
  induction n generalizing i pos with
  | zero => exact .nil hinside
  | succ n ih =>
    rw [List.range'_succ, List.map_cons]
    refine .cons hpos (Nat.le_refl i) ?_ (ih (Nat.le_succ i) (by show i ≤ _; omega) (by omega))
    simp [occurrenceHit, piece]

/-- Whatever a pattern is, its matches stand one behind the other. -/
theorem MatchMode.laid_of_hits {mode : MatchMode} {pattern s : List Char} {hits : List Hit}
    (h : mode.hits pattern s = .ok hits) : Laid s 0 hits := by
  cases mode with
  | plain =>
    cases h
    show Laid s 0 ((occurrences pattern s).map (occurrenceHit pattern))
    rw [occurrences]
    split
    · next hempty =>
      rw [List.isEmpty_iff.mp hempty, List.range_eq_range']
      exact laid_everywhere (Nat.le_refl 0) (Nat.zero_le _) (Nat.zero_add _)
    · next hne =>
      exact laid_occurrencesFrom (by simpa using hne) List.drop_zero (Nat.le_refl 0) (Nat.zero_le _)
  | regex =>
    cases hp : Pattern.ofText pattern with
    | error f =>
      simp only [MatchMode.hits, hp] at h
      cases h
    | ok p =>
      simp only [MatchMode.hits, hp] at h
      cases h
      exact laid_matchesFrom p s _ false (Nat.zero_le _)

/-! ## What a replacement sees -/

/-- The names of groups are different from each other. -/
theorem groupName_inj {i j : Nat} (h : "_" ++ toString i = "_" ++ toString j) : i = j := by
  rw [String.append_right_inj, Nat.toString_eq_ofList_toDigits, Nat.toString_eq_ofList_toDigits] at h
  have hdigits : Nat.toDigits 10 i = Nat.toDigits 10 j := String.ofList_injective h
  rw [← @Nat.ofDigitChars_ten_toDigits i, hdigits, Nat.ofDigitChars_ten_toDigits]

/-- Groups under their names, of which the first is that of the group `k`. -/
def capturesFrom (k : Nat) (groups : List (List Char)) : Layer :=
  ((groups.map String.ofList).zipIdx k).map fun (g, i) => ("_" ++ toString i, .str g)

theorem capturesFrom_cons (k : Nat) (g : List Char) (gs : List (List Char)) :
    capturesFrom k (g :: gs) =
      ("_" ++ toString k, .str (String.ofList g)) :: capturesFrom (k + 1) gs := rfl

theorem get?_capturesFrom (groups : List (List Char)) (k i : Nat) :
    (capturesFrom k groups).get? ("_" ++ toString (k + i)) =
      groups[i]?.map fun g => .str (String.ofList g) := by
  induction groups generalizing k i with
  | nil => rfl
  | cons g gs ih =>
    rw [capturesFrom_cons, Layer.get?, List.lookup_cons]
    cases i with
    | zero => simp
    | succ i =>
      have hne : ("_" ++ toString (k + (i + 1)) == "_" ++ toString k) = false := by
        rw [beq_eq_false_iff_ne]
        intro hname
        have hsame := groupName_inj hname
        omega
      rw [hne, List.getElem?_cons_succ, ← ih (k + 1) i, Nat.add_right_comm]
      rfl

theorem get?_capturesFrom_of_ne {groups : List (List Char)} {k : Nat} {name : String}
    (h : ∀ i < groups.length, name ≠ "_" ++ toString (k + i)) :
    (capturesFrom k groups).get? name = none := by
  induction groups generalizing k with
  | nil => rfl
  | cons g gs ih =>
    have hfirst : (name == "_" ++ toString k) = false := by
      rw [beq_eq_false_iff_ne]
      exact h 0 (Nat.zero_lt_succ _)
    rw [capturesFrom_cons, Layer.get?, List.lookup_cons, hfirst]
    refine ih fun i hi => ?_
    rw [Nat.add_right_comm]
    exact h (i + 1) (Nat.succ_lt_succ hi)

/-- What a replacement sees of a match: under the name of each group its text, and every other name
as it stands in the bindings around. -/
structure Sees (b inner : Bindings) (groups : List (List Char)) : Prop where
  group : ∀ (i : Nat) (g : List Char), groups[i]? = some g →
    inner.get? ("_" ++ toString i) = some (.str (String.ofList g))
  other : ∀ name, (∀ i < groups.length, name ≠ "_" ++ toString i) → inner.get? name = b.get? name

theorem sees_captures (b : Bindings) (groups : List (List Char)) :
    Sees b (b.push (captures groups)) groups where
  group i g hg := by
    have hget : (captures groups).get? ("_" ++ toString i) = some (.str (String.ofList g)) := by
      have h := get?_capturesFrom groups 0 i
      rwa [Nat.zero_add, hg] at h
    show Bindings.lookIn (captures groups :: b.layers) _ = _
    rw [Bindings.lookIn, hget]
  other name hname := by
    have hget : (captures groups).get? name = none :=
      get?_capturesFrom_of_ne (k := 0) fun i hi => by rw [Nat.zero_add]; exact hname i hi
    show Bindings.lookIn (captures groups :: b.layers) _ = _
    rw [Bindings.lookIn, hget]
    rfl

/-! ## What a rule leaves -/

/-- A match found by a pattern with groups: it stands where the pattern has matched, and has a text
for each group, the empty one where the group takes no part. -/
structure Hit.Found (h : Hit) (p : Pattern) (m : Match) : Prop where
  start : h.start = m.start
  stop : h.stop = m.stop
  length : h.groups.length = p.groups + 1
  group : ∀ i < p.groups,
    h.groups[i + 1]? = some (((m.groups.lookup (i + 1)).map Span.chars).getD [])

theorem found_hit (p : Pattern) (m : Match) : (m.hit p.groups).Found p m where
  start := rfl
  stop := rfl
  length := by rw [Match.hit, List.length_map, List.length_range]
  group i hi := by
    rw [Match.hit, List.getElem?_map, List.getElem?_range (Nat.succ_lt_succ hi)]
    rfl

/-- When a text can be computed for each match, the texts stand for the matches, and what stands
outside of the matches is kept. -/
theorem replaceHits_of_mapM {replacement : Hit → Act String} {s : List Char} {pos : Nat}
    {hits : List Hit} {news : List String} {m m' : Machine} (h : Laid s pos hits)
    (hnews : hits.mapM replacement m = .ok news m') :
    replaceHits replacement pos (s.drop pos) hits m =
      .ok (weave (gapsFrom s pos hits) (news.map String.toList)) m' := by
  induction h generalizing news m with
  | nil inside =>
    rw [List.mapM_nil] at hnews
    cases hnews
    show EStateM.Result.ok _ _ = .ok [piece s _ s.length].flatten _
    rw [List.flatten_singleton, ← piece_append_drop inside, List.drop_length, List.append_nil]
  | @cons pos h hs later forward _ _ ih =>
    obtain ⟨new, m₁, news, hnew, hrest, rfl⟩ := mapM_cons_eq_ok hnews
    have hdrop : (s.drop pos).drop (h.stop - pos) = s.drop h.stop := by
      rw [List.drop_drop, Nat.add_sub_cancel' (later.trans forward)]
    rw [replaceHits, bind_of_ok hnew, hdrop, bind_of_ok (ih hrest)]
    rfl

/-- What a rule does to a line in which its pattern, which reads `pattern`, has the matches `hits`,
found when the machine was `m`. The scope of the session stays as it is. -/
structure Rule.AllOrNothing (r : Rule) (e : Evaluator) (s : Session) (o : Outcome)
    (pattern : String) (m : Machine) (hits : List Hit) : Prop where
  /-- The matches stand one behind the other, -/
  laid : Laid o.text.toList 0 hits
  /-- and they and the parts outside of them make up the text. -/
  parts : weave (gaps o.text.toList hits) (hits.map Hit.whole) = o.text.toList
  /-- A literal pattern has no groups, -/
  plain : r.mode = .plain → ∀ h ∈ hits, h.groups = [pattern.toList]
  /-- and another one its own. -/
  regex : ∀ p, r.mode = .regex → Pattern.ofText pattern.toList = .ok p →
    ∀ h ∈ hits, ∃ found ∈ p.allMatches o.text.toList, h.Found p found
  /-- The replacement is resolved where the match and its groups have names; when it is an expression,
  the evaluator is asked for its value once. -/
  sees : ∀ h ∈ hits, ∃ inner, Sees s.scope.bindings inner h.groups ∧
    r.replacementFor e s.scope.bindings h = e.resolve inner r.replacement ∧
    ∀ x, r.replacement.toList = '!' :: x →
      e.resolve inner r.replacement = e.evaluate inner (String.ofList (trim x)) >>= asText
  /-- Without a match the outcome is what it was. -/
  none : hits = [] →
    act (r.apply e s.scope.bindings o) s = .ok o { s with machine := m }
  /-- When the replacement of each match can be computed, one after the other, they stand for the
  matches, and nothing else has been done. -/
  all : ∀ news m', hits ≠ [] →
    hits.mapM (r.replacementFor e s.scope.bindings) m = .ok news m' →
    act (r.apply e s.scope.bindings o) s =
      .ok ⟨true, String.ofList (weave (gaps o.text.toList hits) (news.map String.toList))⟩
        { s with machine := m' }
  /-- When one fails, those after it are not computed, and the diagnostic is all that is left. -/
  nothing : ∀ before h after news m₁ f m', hits = before ++ h :: after →
    before.mapM (r.replacementFor e s.scope.bindings) m = .ok news m₁ →
    r.replacementFor e s.scope.bindings h m₁ = .error f m' →
    act (r.apply e s.scope.bindings o) s = .ok ⟨o.hit, r.diagnosticText f⟩ { s with machine := m' }

section Rules

variable {r : Rule} {e : Evaluator} {s : Session} {o : Outcome} {pattern : String}
  {m m' m₁ : Machine} {hits : List Hit}

theorem Rule.matchesIn_of_hits {b : Bindings} {t : String}
    (hpattern : e.resolve b r.pattern m = .ok pattern m')
    (hhits : r.mode.hits pattern.toList t.toList = .ok hits) :
    r.matchesIn e b t m = .ok hits m' := by
  rw [matchesIn, bind_of_ok hpattern, hhits]
  rfl

theorem Rule.laid_of_matchesIn {b : Bindings} {t : String}
    (h : r.matchesIn e b t m = .ok hits m') : Laid t.toList 0 hits := by
  obtain ⟨pattern, m₁, -, hofExcept⟩ := bind_eq_ok_iff.mp h
  cases hhits : r.mode.hits pattern.toList t.toList with
  | ok found =>
    rw [hhits] at hofExcept
    cases hofExcept
    exact MatchMode.laid_of_hits hhits
  | error f =>
    rw [hhits] at hofExcept
    cases hofExcept

/-- A rule that has computed all its replacements puts them for the matches. -/
theorem Rule.apply_of_mapM {b : Bindings} {news : List String}
    (hmatches : r.matchesIn e b o.text m = .ok hits m₁)
    (hsome : hits ≠ []) (hnews : hits.mapM (r.replacementFor e b) m₁ = .ok news m') :
    r.apply e b o m =
      .ok ⟨true, String.ofList (weave (gaps o.text.toList hits) (news.map String.toList))⟩ m' := by
  obtain ⟨h, hs, rfl⟩ := List.exists_cons_of_ne_nil hsome
  have hreplaced := replaceHits_of_mapM (laid_of_matchesIn hmatches) hnews
  rw [List.drop_zero] at hreplaced
  rw [apply_eq_matchesIn_bind, bind_of_ok hmatches]
  exact respond_of_ok hreplaced

/-- **A rule replaces all matches or none.** Where the text of the pattern has been found, in the
scope's own bindings, and its matches, the rule keeps the line, puts a replacement for each match and
keeps everything between them, or leaves the diagnostic of the first replacement that fails. -/
theorem Rule.replaces_all_or_nothing
    (hpattern : e.resolve s.scope.bindings r.pattern s.machine = .ok pattern m)
    (hhits : r.mode.hits pattern.toList o.text.toList = .ok hits) :
    r.AllOrNothing e s o pattern m hits := by
  have hmatches : r.matchesIn e s.scope.bindings o.text s.machine = .ok hits m :=
    matchesIn_of_hits hpattern hhits
  have hlaid : Laid o.text.toList 0 hits := MatchMode.laid_of_hits hhits
  refine ⟨hlaid, hlaid.weave_gapsFrom, ?_, ?_, ?_, ?_, ?_, ?_⟩
  · intro hmode h hmem
    rw [hmode] at hhits
    cases hhits
    obtain ⟨i, -, rfl⟩ := List.mem_map.mp hmem
    rfl
  · intro p hmode hp h hmem
    rw [hmode] at hhits
    simp only [MatchMode.hits, hp] at hhits
    cases hhits
    obtain ⟨found, hfound, rfl⟩ := List.mem_map.mp hmem
    exact ⟨found, hfound, found_hit p found⟩
  · intro h _
    refine ⟨_, sees_captures s.scope.bindings h.groups, rfl, fun x hx => ?_⟩
    rw [Evaluator.resolve, hx]
    rfl
  · rintro rfl
    exact act_of_ok (r.apply_of_no_match hmatches)
  · intro news m' hsome hnews
    exact act_of_ok (apply_of_mapM hmatches hsome hnews)
  · rintro before h after news m₁ f m' rfl hbefore hfail
    rw [← failedText_eq]
    exact act_of_ok (apply_of_failing ⟨before, h, after, news, m, m₁, hmatches, hbefore, hfail⟩)

end Rules

/-! ## A rule that keeps a group -/

/-- An evaluator whose expressions are names. -/
def namesOnly : Evaluator where
  evaluate b text := return (b.get? text).getD .none
  execute b _ := return (.none, b.inner)

/-- A rule that puts the group for the match. The second branch has no part in the group. -/
def keepingRule : Rule := ⟨.regex, "(a)|b", "!_1"⟩

/-- The matches of the rule in "xaby". -/
def keepingHits : List Hit := [⟨1, 2, [['a'], ['a']]⟩, ⟨2, 3, [['b'], []]⟩]

theorem hits_keeping : keepingRule.mode.hits "(a)|b".toList "xaby".toList = .ok keepingHits := by
  decide +kernel

/-- The rule keeps what is outside of the matches and the text of the group. -/
theorem Rule.replaces_all_or_nothing_keeping :
    namesOnly.resolve {} keepingRule.pattern {} = .ok "(a)|b" {} ∧
      keepingRule.mode.hits "(a)|b".toList "xaby".toList = .ok keepingHits ∧
      keepingRule.AllOrNothing namesOnly { scope := {} } (Outcome.initial "xaby") "(a)|b" {}
        keepingHits ∧
      act (keepingRule.apply namesOnly {} (Outcome.initial "xaby")) { scope := {} } =
        .ok ⟨true, "xay"⟩ { scope := {} } := by
  have hall : keepingRule.AllOrNothing namesOnly { scope := {} } (Outcome.initial "xaby") "(a)|b" {}
      keepingHits := Rule.replaces_all_or_nothing rfl hits_keeping
  have hkept : String.ofList (weave (gaps "xaby".toList keepingHits)
      (["a", ""].map String.toList)) = "xay" := by decide
  refine ⟨rfl, hits_keeping, hall, ?_⟩
  rw [← hkept]
  exact hall.all ["a", ""] {} nofun rfl

end Stencil
