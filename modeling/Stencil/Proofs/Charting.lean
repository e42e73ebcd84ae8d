import Stencil.Expr.Program
import Stencil.Proofs.Effects
/-!
# Stencil.Proofs.Charting -- what rules read, as a chart

Rules call each other through a table of what has been read where, and only to a depth. What they
read is therefore told by a chart: for each rule and each token, what the rule reads there and with
which token it goes on, or that it does not fit. A table is sound when it only says what the chart
says, and reading keeps it so. Each way of putting readings together then has a law for where it
fits and a law for where it is refused, in which the table is not seen any more.

Only the first of the two ways of reading is charted, the one without objections.
-/

namespace Stencil.Expr.Grammar

variable {α β : Type}

/-! ## The table -/

theorem Rule.ctorIdx_injective : Function.Injective Rule.ctorIdx := fun r r' h => by
  rw [← Rule.ofNat_ctorIdx r, ← Rule.ofNat_ctorIdx r', h]

theorem compare_place (p q : Place) :
    compare p q = (compare p.token q.token).then
      ((compare p.rule.ctorIdx q.rule.ctorIdx).then (compare p.objecting q.objecting)) := by
  show (compare p.token q.token).then (_ : Ordering) = _
  rw [Ordering.then_eq]
  rfl

/-- Places are ordered by their parts, one after the other. -/
theorem compare_place_lex :
    (compare : Place → Place → Ordering) = compareLex (compareOn (·.token))
      (compareLex (compareOn (·.rule.ctorIdx)) (compareOn (·.objecting))) := by
  funext p q
  rw [compare_place]
  rfl

instance : Std.TransCmp (compare : Place → Place → Ordering) := by
  rw [compare_place_lex]
  infer_instance

theorem eq_of_compare_place {p q : Place} (h : compare p q = .eq) : p = q := by
  obtain ⟨i, r, b⟩ := p
  obtain ⟨j, r', b'⟩ := q
  rw [compare_place, Ordering.then_eq_eq, Ordering.then_eq_eq] at h
  obtain ⟨hi, hr, hb⟩ := h
  cases Std.LawfulEqOrd.eq_of_compare hi
  cases Rule.ctorIdx_injective (Std.LawfulEqOrd.eq_of_compare hr)
  cases Std.LawfulEqOrd.eq_of_compare hb
  rfl

/-! ## Charts -/

/-- The tokens of a text, and what each rule reads at each of them: the node and the token with
which reading goes on, or nothing where the rule does not fit. -/
structure Chart where
  tokens : Tokens
  readField : Nat → List Char → Except GrammarFault Term
  answer : Nat → Rule → Option (Node × Nat)

namespace Chart

variable (c : Chart)

/-- How the text is read. -/
def setting : Setting := ⟨c.tokens, false, false, c.readField⟩

/-- The table says of the rules only what the chart says. -/
def Sound (s : Progress) : Prop :=
  ∀ i r o, s.table[(⟨i, r, false⟩ : Place)]? = some o → o = c.answer i r

/-- A reading fits at a token, gives something and goes on with another token. -/
def Fits (p : Read α) (i : Nat) (a : α) (j : Nat) : Prop :=
  ∀ s, s.next = i → c.Sound s → ∃ s', p c.setting s = .ok a s' ∧ s'.next = j ∧ c.Sound s'

/-- A reading does not fit at a token. -/
def Refuses (p : Read α) (i : Nat) : Prop :=
  ∀ s, s.next = i → c.Sound s → ∃ s', p c.setting s = .error .mismatch s' ∧ c.Sound s'

/-- A reading does what an entry of the chart says. -/
def Obeys (p : Read α) (i : Nat) : Option (α × Nat) → Prop
  | some (a, j) => c.Fits p i a j
  | none => c.Refuses p i

variable {c}

theorem sound_empty : c.Sound {} := by
  intro i r o h
  simp at h

theorem Sound.insert {s s' : Progress} {i : Nat} {r : Rule} {o : Option (Node × Nat)}
    (h : c.Sound s) (ho : o = c.answer i r)
    (hs : s'.table = s.table.insert ⟨i, r, false⟩ o) : c.Sound s' := by
  intro i' r' o' h'
  rw [hs, Std.TreeMap.getElem?_insert] at h'
  split at h'
  · rename_i heq
    cases eq_of_compare_place heq
    rw [← Option.some.inj h', ho]
  · exact h i' r' o' h'

/-! ## Putting readings together -/

section

variable {p q : Read α} {ps : List (Read α)} {k : α → Read β} {i j l : Nat} {a : α} {b : β}

theorem fits_pure (a : α) (i : Nat) : c.Fits (pure a) i a i :=
  fun s hi hs => ⟨s, rfl, hi, hs⟩

theorem refuses_mismatch (i : Nat) : c.Refuses (mismatch : Read α) i :=
  fun s _ hs => ⟨s, rfl, hs⟩

theorem Fits.bind (hp : c.Fits p i a j) (hk : c.Fits (k a) j b l) : c.Fits (p >>= k) i b l := by
  intro s hi hs
  obtain ⟨s', hrun, hj, hs'⟩ := hp s hi hs
  obtain ⟨t, hrun', hl, ht⟩ := hk s' hj hs'
  refine ⟨t, ?_, hl, ht⟩
  show (p c.setting >>= fun a => k a c.setting) s = _
  rw [bind_of_ok hrun, hrun']

theorem Fits.bind_refuses (hp : c.Fits p i a j) (hk : c.Refuses (k a) j) :
    c.Refuses (p >>= k) i := by
  intro s hi hs
  obtain ⟨s', hrun, hj, hs'⟩ := hp s hi hs
  obtain ⟨t, hrun', ht⟩ := hk s' hj hs'
  refine ⟨t, ?_, ht⟩
  show (p c.setting >>= fun a => k a c.setting) s = _
  rw [bind_of_ok hrun, hrun']

theorem Refuses.bind (hp : c.Refuses p i) : c.Refuses (p >>= k) i := by
  intro s hi hs
  obtain ⟨s', hrun, hs'⟩ := hp s hi hs
  refine ⟨s', ?_, hs'⟩
  show (p c.setting >>= fun a => k a c.setting) s = _
  rw [bind_of_error hrun]

theorem Fits.discard (hp : c.Fits p i a j) : c.Fits (discard p) i () j := hp.bind (fits_pure _ _)

theorem Refuses.discard (hp : c.Refuses p i) : c.Refuses (Functor.discard p) i := hp.bind

theorem Fits.attempt (hp : c.Fits p i a j) : c.Fits (attempt p) i (some a) j := by
  intro s hi hs
  obtain ⟨s', hrun, hj, hs'⟩ := hp s hi hs
  refine ⟨s', ?_, hj, hs'⟩
  show backUnlessFit s.next (p c.setting s) = _
  rw [hrun, backUnlessFit]

/-- Where a reading does not fit, trying it reads nothing. -/
theorem Refuses.attempt (hp : c.Refuses p i) : c.Fits (attempt p) i none i := by
  intro s hi hs
  obtain ⟨s', hrun, hs'⟩ := hp s hi hs
  refine ⟨{ s' with next := s.next }, ?_, hi, hs'⟩
  show backUnlessFit s.next (p c.setting s) = _
  rw [hrun, backUnlessFit]

/-- Nothing fits when there is nothing to choose from. -/
theorem Refuses.nil (i : Nat) : c.Refuses (firstOf ([] : List (Read α))) i := refuses_mismatch i

theorem Refuses.cons (hp : c.Refuses p i) (hps : c.Refuses (firstOf ps) i) :
    c.Refuses (firstOf (p :: ps)) i := by
  cases ps with
  | nil => exact hp
  | cons q ps => exact hp.attempt.bind_refuses hps

theorem refuses_firstOf (h : ∀ p ∈ ps, c.Refuses p i) : c.Refuses (firstOf ps) i := by
  induction ps with
  | nil => exact .nil i
  | cons p ps ih =>
    exact (h p List.mem_cons_self).cons (ih fun q hq => h q (List.mem_cons_of_mem p hq))

/-- The first alternative is taken where it fits. -/
theorem Fits.head (hp : c.Fits p i a j) : c.Fits (firstOf (p :: ps)) i a j := by
  cases ps with
  | nil => exact hp
  | cons q ps => exact hp.attempt.bind (fits_pure _ _)

/-- An alternative that does not fit is passed over. -/
theorem Fits.tail (hp : c.Refuses p i) (hps : c.Fits (firstOf ps) i a j) :
    c.Fits (firstOf (p :: ps)) i a j := by
  cases ps with
  | nil =>
    obtain ⟨_, hrun, _⟩ := hps ⟨i, 0, {}⟩ rfl sound_empty
    cases hrun
  | cons q ps => exact hp.attempt.bind hps

theorem Refuses.ahead (hp : c.Refuses p i) : c.Refuses (ahead p) i := by
  intro s hi hs
  obtain ⟨s', hrun, hs'⟩ := hp s hi hs
  refine ⟨s', ?_, hs'⟩
  show backAfter s.next (p c.setting s) = _
  rw [hrun, backAfter]

theorem Refuses.notAhead (hp : c.Refuses p i) : c.Fits (notAhead p) i () i :=
  hp.ahead.attempt.bind (fits_pure _ _)

theorem fits_read (i : Nat) : c.Fits read i c.setting i := fun s hi hs => ⟨s, rfl, hi, hs⟩

/-- Where a reading does not fit, repeating it reads nothing. -/
theorem Refuses.many (hp : c.Refuses p i) : c.Fits (many p) i [] i :=
  (fits_read i).bind (hp.attempt.bind (fits_pure _ _))

theorem Fits.many1 (hp : c.Fits p i a j) (hq : c.Refuses p j) : c.Fits (many1 p) i [a] j :=
  hp.bind (hq.many.bind (fits_pure _ _))

theorem Refuses.many1 (hp : c.Refuses p i) : c.Refuses (many1 p) i := hp.bind

theorem Refuses.separated {sep : Read β} (hp : c.Refuses p i) :
    c.Refuses (separated p sep) i := hp.bind

/-- Nothing is objected to. -/
theorem refuses_objection (p : Read α) (i : Nat) : c.Refuses (objection p) i :=
  (fits_read i).bind_refuses (refuses_mismatch i)

end

/-! ## Tokens -/

section

variable {i : Nat} {t : Token} {ok : Token → Bool}

theorem fits_peek (ht : c.tokens.items[i]? = some t) : c.Fits peek i t i := by
  intro s hi hs
  refine ⟨{ s with seen := max s.seen (s.next + 1) }, ?_, hi, hs⟩
  have hnext : c.setting.tokens.items[s.next]? = some t := by
    rw [hi]
    exact ht
  simp only [peek, hnext]

theorem fits_advance (i : Nat) : c.Fits advance i () (i + 1) :=
  fun s hi hs => ⟨{ s with next := s.next + 1 }, rfl, congrArg (· + 1) hi, hs⟩

theorem fits_tokenWhere (ht : c.tokens.items[i]? = some t) (hok : ok t) :
    c.Fits (tokenWhere ok) i t (i + 1) := by
  refine (fits_peek ht).bind ?_
  rw [guarded, if_pos hok]
  exact (fits_advance i).bind (fits_pure _ _)

theorem refuses_tokenWhere (ht : c.tokens.items[i]? = some t) (hok : ok t = false) :
    c.Refuses (tokenWhere ok) i := by
  refine (fits_peek ht).bind_refuses ?_
  rw [guarded, if_neg (by rw [hok]; exact Bool.false_ne_true)]
  exact refuses_mismatch i

end

/-! ## Rules -/

section

variable {call : Call} {r : Rule} {i j : Nat}

theorem Fits.phrase {p : Phrase} (h : c.Fits (call.node r) i (.phrase p) j) :
    c.Fits (call.phrase r) i p j := h.bind (fits_pure _ _)

theorem Refuses.phrase (h : c.Refuses (call.node r) i) : c.Refuses (call.phrase r) i :=
  h.bind

theorem Fits.statements {ss : List Statement} (h : c.Fits (call.node r) i (.statements ss) j) :
    c.Fits (call.statements r) i ss j := h.bind (fits_pure _ _)

theorem Refuses.statements (h : c.Refuses (call.node r) i) :
    c.Refuses (call.statements r) i := h.bind

theorem Refuses.skip (h : c.Refuses (call.node r) i) : c.Refuses (call.skip r) i :=
  h.discard

/-- What has been read before is read again from the table. -/
theorem remembered_found {p : Read Node} {s : Progress} {o : Option (Node × Nat)}
    (h : s.table[(⟨s.next, r, false⟩ : Place)]? = some o) :
    remembered r p c.setting s = match o with
      | some (n, next) => .ok n { s with next := next }
      | none => .error .mismatch s := by
  have hplace : (!r.isShared && c.setting.objecting) = false := Bool.and_false _
  simp only [remembered, hplace, h]
  cases o <;> rfl

/-- What is read for the first time is kept in the table. -/
theorem remembered_new {p : Read Node} {s : Progress}
    (h : s.table[(⟨s.next, r, false⟩ : Place)]? = none) :
    remembered r p c.setting s = match p c.setting s with
      | .ok n s' => .ok n { s' with table := s'.table.insert ⟨s.next, r, false⟩ (some (n, s'.next)) }
      | .error .mismatch s' =>
        .error .mismatch { s' with table := s'.table.insert ⟨s.next, r, false⟩ none }
      | .error e s' => .error e s' := by
  have hplace : (!r.isShared && c.setting.objecting) = false := Bool.and_false _
  cases hrun : p c.setting s with
  | ok n s' => simp only [remembered, hplace, h, hrun]
  | error e s' => cases e <;> simp only [remembered, hplace, h, hrun]

/-- Keeping what a rule reads changes nothing, and keeps the table sound. -/
theorem Obeys.remembered {p : Read Node} (h : c.Obeys p i (c.answer i r)) :
    c.Obeys (remembered r p) i (c.answer i r) := by
  generalize ho : c.answer i r = o at h
  cases o with
  | none =>
    rintro s rfl hs
    cases hfound : s.table[(⟨s.next, r, false⟩ : Place)]? with
    | some o =>
      obtain rfl : o = none := (hs _ r o hfound).trans ho
      exact ⟨s, remembered_found hfound, hs⟩
    | none =>
      obtain ⟨s', hrun, hs'⟩ := h s rfl hs
      rw [remembered_new hfound, hrun]
      exact ⟨_, rfl, hs'.insert ho.symm rfl⟩
  | some found =>
    rintro s rfl hs
    cases hfound : s.table[(⟨s.next, r, false⟩ : Place)]? with
    | some o =>
      obtain rfl : o = some found := (hs _ r o hfound).trans ho
      exact ⟨_, remembered_found hfound, rfl, hs⟩
    | none =>
      obtain ⟨s', hrun, hj, hs'⟩ := h s rfl hs
      rw [remembered_new hfound, hrun]
      exact ⟨_, rfl, hj, hs'.insert (hj ▸ ho.symm) rfl⟩

end

end Chart

end Stencil.Expr.Grammar
