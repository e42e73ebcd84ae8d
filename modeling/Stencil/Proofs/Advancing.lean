import Stencil.Proofs.Matching
/-!
# Stencil.Proofs.Advancing -- matching only goes forward

A pattern is matched by handing places on, and every place that is handed on lies further on in the
text, whatever choices are tried in between: what stands before a place is looked at without leaving
it. So a match ends where it begins or further on, and the matches of a text, each searched for from
where the one before it has ended, stand one behind the other.

What the groups have matched is handed on with the place, and only added to. So a group that stands on
the way of every match takes part in it.
-/

namespace Stencil.Pattern

/-! ## Places further on -/

/-- A place of the same text, some characters further on. -/
def Cursor.Leads (c d : Cursor) : Prop := ∃ n ≤ c.after.length, d = c.ahead n

namespace Cursor.Leads

variable {c d d' : Cursor}

theorem refl (c : Cursor) : c.Leads c := ⟨0, Nat.zero_le _, rfl⟩

theorem trans (h : c.Leads d) (h' : d.Leads d') : c.Leads d' := by
  obtain ⟨m, hm, rfl⟩ := h
  obtain ⟨n, hn, rfl⟩ := h'
  have hrest : (c.ahead m).after.length = c.after.length - m := List.length_drop
  exact ⟨m + n, by omega, Cursor.ahead_ahead c m n⟩

/-- Where a text goes on, there is a place one character further on. -/
theorem ahead_one {a : Char} {r : List Char} (h : c.after = a :: r) : c.Leads (c.ahead 1) :=
  ⟨1, by simp [h], rfl⟩

/-- Passing a text leads further on. -/
theorem of_passChars {f : Flags} {s : List Char} (h : passChars f s c = some d) : c.Leads d := by
  induction s generalizing c with
  | nil =>
    cases h
    exact refl _
  | cons a s ih =>
    rw [passChars, Cursor.forward] at h
    cases hafter : c.after with
    | nil => simp [hafter] at h
    | cons b r =>
      have hone : c.ahead 1 = ⟨c.pos + 1, b :: c.before, r⟩ := by simp [Cursor.ahead, hafter]
      simp only [hafter] at h
      split at h
      · exact (ahead_one hafter).trans (ih (hone ▸ h))
      · cases h

end Cursor.Leads

/-- A trail further on: its place lies further on, and what the groups have matched is kept. -/
structure Trail.Leads (t t' : Trail) : Prop where
  here : t.here.Leads t'.here
  groups : t.groups <:+ t'.groups

namespace Trail.Leads

variable {t t' t'' : Trail}

theorem refl (t : Trail) : t.Leads t := ⟨.refl t.here, List.suffix_rfl⟩

theorem trans (h : t.Leads t') (h' : t'.Leads t'') : t.Leads t'' :=
  ⟨h.here.trans h'.here, h.groups.trans h'.groups⟩

/-- That a group has matched is noted on a trail; the place stays. -/
theorem grouped (h : t.Leads t') (i : Nat) (since : Trail) : t.Leads (t'.grouped i since) :=
  ⟨h.here, h.groups.trans (List.suffix_cons _ _)⟩

end Trail.Leads

/-! ## What is handed on -/

/-- What one continuation accepts on a trail, another one accepts there or further on. -/
def Onto (k' k : Next) : Prop :=
  ∀ t found, k' t = some found → ∃ t' : Trail, t.Leads t' ∧ k t' = some found

/-- A way of matching only hands on places further on. -/
def Advances (body : Trail → Next → Option Trail) : Prop := ∀ k, Onto (fun t => body t k) k

section Continuations

variable {k k' : Next} {body : Trail → Next → Option Trail}

theorem Onto.refl (k : Next) : Onto k k := fun t _ h => ⟨t, .refl t, h⟩

theorem Onto.trans {k'' : Next} (h : Onto k'' k') (h' : Onto k' k) : Onto k'' k := by
  intro t found hfound
  obtain ⟨t', hlead, hnext⟩ := h t found hfound
  obtain ⟨t'', hlead', hend⟩ := h' t' found hnext
  exact ⟨t'', hlead.trans hlead', hend⟩

theorem Advances.onto (h : Advances body) (hk : Onto k' k) : Onto (fun t => body t k') k :=
  (h k').trans hk

/-- What is matched on its own, whatever follows, ends further on. -/
theorem Advances.leads (h : Advances body) {t t' : Trail} (hbody : body t some = some t') :
    t.Leads t' := by
  obtain ⟨u, hlead, hu⟩ := h some t t' hbody
  cases hu
  exact hlead

theorem Advances.greedyRounds (h : Advances body) (least most : Nat) (k : Next)
    (fuel count : Nat) (last : Option Nat) :
    Onto (greedyRounds body least most k fuel count last) k := by
  induction fuel generalizing count last with
  | zero => nofun
  | succ fuel ih =>
    intro t found hfound
    rw [Pattern.greedyRounds] at hfound
    split at hfound
    · exact h.onto (ih _ _) t found hfound
    · split at hfound
      · split at hfound
        · next hround =>
          cases hfound
          exact h.onto (ih _ _) t _ hround
        · exact Onto.refl k t found hfound
      · exact Onto.refl k t found hfound

theorem Advances.lazyRounds (h : Advances body) (least most : Nat) (k : Next)
    (fuel count : Nat) (last : Option Nat) :
    Onto (lazyRounds body least most k fuel count last) k := by
  induction fuel generalizing count last with
  | zero => nofun
  | succ fuel ih =>
    intro t found hfound
    rw [Pattern.lazyRounds] at hfound
    split at hfound
    · exact h.onto (ih _ _) t found hfound
    · split at hfound
      · next hnext =>
        cases hfound
        exact Onto.refl k t _ hnext
      · split at hfound
        · exact h.onto (ih _ _) t found hfound
        · cases hfound

theorem Advances.possessiveRounds (h : Advances body) (least most : Nat)
    (fuel count : Nat) (last : Option Nat) {t t' : Trail}
    (hrounds : possessiveRounds body least most fuel count last t = some t') : t.Leads t' := by
  induction fuel generalizing count last t with
  | zero => cases hrounds
  | succ fuel ih =>
    rw [Pattern.possessiveRounds] at hrounds
    split at hrounds
    · split at hrounds
      · next hround => exact (h.leads hround).trans (ih _ _ hrounds)
      · cases hrounds
    · split at hrounds
      · split at hrounds
        · next hround => exact (h.leads hround).trans (ih _ _ hrounds)
        · cases hrounds
          exact .refl _
      · cases hrounds
        exact .refl _

end Continuations

theorem Node.Takes.advances {n : Node} {p : Char → Bool} (h : n.Takes p) (x : Subject) :
    Advances (n.follow x) := by
  intro k t found hfound
  simp only [h x t k] at hfound
  split at hfound
  · cases hfound
  · next hafter =>
    split at hfound
    · exact ⟨t.ahead 1, ⟨Cursor.Leads.ahead_one hafter, List.suffix_rfl⟩, hfound⟩
    · cases hfound

mutual

/-- However a pattern is matched, it only goes forward. -/
theorem Node.advances (x : Subject) (n : Node) : Advances (n.follow x) := by
  intro k
  cases n with
  | one negated items flags => exact (takes_one negated items flags).advances x k
  | any dotAll => exact (takes_dot dotAll).advances x k
  | anchor a ascii =>
    intro t found hfound
    simp only [follow_anchor] at hfound
    split at hfound
    · exact Onto.refl k t found hfound
    · cases hfound
  | sequence parts => exact advances_followAll x parts k
  | choice branches => exact advances_followAny x branches k
  | loop least most greed body =>
    have hbody : Advances (body.follow x) := body.advances x
    cases greed with
    | greedy => exact hbody.greedyRounds least most k _ 0 none
    | lazy => exact hbody.lazyRounds least most k _ 0 none
    | possessive =>
      intro t found hfound
      obtain ⟨t', hrounds, hnext⟩ := Option.bind_eq_some_iff.mp hfound
      exact ⟨t', hbody.possessiveRounds least most _ 0 none hrounds, hnext⟩
  | group index body =>
    cases index with
    | none => exact body.advances x k
    | some i =>
      intro t found hfound
      obtain ⟨t', hlead, hnext⟩ := body.advances x (fun t' => k (t'.grouped i t)) t found hfound
      exact ⟨t'.grouped i t, hlead.grouped i t, hnext⟩
  | atomic body =>
    intro t found hfound
    obtain ⟨t', hmatch, hnext⟩ := Option.bind_eq_some_iff.mp hfound
    exact ⟨t', (body.advances x).leads hmatch, hnext⟩
  | look behind negated body =>
    intro t found hfound
    simp only [Node.follow] at hfound
    -- What is looked at may stand anywhere, but matching goes on from where it was.
    split at hfound
    · next t' hlooked =>
      split at hfound
      · cases hfound
      · obtain ⟨c, -, hbody⟩ := Option.bind_eq_some_iff.mp hlooked
        have hkept : t.groups <:+ t'.groups := ((body.advances x).leads hbody).groups
        exact ⟨{ t with groups := t'.groups }, ⟨.refl t.here, hkept⟩, hfound⟩
    · split at hfound
      · exact Onto.refl k t found hfound
      · cases hfound
  | again index flags =>
    intro t found hfound
    simp only [Node.follow] at hfound
    split at hfound
    · split at hfound
      · next c hpass =>
        exact ⟨{ t with here := c }, ⟨.of_passChars hpass, List.suffix_rfl⟩, hfound⟩
      · cases hfound
    · cases hfound
  | conditional index yes no =>
    intro t found hfound
    simp only [Node.follow] at hfound
    split at hfound
    · exact yes.advances x k t found hfound
    · exact no.advances x k t found hfound
  | never => nofun

theorem advances_followAll (x : Subject) (ns : List Node) :
    Advances fun t k => followAll x ns t k := by
  intro k
  cases ns with
  | nil => exact Onto.refl k
  | cons n ns => exact (n.advances x).onto (advances_followAll x ns k)

theorem advances_followAny (x : Subject) (ns : List Node) :
    Advances fun t k => followAny x ns t k := by
  intro k t found hfound
  cases ns with
  | nil => cases hfound
  | cons n ns =>
    simp only [followAny] at hfound
    split at hfound
    · next hfirst =>
      cases hfound
      exact n.advances x k t _ hfirst
    · exact advances_followAny x ns k t found hfound

end

/-! ## Groups that take part -/

section Parts

variable {x : Subject} {t found : Trail} {k : Next} {ns : List Node}

/-- The way to the last of several parts, and from there on. -/
theorem followAll_last {n : Node} (h : followAll x (ns ++ [n]) t k = some found) :
    ∃ t', t.Leads t' ∧ n.follow x t' k = some found := by
  induction ns generalizing t with
  | nil => exact ⟨t, .refl t, h⟩
  | cons m ns ih =>
    obtain ⟨t₁, hlead, hnext⟩ := m.advances x _ t found h
    obtain ⟨t', hlead', hlast⟩ := ih hnext
    exact ⟨t', hlead.trans hlead', hlast⟩

/-- A group among the parts of a pattern has matched something by the time that all parts have. -/
theorem followAll_group {i : Nat} {body : Node} (hmem : .group (some i) body ∈ ns)
    (h : followAll x ns t k = some found) :
    ∃ t', (t'.groups.lookup i).isSome ∧ k t' = some found := by
  induction ns generalizing t with
  | nil => cases hmem
  | cons n ns ih =>
    rw [followAll_cons] at h
    rcases List.mem_cons.mp hmem with rfl | hmem
    · rw [follow_group] at h
      obtain ⟨t₁, -, hnext⟩ := body.advances x _ t found h
      obtain ⟨t', hlead, hend⟩ := advances_followAll x ns k _ found hnext
      have hnoted : (i, ⟨t.here, t₁.here⟩) ∈ t'.groups := hlead.groups.mem List.mem_cons_self
      exact ⟨t', List.lookup_isSome_iff.mpr ⟨_, hnoted, beq_self_eq_true i⟩, hend⟩
    · obtain ⟨t₁, -, hnext⟩ := n.advances x _ t found h
      exact ih hmem hnext

end Parts

/-! ## Matches -/

variable {p : Pattern} {length : Nat} {advance : Bool} {m : Match}

/-- A match stands at the place where it was looked for. -/
theorem matchAt_leads {c : Cursor} (h : p.matchAt length advance c = some m) :
    m.span.start = c ∧ c.Leads m.span.stop := by
  rw [matchAt] at h
  obtain ⟨t, hfollow, rfl⟩ := Option.map_eq_some_iff.mp h
  obtain ⟨t', hlead, hend⟩ := p.node.advances _ _ _ _ hfollow
  refine ⟨rfl, ?_⟩
  simp only at hend
  split at hend
  · cases hend
  · cases hend
    exact hlead.here

/-- The first match from a place on begins there or further on, and ends where it begins or further
on. -/
theorem searchFrom_leads {pos : Nat} {before after : List Char}
    (h : p.searchFrom length advance pos before after = some m) :
    (⟨pos, before, after⟩ : Cursor).Leads m.span.start ∧ m.span.start.Leads m.span.stop := by
  induction after generalizing pos before advance with
  | nil =>
    rw [searchFrom] at h
    obtain ⟨hstart, hstop⟩ := matchAt_leads h
    rw [hstart]
    exact ⟨.refl _, hstop⟩
  | cons a r ih =>
    rw [searchFrom] at h
    split at h
    · next hmatch =>
      cases h
      obtain ⟨hstart, hstop⟩ := matchAt_leads hmatch
      rw [hstart]
      exact ⟨.refl _, hstop⟩
    · obtain ⟨hstart, hstop⟩ := ih h
      have hone : (⟨pos, before, a :: r⟩ : Cursor).Leads ⟨pos + 1, a :: before, r⟩ :=
        ⟨1, by simp, rfl⟩
      exact ⟨hone.trans hstart, hstop⟩

end Stencil.Pattern
