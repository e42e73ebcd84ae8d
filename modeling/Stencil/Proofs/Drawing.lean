import Stencil.Expr.Iterate
import Stencil.Proofs.Effects
/-!
# Stencil.Proofs.Drawing -- what iterators have left

An iterator hands out one value at a time, and what it has left can be told beforehand: the rest of
the values it was given, the numbers of its run, the entries a dictionary had when the iterator was
made, the items of a list from its position on, the slots of the table of a set from its place on. A
machine may change in many ways while it runs, but cells keep their kinds and iterators never go
back, so an iterator gets more only when the list that it follows becomes longer, or the table of the
set. Asking for a value makes what is left smaller.
-/

namespace Stencil.Expr

/-! ## Machines that change -/

/-- What an iterator can come to: it keeps to what it runs through, it does not go back, and once it
is used up it stays so. -/
inductive Iter.Later : Iter → Iter → Prop
  | finished {it : Iter} : Later it .finished
  | forward {l : Ref} {i j : Nat} : i ≤ j → Later (.forward l i) (.forward l j)
  | backward {l : Ref} {n k : Nat} : k ≤ n → Later (.backward l n) (.backward l k)
  | fixed {vs ws : List Value} : ws <:+ vs → Later (.fixed vs) (.fixed ws)
  | run {n n' step : Int} {k k' : Nat} : k' ≤ k → Later (.run n step k) (.run n' step k')
  | entries {kind : ViewKind} {d : Ref} {i j n k : Nat} {size size' : Option Nat} :
    i ≤ j → k ≤ n → Later (.entries kind d i size n) (.entries kind d j size' k)
  | entriesBack {kind : ViewKind} {d : Ref} {n k : Nat} {size size' : Option Nat} :
    k ≤ n → Later (.entriesBack kind d n size) (.entriesBack kind d k size')
  | members {s : Ref} {i j : Nat} {size size' : Option Nat} :
    i ≤ j → Later (.members s i size) (.members s j size')
  | numbered {inner : Ref} {n n' : Int} : Later (.numbered inner n) (.numbered inner n')
  | zipped {inners : List Ref} : Later (.zipped inners) (.zipped inners)

/-- What a cell can come to: it stays a list, a dictionary or a set, or a later state of the
iterator. -/
inductive Cell.Becomes : Cell → Cell → Prop
  | list {items items' : Array Value} : Becomes (.list items) (.list items')
  | dict {t t' : DictTable} : Becomes (.dict t) (.dict t')
  | set {t t' : SetTable} : Becomes (.set t) (.set t')
  | iterator {it it' : Iter} : it.Later it' → Becomes (.iterator it) (.iterator it')

/-- What a machine can come to: no cell is lost, and each is what it can have come to. -/
def Evolves (m m' : Machine) : Prop :=
  ∀ (r : Ref) (c : Cell), m.cells[r]? = some c → ∃ c', m'.cells[r]? = some c' ∧ c.Becomes c'

theorem Iter.Later.refl (it : Iter) : it.Later it := by
  cases it with
  | forward => exact .forward (Nat.le_refl _)
  | backward => exact .backward (Nat.le_refl _)
  | fixed => exact .fixed (List.suffix_refl _)
  | run => exact .run (Nat.le_refl _)
  | entries => exact .entries (Nat.le_refl _) (Nat.le_refl _)
  | entriesBack => exact .entriesBack (Nat.le_refl _)
  | members => exact .members (Nat.le_refl _)
  | numbered => exact .numbered
  | zipped => exact .zipped
  | finished => exact .finished

theorem Iter.Later.trans {a b c : Iter} (h : a.Later b) (h' : b.Later c) : a.Later c := by
  cases h' with
  | finished => exact .finished
  | forward hle' => cases h with | forward hle => exact .forward (Nat.le_trans hle hle')
  | backward hle' => cases h with | backward hle => exact .backward (Nat.le_trans hle' hle)
  | fixed hle' => cases h with | fixed hle => exact .fixed (hle'.trans hle)
  | run hle' => cases h with | run hle => exact .run (Nat.le_trans hle' hle)
  | entries hle' hless' =>
    cases h with | entries hle hless => exact .entries (Nat.le_trans hle hle') (Nat.le_trans hless' hless)
  | entriesBack hle' =>
    cases h with | entriesBack hle => exact .entriesBack (Nat.le_trans hle' hle)
  | members hle' => cases h with | members hle => exact .members (Nat.le_trans hle hle')
  | numbered => cases h with | numbered => exact .numbered
  | zipped => exact h

theorem Cell.Becomes.refl (c : Cell) : c.Becomes c := by
  cases c with
  | list => exact .list
  | dict => exact .dict
  | set => exact .set
  | iterator it => exact .iterator (.refl it)

theorem Cell.Becomes.trans {a b c : Cell} (h : a.Becomes b) (h' : b.Becomes c) : a.Becomes c := by
  cases h with
  | list => cases h' with | list => exact .list
  | dict => cases h' with | dict => exact .dict
  | set => cases h' with | set => exact .set
  | iterator hlater => cases h' with | iterator hlater' => exact .iterator (hlater.trans hlater')

namespace Evolves

variable {m m' m'' : Machine} {r : Ref}

/-- Only the cells matter. -/
theorem of_cells (h : m'.cells = m.cells) : Evolves m m' :=
  fun _ c hc => ⟨c, h ▸ hc, .refl c⟩

theorem refl (m : Machine) : Evolves m m := of_cells rfl

theorem trans (h : Evolves m m') (h' : Evolves m' m'') : Evolves m m'' := by
  intro r c hc
  obtain ⟨c', hc', hbecomes⟩ := h r c hc
  obtain ⟨c'', hc'', hbecomes'⟩ := h' r c' hc'
  exact ⟨c'', hc'', hbecomes.trans hbecomes'⟩

end Evolves

/-! ## What is left -/

/-- How far a collection reaches which is run through as it is: over the items of a list, and over the
slots of the table of a set. -/
def extent (m : Machine) (r : Ref) : Nat :=
  match m.cells[r]? with
  | some (.list items) => items.size
  | some (.set table) => table.slots.size
  | _ => 0

/-- How many values an iterator can still hand out at most, as the collections are now. Several
iterators in step hand out no more than the first of them. -/
def left (m : Machine) (r : Ref) : Nat :=
  match m.cells[r]? with
  | some (.iterator (.forward l i)) => extent m l - i
  | some (.iterator (.backward _ n)) => n
  | some (.iterator (.fixed vs)) => vs.length
  | some (.iterator (.run _ _ n)) => n
  | some (.iterator (.entries _ _ _ _ n)) => n
  | some (.iterator (.entriesBack _ _ n _)) => n
  | some (.iterator (.members s i _)) => extent m s - i
  | some (.iterator (.numbered inner _)) => if _ : inner < r then left m inner else 0
  | some (.iterator (.zipped (inner :: _))) => if _ : inner < r then left m inner else 0
  | _ => 0
termination_by r

/-- The list or the set that an iterator follows as it is, itself or by way of the iterator that it
numbers or that is the first of those in step. -/
def followed (m : Machine) (r : Ref) : Option Ref :=
  match m.cells[r]? with
  | some (.iterator (.forward l _)) => some l
  | some (.iterator (.members s _ _)) => some s
  | some (.iterator (.numbered inner _)) => if _ : inner < r then followed m inner else none
  | some (.iterator (.zipped (inner :: _))) => if _ : inner < r then followed m inner else none
  | _ => none
termination_by r

section Leaving

variable {m m' : Machine} {r : Ref}

theorem left_of_none (h : m.cells[r]? = none) : left m r = 0 := by
  rw [left, h]

/-- **What is left grows only with the collection.** An iterator has no more left in a machine that
has changed, unless the list that it follows has become longer, or the table of the set. -/
theorem left_le_or_longer (h : Evolves m m') (hr : r < m.cells.size) :
    left m' r ≤ left m r ∨ ∃ l, followed m r = some l ∧ extent m l < extent m' l := by
  induction r using Nat.strongRecOn with
  | ind r ih =>
    have hcell := Array.getElem?_eq_getElem hr
    obtain ⟨c', hcell', hbecomes⟩ := h r _ hcell
    generalize m.cells[r] = c at hcell hbecomes
    have hinner (q : Ref) :
        (if _ : q < r then left m' q else 0) ≤ (if _ : q < r then left m q else 0) ∨
          ∃ l, (if _ : q < r then followed m q else none) = some l ∧
            extent m l < extent m' l := by
      by_cases hq : q < r
      · simp only [dif_pos hq]
        exact ih q hq (Nat.lt_trans hq hr)
      · simp only [dif_neg hq]
        exact .inl (Nat.le_refl 0)
    rw [left, left, followed, hcell, hcell']
    cases hbecomes with
    | list | dict | set => exact .inl (Nat.zero_le _)
    | iterator hlater =>
      cases hlater with
      | finished => exact .inl (Nat.zero_le _)
      | @forward l i j hij | @members l i j _ _ hij =>
        rcases Nat.lt_or_ge (extent m l) (extent m' l) with hlonger | hle
        · exact .inr ⟨l, rfl, hlonger⟩
        · exact .inl (Nat.le_trans (Nat.sub_le_sub_left hij _) (Nat.sub_le_sub_right hle i))
      | fixed hsuffix => exact .inl hsuffix.length_le
      | backward hle | run hle | entries _ hle | entriesBack hle => exact .inl hle
      | @numbered inner => exact hinner inner
      | @zipped inners =>
        cases inners with
        | nil => exact .inl (Nat.le_refl 0)
        | cons inner rest => exact hinner inner

end Leaving

/-! ## Tables -/

/-- What is found at a place or behind it stands there. -/
theorem DictTable.le_of_firstAmong {places : Array (Option Entry)} {n i : Nat} {found : Nat × Entry}
    (h : firstAmong places n i = some found) : i ≤ found.1 := by
  induction n generalizing i with
  | zero => cases h
  | succ n ih =>
    rw [firstAmong] at h
    split at h
    · cases h
      exact Nat.le_refl i
    · exact Nat.le_of_succ_le (ih h)

theorem DictTable.lt_of_lastBelow {t : DictTable} {n : Nat} {found : Nat × Entry}
    (h : t.lastBelow n = some found) : found.1 < n := by
  induction n with
  | zero => cases h
  | succ n ih =>
    rw [lastBelow] at h
    split at h
    · cases h
      exact Nat.lt_succ_self n
    · exact Nat.lt_succ_of_lt (ih h)

theorem SetTable.bounds_of_firstAmong {slots : Array Slot} {n i : Nat} {found : Nat × Member}
    (h : firstAmong slots n i = some found) : i ≤ found.1 ∧ found.1 < i + n := by
  induction n generalizing i with
  | zero => cases h
  | succ n ih =>
    rw [firstAmong] at h
    split at h
    · cases h
      exact ⟨Nat.le_refl i, Nat.lt_add_of_pos_right (Nat.succ_pos n)⟩
    · have := ih h
      omega

/-- An empty set has no members. -/
theorem SetTable.firstFrom_empty (i : Nat) : ({} : SetTable).firstFrom i = none := by
  have hnone (n : Nat) : ∀ i, firstAmong (Array.replicate smallestTable .free) n i = none := by
    induction n with
    | zero => exact fun _ => rfl
    | succ n ih =>
      intro i
      have hfree : (Array.replicate smallestTable Slot.free).getD i .free = .free := by
        rw [Array.getD_eq_getD_getElem?, Array.getElem?_replicate]
        split <;> rfl
      rw [firstAmong, hfree]
      exact ih (i + 1)
  exact hnone _ i

/-! ## What asking for a value leaves -/

/-- The machine with the state of an iterator changed. -/
def Machine.withIter (m : Machine) (r : Ref) (it : Iter) : Machine :=
  { m with cells := m.cells.setIfInBounds r (.iterator it) }

/-- From `m` to `m'` some iterators below `bound` have been asked for values: each of them is in a
later state, and all other cells are as they were. -/
structure Drawn (bound : Ref) (m m' : Machine) : Prop where
  above : ∀ q : Ref, bound ≤ q → m'.cells[q]? = m.cells[q]?
  others : ∀ q : Ref, (∀ it, m.cells[q]? ≠ some (.iterator it)) → m'.cells[q]? = m.cells[q]?
  later : ∀ (q : Ref) (it : Iter), m.cells[q]? = some (.iterator it) →
    ∃ it', m'.cells[q]? = some (.iterator it') ∧ it.Later it'

namespace Drawn

variable {bound bound' r : Ref} {m m' m'' : Machine} {it : Iter}

theorem refl (bound : Ref) (m : Machine) : Drawn bound m m :=
  ⟨fun _ _ => rfl, fun _ _ => rfl, fun _ it h => ⟨it, h, .refl it⟩⟩

theorem trans (h : Drawn bound m m') (h' : Drawn bound m' m'') : Drawn bound m m'' where
  above q hq := (h'.above q hq).trans (h.above q hq)
  others q hq := by
    have hsame := h.others q hq
    exact (h'.others q fun it hit => hq it (hsame ▸ hit)).trans hsame
  later q it hit := by
    obtain ⟨it', hit', hlater⟩ := h.later q it hit
    obtain ⟨it'', hit'', hlater'⟩ := h'.later q it' hit'
    exact ⟨it'', hit'', hlater.trans hlater'⟩

theorem mono (h : Drawn bound m m') (hle : bound ≤ bound') : Drawn bound' m m' :=
  { h with above := fun q hq => h.above q (Nat.le_trans hle hq) }

theorem evolves (h : Drawn bound m m') : Evolves m m' := by
  intro r c hc
  by_cases hiter : ∃ it, c = .iterator it
  · obtain ⟨it, rfl⟩ := hiter
    obtain ⟨it', hit', hlater⟩ := h.later r it hc
    exact ⟨_, hit', .iterator hlater⟩
  · refine ⟨c, (h.others r fun it hit => hiter ⟨it, ?_⟩).trans hc, .refl c⟩
    exact Option.some.inj (hc.symm.trans hit)

theorem extent_eq (h : Drawn bound m m') (l : Ref) : extent m' l = extent m l := by
  by_cases hiter : ∃ it, m.cells[l]? = some (.iterator it)
  · obtain ⟨it, hit⟩ := hiter
    obtain ⟨it', hit', -⟩ := h.later l it hit
    rw [extent, extent, hit, hit']
  · rw [extent, extent, h.others l fun it hit => hiter ⟨it, hit⟩]

/-- No iterator is left with more. -/
theorem left_le (h : Drawn bound m m') (r : Ref) : left m' r ≤ left m r := by
  by_cases hr : r < m.cells.size
  · refine (left_le_or_longer h.evolves hr).resolve_right ?_
    rintro ⟨l, -, hlonger⟩
    rw [h.extent_eq l] at hlonger
    exact Nat.lt_irrefl _ hlonger
  · have hnone : m.cells[r]? = none := Array.getElem?_eq_none (Nat.le_of_not_lt hr)
    have hsame := h.others r fun it hit => by rw [hnone] at hit; cases hit
    rw [left_of_none (hsame.trans hnone)]
    exact Nat.zero_le _

end Drawn

section Setting

variable {m : Machine} {r q : Ref} {it it' : Iter}

theorem cell_withIter (h : m.cells[r]? = some (.iterator it)) (it' : Iter) :
    (m.withIter r it').cells[r]? = some (.iterator it') := by
  obtain ⟨hr, _⟩ := Array.getElem?_eq_some_iff.mp h
  exact Array.getElem?_setIfInBounds_self_of_lt hr

theorem cell_withIter_of_ne (h : q ≠ r) (it' : Iter) :
    (m.withIter r it').cells[q]? = m.cells[q]? := Array.getElem?_setIfInBounds_ne h.symm

/-- An iterator may be given a later state. -/
theorem drawn_withIter (h : m.cells[r]? = some (.iterator it)) (hlater : it.Later it') :
    Drawn (r + 1) m (m.withIter r it') where
  above q hq := cell_withIter_of_ne (Nat.ne_of_gt hq) it'
  others q hq := by
    refine cell_withIter_of_ne ?_ it'
    rintro rfl
    exact hq it h
  later q jt hjt := by
    by_cases hq : q = r
    · obtain rfl := hq
      cases h.symm.trans hjt
      exact ⟨it', cell_withIter h it', hlater⟩
    · exact ⟨jt, (cell_withIter_of_ne hq it').trans hjt, .refl jt⟩

end Setting

/-! ## One step -/

section Asking

variable {m m' : Machine} {r : Ref} {it : Iter}

theorem iterState_of_iterator (h : m.cells[r]? = some (.iterator it)) :
    iterState r m = .ok it m := by
  rw [iterState, get_bind, h]
  rfl

theorem iterState_of_other (h : ∀ it, m.cells[r]? ≠ some (.iterator it)) :
    iterState r m = .ok .finished m := by
  rw [iterState, get_bind]
  cases hcell : m.cells[r]? with
  | none => rfl
  | some c =>
    cases c with
    | iterator it => exact absurd hcell (h it)
    | _ => rfl

theorem listItems_apply (l : Ref) (m : Machine) :
    ∃ items, listItems l m = .ok items m ∧ items.size ≤ extent m l := by
  rw [listItems, get_bind, extent]
  cases m.cells[l]? with
  | none => exact ⟨#[], rfl, Nat.zero_le _⟩
  | some c =>
    cases c with
    | list items => exact ⟨items, rfl, Nat.le_refl _⟩
    | dict | set | iterator => exact ⟨#[], rfl, Nat.zero_le _⟩

theorem dictTable_apply (d : Ref) (m : Machine) : ∃ t, dictTable d m = .ok t m := by
  rw [dictTable, get_bind]
  cases m.cells[d]? with
  | none => exact ⟨{}, rfl⟩
  | some c => cases c <;> exact ⟨_, rfl⟩

/-- Where there is no set, an empty one is looked at. -/
theorem setTable_apply (s : Ref) (m : Machine) :
    ∃ t, setTable s m = .ok t m ∧ (t.slots.size = extent m s ∨ t = {}) := by
  rw [setTable, get_bind, extent]
  cases m.cells[s]? with
  | none => exact ⟨{}, rfl, .inr rfl⟩
  | some c =>
    cases c with
    | set t => exact ⟨t, rfl, .inl rfl⟩
    | list | dict | iterator => exact ⟨{}, rfl, .inr rfl⟩

/-- How asking an iterator for a value ends: only iterators have changed, and where a value is
handed out the iterator has less left. -/
structure DrawnFrom (r : Ref) (m : Machine) (res : EStateM.Result Failure Machine (Option Value)) :
    Prop where
  drawn : Drawn (r + 1) m (ended res)
  less : ∀ v m', res = .ok (some v) m' → left m' r < left m r

/-- An iterator that is asked for a value and has none. -/
theorem drawnFrom_none (r : Ref) (m : Machine) : DrawnFrom r m (.ok none m) :=
  ⟨.refl _ m, by rintro _ _ ⟨⟩⟩

/-- An iterator that hands out a value and is given a state with less left. -/
theorem drawnFrom_some (h : m.cells[r]? = some (.iterator it)) {it' : Iter} (hlater : it.Later it')
    (hlt : left (m.withIter r it') r < left m r) (v : Value) :
    DrawnFrom r m (.ok (some v) (m.withIter r it')) :=
  ⟨drawn_withIter h hlater, by rintro _ _ ⟨⟩; exact hlt⟩

/-- An iterator that is used up. -/
theorem drawnFrom_finished (h : m.cells[r]? = some (.iterator it)) :
    DrawnFrom r m (.ok none (m.withIter r .finished)) :=
  ⟨drawn_withIter h .finished, by rintro _ _ ⟨⟩⟩

/-- An iterator that fails. -/
theorem drawnFrom_error (h : m.cells[r]? = some (.iterator it)) {it' : Iter}
    (hlater : it.Later it') (f : Failure) : DrawnFrom r m (.error f (m.withIter r it')) :=
  ⟨drawn_withIter h hlater, by rintro _ _ ⟨⟩⟩

/-- An iterator finds its next value at a position of a list, or it is used up. -/
theorem drawnFrom_at {α : Type} {a : Act (Option Value)} (found : Option α) {shown : α → Value}
    {it' : Iter} (hit : m.cells[r]? = some (.iterator it))
    (ha : a = found.elim (do setIter r .finished; return none)
      fun x => do setIter r it'; return some (shown x))
    (hlater : it.Later it')
    (hlt : ∀ x, found = some x → left (m.withIter r it') r < left m r) : DrawnFrom r m (a m) := by
  cases hfound : found with
  | some x =>
    rw [ha, hfound]
    exact drawnFrom_some hit hlater (hlt x hfound) (shown x)
  | none =>
    rw [ha, hfound]
    exact drawnFrom_finished hit

/-- A collection that has changed its size is not asked. -/
theorem drawnFrom_unless {c : Prop} [Decidable c] {k : FaultKind} {message : String}
    {f : Unit → Act (Option Value)} {a : Act (Option Value)} {it' : Iter}
    (hit : m.cells[r]? = some (.iterator it)) (hlater : it.Later it')
    (h : DrawnFrom r m (a m)) :
    DrawnFrom r m ((if c then setIter r it' >>= fun _ => fault k message >>= f else a) m) := by
  by_cases hc : c
  · rw [if_pos hc]
    exact drawnFrom_error hit hlater _
  · rwa [if_neg hc]

/-- The next entry of a dictionary leaves one less to come. -/
theorem nextEntry_drawn {kind : ViewKind} {d : Ref} {i n : Nat} {size : Option Nat}
    (hit : m.cells[r]? = some (.iterator (.entries kind d i size n))) :
    DrawnFrom r m (nextEntry r kind d i size n m) := by
  obtain ⟨t, ht⟩ := dictTable_apply d m
  rw [nextEntry, bind_of_ok ht]
  refine drawnFrom_unless hit (.entries (Nat.le_refl i) (Nat.le_refl n)) ?_
  cases hfound : t.firstFrom i with
  | none => exact drawnFrom_finished hit
  | some found =>
    cases n with
    | zero => exact drawnFrom_error hit .finished _
    | succ n =>
      have hij := DictTable.le_of_firstAmong hfound
      refine drawnFrom_some hit (.entries (Nat.le_succ_of_le hij) (Nat.le_succ n)) ?_ _
      rw [left, left, hit, cell_withIter hit]
      exact Nat.lt_succ_self n

/-- An entry that comes before a place of a dictionary stands below that place. -/
theorem nextEntryBack_drawn {kind : ViewKind} {d : Ref} {n : Nat} {size : Option Nat}
    (hit : m.cells[r]? = some (.iterator (.entriesBack kind d n size))) :
    DrawnFrom r m (nextEntryBack r kind d n size m) := by
  obtain ⟨t, ht⟩ := dictTable_apply d m
  rw [nextEntryBack, bind_of_ok ht]
  refine drawnFrom_unless hit (.entriesBack (Nat.le_refl n)) ?_
  cases hfound : t.lastBelow n with
  | none => exact drawnFrom_finished hit
  | some found =>
    have hlt := DictTable.lt_of_lastBelow hfound
    refine drawnFrom_some hit (.entriesBack (Nat.le_of_lt hlt)) ?_ _
    rw [left, left, hit, cell_withIter hit]
    exact hlt

/-- The next member of a set leaves fewer slots of the table to come. -/
theorem nextMember_drawn {s : Ref} {i : Nat} {size : Option Nat}
    (hit : m.cells[r]? = some (.iterator (.members s i size))) :
    DrawnFrom r m (nextMember r s i size m) := by
  obtain ⟨t, ht, hsize⟩ := setTable_apply s m
  rw [nextMember, bind_of_ok ht]
  refine drawnFrom_unless hit (.members (Nat.le_refl i)) ?_
  cases hfound : t.firstFrom i with
  | none => exact drawnFrom_finished hit
  | some found =>
    obtain ⟨hij, hj⟩ := SetTable.bounds_of_firstAmong hfound
    have hlater : Iter.Later (.members s i size) (.members s (found.1 + 1) size) :=
      .members (Nat.le_succ_of_le hij)
    refine drawnFrom_some hit hlater ?_ _
    -- Only a table with members hands one out, so this is the one of the set.
    obtain hsize | rfl := hsize
    · rw [left, left, hit, cell_withIter hit]
      dsimp only
      rw [(drawn_withIter hit hlater).extent_eq, ← hsize]
      omega
    · exact absurd hfound (by simp [SetTable.firstFrom_empty])

/-- An iterator may draw from those before it first, and have no value where they have none. -/
theorem DrawnFrom.of_draw {α : Type} {a : Act (Option α)} {k : Option α → Act (Option Value)}
    (hdrawn : Drawn r m (ended (a m))) (hnone : ∀ u, k none u = .ok none u)
    (hsome : ∀ w u, a m = .ok (some w) u → DrawnFrom r m (k (some w) u)) :
    DrawnFrom r m ((a >>= k) m) := by
  cases hw : a m with
  | error f u =>
    rw [hw] at hdrawn
    rw [bind_of_error hw]
    exact ⟨hdrawn.mono (Nat.le_succ r), by rintro _ _ ⟨⟩⟩
  | ok w u =>
    rw [hw] at hdrawn
    rw [bind_of_ok hw]
    cases w with
    | none =>
      rw [hnone]
      exact ⟨hdrawn.mono (Nat.le_succ r), by rintro _ _ ⟨⟩⟩
    | some w => exact hsome w u hw

/-- What an iterator draws from others it draws from those before it. -/
theorem nextAll_drawn (hnext : ∀ i < r, ∀ m, DrawnFrom i m (next i m)) (inners : List Ref) :
    Drawn r m (ended (nextAll r inners m)) ∧
      ∀ vs m', nextAll r inners m = .ok (some vs) m' →
        ∀ i rest, inners = i :: rest → i < r ∧ left m' i < left m i := by
  induction inners generalizing m with
  | nil =>
    rw [nextAll]
    exact ⟨.refl r m, by rintro _ _ - _ _ ⟨⟩⟩
  | cons i rest ih =>
    rw [nextAll]
    by_cases hi : i < r
    · rw [dif_pos hi]
      obtain ⟨hdrawn, hless⟩ := hnext i hi m
      cases hw : next i m with
      | error f u =>
        rw [hw] at hdrawn
        rw [bind_of_error hw]
        exact ⟨hdrawn.mono hi, by rintro _ _ ⟨⟩⟩
      | ok w u =>
        rw [hw] at hdrawn hless
        rw [bind_of_ok hw]
        cases w with
        | none => exact ⟨hdrawn.mono hi, by rintro _ _ ⟨⟩⟩
        | some w =>
          obtain ⟨hrest, -⟩ := ih (m := u)
          dsimp only
          cases hws : nextAll r rest u with
          | error f u' =>
            rw [hws] at hrest
            rw [bind_of_error hws]
            exact ⟨(hdrawn.mono hi).trans hrest, by rintro _ _ ⟨⟩⟩
          | ok ws u' =>
            rw [hws] at hrest
            rw [bind_of_ok hws]
            have hlt := Nat.lt_of_le_of_lt (hrest.left_le i) (hless w u rfl)
            cases ws with
            | none => exact ⟨(hdrawn.mono hi).trans hrest, by rintro _ _ ⟨⟩⟩
            | some ws =>
              refine ⟨(hdrawn.mono hi).trans hrest, ?_⟩
              rintro _ _ ⟨⟩ _ _ ⟨⟩
              exact ⟨hi, hlt⟩
    · rw [dif_neg hi]
      exact ⟨.refl r m, by rintro _ _ ⟨⟩⟩

/-- The numbering of another iterator has as much left as that one. -/
theorem left_numbered {inner : Ref} {n : Int}
    (h : m.cells[r]? = some (.iterator (.numbered inner n))) (hinner : inner < r) :
    left m r = left m inner := by
  rw [left, h]
  exact dif_pos hinner

theorem left_zipped {inner : Ref} {rest : List Ref}
    (h : m.cells[r]? = some (.iterator (.zipped (inner :: rest)))) (hinner : inner < r) :
    left m r = left m inner := by
  rw [left, h]
  exact dif_pos hinner

/-- An iterator that numbers the values of one before it. -/
theorem DrawnFrom.numbered {inner : Ref} {n : Int} {w : Value}
    (h : DrawnFrom inner m (.ok (some w) m'))
    (hit : m.cells[r]? = some (.iterator (.numbered inner n))) (hinner : inner < r) (v : Value) :
    DrawnFrom r m (.ok (some v) (m'.withIter r (.numbered inner (n + 1)))) := by
  obtain ⟨hdrawn, hless⟩ := h
  rw [ended_ok] at hdrawn
  have hcell := (hdrawn.above r hinner).trans hit
  have hset := drawn_withIter hcell (.numbered : Iter.Later _ (.numbered inner (n + 1)))
  refine ⟨(hdrawn.mono (Nat.succ_le_succ (Nat.le_of_lt hinner))).trans hset, ?_⟩
  rintro _ _ ⟨⟩
  rw [left_numbered (cell_withIter hcell _) hinner, left_numbered hit hinner]
  exact Nat.lt_of_le_of_lt (hset.left_le inner) (hless w m' rfl)

/-- **Asking uses up.** An iterator that is asked for a value and has one is left with less, and
nothing but iterators has changed, each to a later state. -/
theorem next_drawn (r : Ref) (m : Machine) : DrawnFrom r m (next r m) := by
  induction r using Nat.strongRecOn generalizing m with
  | ind r ih =>
    by_cases hiter : ∃ it, m.cells[r]? = some (.iterator it)
    · obtain ⟨it, hit⟩ := hiter
      rw [next, bind_of_ok (iterState_of_iterator hit)]
      cases it with
      | finished => exact drawnFrom_none r m
      | forward l i =>
        obtain ⟨items, hitems, hsize⟩ := listItems_apply l m
        dsimp only
        rw [bind_of_ok hitems]
        have hset := drawn_withIter hit (.forward (Nat.le_succ i))
        refine drawnFrom_at items[i]? hit (by cases items[i]? <;> rfl) (.forward (Nat.le_succ i))
          fun a ha => ?_
        obtain ⟨hlt, -⟩ := Array.getElem?_eq_some_iff.mp ha
        rw [left, left, hit, cell_withIter hit]
        dsimp only
        rw [hset.extent_eq]
        exact Nat.sub_lt_sub_left (Nat.lt_of_lt_of_le hlt hsize) (Nat.lt_succ_self i)
      | backward l n =>
        cases n with
        | zero => exact drawnFrom_none r m
        | succ i =>
          obtain ⟨items, hitems, -⟩ := listItems_apply l m
          dsimp only
          rw [bind_of_ok hitems]
          refine drawnFrom_at items[i]? hit (by cases items[i]? <;> rfl)
            (.backward (Nat.le_succ i)) fun _ _ => ?_
          rw [left, left, hit, cell_withIter hit]
          exact Nat.lt_succ_self i
      | fixed vs =>
        cases vs with
        | nil => exact drawnFrom_none r m
        | cons w rest =>
          refine drawnFrom_some hit (.fixed (List.suffix_cons w rest)) ?_ w
          rw [left, left, hit, cell_withIter hit]
          exact Nat.lt_succ_self rest.length
      | run n step k =>
        cases k with
        | zero => exact drawnFrom_none r m
        | succ k =>
          refine drawnFrom_some hit (.run (Nat.le_succ k)) ?_ (.int n)
          rw [left, left, hit, cell_withIter hit]
          exact Nat.lt_succ_self k
      | entries kind d i size n => exact nextEntry_drawn hit
      | entriesBack kind d n size => exact nextEntryBack_drawn hit
      | members s i size => exact nextMember_drawn hit
      | numbered inner n =>
        dsimp only
        by_cases hinner : inner < r
        · rw [dif_pos hinner]
          have hdrawn := ih inner hinner m
          refine .of_draw (hdrawn.drawn.mono hinner) (fun _ => rfl) fun w u hw => ?_
          rw [hw] at hdrawn
          exact hdrawn.numbered hit hinner _
        · rw [dif_neg hinner]
          exact drawnFrom_none r m
      | zipped inners =>
        cases inners with
        | nil => exact drawnFrom_none r m
        | cons inner rest =>
          obtain ⟨hdrawn, hless⟩ := nextAll_drawn (m := m) ih (inner :: rest)
          refine .of_draw hdrawn (fun _ => rfl) fun ws u hws => ?_
          obtain ⟨hinner, hlt⟩ := hless ws u hws inner rest rfl
          rw [hws, ended_ok] at hdrawn
          refine ⟨hdrawn.mono (Nat.le_succ r), ?_⟩
          rintro _ _ ⟨⟩
          rw [left_zipped ((hdrawn.above r (Nat.le_refl r)).trans hit) hinner,
            left_zipped hit hinner]
          exact hlt
    · have hnone := iterState_of_other fun it hit => hiter ⟨it, hit⟩
      rw [next, bind_of_ok hnone]
      exact drawnFrom_none r m

/-- Only an iterator hands out values. -/
theorem lt_size_of_next {v : Value} (h : next r m = .ok (some v) m') : r < m'.cells.size := by
  have hiter : ∃ it, m.cells[r]? = some (.iterator it) := by
    refine Classical.byContradiction fun hnot => ?_
    have hnone := iterState_of_other fun it hit => hnot ⟨it, hit⟩
    rw [next, bind_of_ok hnone] at h
    cases h
  obtain ⟨it, hit⟩ := hiter
  have hdrawn := (next_drawn r m).drawn
  rw [h] at hdrawn
  obtain ⟨it', hit', -⟩ := hdrawn.later r it hit
  obtain ⟨hr, -⟩ := Array.getElem?_eq_some_iff.mp hit'
  exact hr

end Asking

end Stencil.Expr
