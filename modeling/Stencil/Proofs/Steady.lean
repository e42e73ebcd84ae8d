import Stencil.Proofs.Drawing
/-!
# Stencil.Proofs.Steady -- actions that lose nothing

An action of the machine is steady when, however it ends, the machine it leaves can have come from
the one it was given: no cell is lost or changes its kind, and no iterator goes back. What is put
together from steady actions is steady, so that it is enough to look at the few actions that write
cells, and at how an action is put together. The lemmas are tagged for `grind`, which does the
latter.
-/

namespace Stencil.Expr

variable {α β γ : Type}

/-- An action that, however it ends, leaves a machine that the one before can have come to. -/
def Steady (a : Act α) : Prop := ∀ m, Evolves m (ended (a m))

namespace Steady

/-- An action that leaves the cells alone is steady. -/
theorem of_cells {a : Act α} (h : ∀ m, (ended (a m)).cells = m.cells) : Steady a :=
  fun m => .of_cells (h m)

@[grind .]
theorem pure (x : α) : Steady (pure x : Act α) := of_cells fun _ => rfl

@[grind .]
theorem throw (f : Failure) : Steady (throw f : Act α) := of_cells fun _ => rfl

@[grind ←]
theorem bind {a : Act α} {k : α → Act β} (ha : Steady a) (hk : ∀ x, Steady (k x)) :
    Steady (a >>= k) := by
  intro m
  have h := ha m
  cases hrun : a m with
  | ok x m' =>
    rw [hrun] at h
    rw [bind_of_ok hrun]
    exact h.trans (hk x m')
  | error f m' =>
    rw [hrun] at h
    rwa [bind_of_error hrun]

@[grind ←]
theorem tryCatch {a : Act α} {k : Failure → Act α} (ha : Steady a) (hk : ∀ f, Steady (k f)) :
    Steady (tryCatch a k) := by
  intro m
  have h := ha m
  cases hrun : a m with
  | ok x m' =>
    rw [hrun] at h
    rwa [tryCatch_of_ok hrun]
  | error f m' =>
    rw [hrun] at h
    rw [tryCatch_of_error hrun]
    exact h.trans (hk f m')

@[grind ←]
theorem map {a : Act α} (f : α → β) (ha : Steady a) : Steady (f <$> a) := by
  rw [← bind_pure_comp]
  exact ha.bind fun x => pure (f x)

@[grind ←]
theorem discard {a : Act α} (ha : Steady a) : Steady (discard a) := ha.map _

/-! ## Loops -/

section Loops

variable {xs : List γ} {ys : Array γ}

@[grind ←]
theorem mapM {f : γ → Act β} (hf : ∀ x, Steady (f x)) : Steady (xs.mapM f) := by
  induction xs with
  | nil => exact pure []
  | cons x xs ih =>
    rw [List.mapM_cons]
    exact (hf x).bind fun _ => ih.bind fun _ => pure _

@[grind ←]
theorem mapM_array {f : γ → Act β} (hf : ∀ x, Steady (f x)) : Steady (ys.mapM f) := by
  rw [Array.mapM_eq_mapM_toList]
  exact (mapM hf).map _

@[grind ←]
theorem foldlM {f : β → γ → Act β} (hf : ∀ y x, Steady (f y x)) (y : β) :
    Steady (xs.foldlM f y) := by
  induction xs generalizing y with
  | nil => exact pure y
  | cons x xs ih => exact (hf y x).bind ih

@[grind ←]
theorem foldlM_array {f : β → γ → Act β} (hf : ∀ y x, Steady (f y x)) (y : β) :
    Steady (ys.foldlM f y) := by
  rw [← Array.foldlM_toList]
  exact foldlM hf y

@[grind ←]
theorem flatMapM {f : γ → Act (List β)} (hf : ∀ x, Steady (f x)) : Steady (xs.flatMapM f) := by
  have hloop (ys : List γ) (acc : List (List β)) : Steady (List.flatMapM.loop f ys acc) := by
    induction ys generalizing acc with
    | nil => exact pure _
    | cons y ys ih => exact (hf y).bind fun _ => ih _
  exact hloop xs []

@[grind ←]
theorem forM {f : γ → Act PUnit} (hf : ∀ x, Steady (f x)) : Steady (xs.forM f) := by
  induction xs with
  | nil => exact pure _
  | cons x xs ih => exact (hf x).bind fun _ => ih

@[grind ←]
theorem forIn {f : γ → β → Act (ForInStep β)} (hf : ∀ x y, Steady (f x y)) (y : β) :
    Steady (forIn xs y f) := by
  induction xs generalizing y with
  | nil => exact pure y
  | cons x xs ih =>
    rw [List.forIn_cons]
    refine (hf x y).bind fun found => ?_
    cases found with
    | done y => exact pure y
    | yield y => exact ih y

end Loops

end Steady

/-! ## Faults -/

section Faults

variable {k : FaultKind} {message : String} {f : α → Act β}

@[grind .]
theorem steady_fault : Steady (fault k message : Act α) := .throw _

@[grind .]
theorem steady_typeError : Steady (typeError message : Act α) := .throw _

@[grind .]
theorem steady_valueError : Steady (valueError message : Act α) := .throw _

@[grind .]
theorem steady_ofExcept (x : Except Failure α) : Steady (Expr.ofExcept x) := by
  cases x with
  | ok a => exact .pure a
  | error f => exact .throw f

/-- Whatever stands behind a fault is not come to. -/
@[grind .]
theorem steady_fault_bind : Steady ((fault k message : Act α) >>= f) := .of_cells fun _ => rfl

@[grind .]
theorem steady_typeError_bind : Steady ((typeError message : Act α) >>= f) := steady_fault_bind

@[grind .]
theorem steady_valueError_bind : Steady ((valueError message : Act α) >>= f) := steady_fault_bind

end Faults

/-! ## Reading and writing cells -/

@[grind .]
theorem steady_get : Steady (get : Act Machine) := .of_cells fun _ => rfl

@[grind .]
theorem steady_listItems (r : Ref) : Steady (listItems r) := by
  refine .of_cells fun m => ?_
  obtain ⟨items, h, -⟩ := listItems_apply r m
  rw [h, ended_ok]

@[grind .]
theorem steady_dictTable (r : Ref) : Steady (dictTable r) := by
  refine .of_cells fun m => ?_
  obtain ⟨t, h⟩ := dictTable_apply r m
  rw [h, ended_ok]

@[grind .]
theorem steady_setTable (r : Ref) : Steady (setTable r) := by
  refine .of_cells fun m => ?_
  obtain ⟨t, h, -⟩ := setTable_apply r m
  rw [h, ended_ok]

@[grind .]
theorem steady_dictEntries (r : Ref) : Steady (dictEntries r) :=
  (steady_dictTable r).bind fun _ => .pure _

@[grind .]
theorem steady_setMembers (r : Ref) : Steady (setMembers r) :=
  (steady_setTable r).bind fun _ => .pure _

/-- A new cell takes the place of none. -/
@[grind .]
theorem steady_alloc (c : Cell) : Steady (alloc c) := by
  intro m r c' hc'
  obtain ⟨hr, -⟩ := Array.getElem?_eq_some_iff.mp hc'
  exact ⟨c', (Array.getElem?_push_lt hr).trans (Array.getElem?_eq_getElem hr ▸ hc'), .refl c'⟩

@[grind .]
theorem steady_newList (items : Array Value) : Steady (newList items) :=
  (steady_alloc _).bind fun _ => .pure _

@[grind .]
theorem steady_newDict (t : DictTable) : Steady (newDict t) :=
  (steady_alloc _).bind fun _ => .pure _

@[grind .]
theorem steady_newSet (t : SetTable) : Steady (newSet t) :=
  (steady_alloc _).bind fun _ => .pure _

@[grind .]
theorem steady_newIter (kind : TypeTag) (it : Iter) : Steady (newIter kind it) :=
  (steady_alloc _).bind fun _ => .pure _

/-- A cell may be changed to what it can come to. -/
theorem steady_modify {f : Cell → Cell} (hf : ∀ c : Cell, c.Becomes (f c)) (r : Ref) :
    Steady (modify fun m => { m with cells := m.cells.modify r f } : Act Unit) := by
  intro m q c hc
  show ∃ c', (m.cells.modify r f)[q]? = some c' ∧ c.Becomes c'
  rw [Array.getElem?_modify, hc]
  by_cases hq : r = q
  · rw [if_pos hq]
    exact ⟨f c, rfl, hf c⟩
  · rw [if_neg hq]
    exact ⟨c, rfl, .refl c⟩

@[grind .]
theorem steady_modifyList (r : Ref) (f : Array Value → Array Value) : Steady (modifyList r f) := by
  refine steady_modify (fun c => ?_) r
  cases c with
  | list => exact .list
  | dict | set | iterator => exact .refl _

@[grind .]
theorem steady_modifyDict (r : Ref) (f : DictTable → DictTable) : Steady (modifyDict r f) := by
  refine steady_modify (fun c => ?_) r
  cases c with
  | dict => exact .dict
  | list | set | iterator => exact .refl _

@[grind .]
theorem steady_modifySet (r : Ref) (f : SetTable → SetTable) : Steady (modifySet r f) := by
  refine steady_modify (fun c => ?_) r
  cases c with
  | set => exact .set
  | list | dict | iterator => exact .refl _

@[grind .]
theorem steady_next (r : Ref) : Steady (next r) := fun m => (next_drawn r m).drawn.evolves

end Stencil.Expr
