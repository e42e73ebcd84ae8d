import Stencil.Expr.Evaluator
import Stencil.Proofs.Effects
/-!
# Stencil.Proofs.Telling -- what faults show has no part in values

An evaluation is given the text that it stands in, for the sake of the faults that show it. No fault
is ever looked at in the course of an evaluation for what it shows. So two evaluations that differ in
this text alone are in accord: they end with the same value, or they both fail for the same cause, and
in either case they leave the same machine.
-/

namespace Stencil.Expr

variable {α β : Type}

/-! ## Actions in accord -/

/-- Two failures differ in what they show at most, as refusals of the evaluator itself do. -/
inductive SameCause : Failure → Failure → Prop
  | same (f : Failure) : SameCause f f
  | refused (shown shown' : String) :
    SameCause (.fault .refusal shown) (.fault .refusal shown')

/-- Two actions end in accord: with the same value, or both with a failure for the same cause, and
with the same machine. -/
inductive EndInAccord :
    EStateM.Result Failure Machine α → EStateM.Result Failure Machine α → Prop
  | ok (v : α) (m : Machine) : EndInAccord (.ok v m) (.ok v m)
  | error {f g : Failure} (h : SameCause f g) (m : Machine) : EndInAccord (.error f m) (.error g m)

/-- Two actions end in accord on every machine. -/
def Accord (a a' : Act α) : Prop := ∀ m, EndInAccord (a m) (a' m)

namespace Accord

theorem refl (a : Act α) : Accord a a := by
  intro m
  cases a m with
  | ok v m' => exact .ok v m'
  | error f m' => exact .error (.same f) m'

theorem refuse (shown shown' : String) : Accord (refuse shown : Act α) (refuse shown') :=
  fun m => .error (.refused shown shown') m

theorem bind {a a' : Act α} {k k' : α → Act β} (ha : Accord a a') (hk : ∀ x, Accord (k x) (k' x)) :
    Accord (a >>= k) (a' >>= k') := by
  intro m
  have h := ha m
  cases hrun : a m with
  | ok x m' =>
    rw [hrun] at h
    cases hrun' : a' m with
    | ok x' m'' =>
      rw [hrun'] at h
      cases h
      rw [bind_of_ok hrun, bind_of_ok hrun']
      exact hk x m'
    | error g m'' =>
      rw [hrun'] at h
      cases h
  | error f m' =>
    rw [hrun] at h
    cases hrun' : a' m with
    | ok x' m'' =>
      rw [hrun'] at h
      cases h
    | error g m'' =>
      rw [hrun'] at h
      cases h with
      | error hcause =>
        rw [bind_of_error hrun, bind_of_error hrun']
        exact .error hcause m'

/-- Actions in accord are so before what is the same. -/
theorem andThen {a a' : Act α} (ha : Accord a a') (k : α → Act β) : Accord (a >>= k) (a' >>= k) :=
  ha.bind fun x => .refl (k x)

/-- Actions that go on differently but in accord are so behind what is the same. -/
theorem after (a : Act α) {k k' : α → Act β} (hk : ∀ x, Accord (k x) (k' x)) :
    Accord (a >>= k) (a >>= k') := (refl a).bind hk

theorem discard {a a' : Act α} (ha : Accord a a') : Accord (discard a) (discard a') := by
  have hmap (a : Act α) : Functor.discard a = a >>= fun _ => pure () := by
    rw [bind_pure_comp]
    rfl
  rw [hmap, hmap]
  exact ha.andThen _

theorem forEach {body body' : Layer → Value → Act Layer}
    (h : ∀ l v, Accord (body l v) (body' l v)) (r : Ref) (fuel : Nat) (l : Layer) :
    Accord (forEach r body fuel l) (forEach r body' fuel l) := by
  induction fuel generalizing l with
  | zero => exact refl _
  | succ fuel ih =>
    refine after (next r) fun found => ?_
    cases found with
    | none => exact refl _
    | some v => exact after countStep fun _ => (h l v).bind fun l => ih l

end Accord

/-! ## Terms -/

section Terms

variable (b : Bindings) (shown shown' : String)

theorem accord_nameValue (locals : List Layer) (name : String) :
    Accord (nameValue ⟨b, shown⟩ locals name) (nameValue ⟨b, shown'⟩ locals name) := by
  unfold nameValue
  split
  · exact .refl _
  · dsimp only
    split
    · exact .refl _
    · split
      · exact .refl _
      · exact .refuse _ _

theorem accord_attributeValue (v : Value) (name : String) :
    Accord (attributeValue ⟨b, shown⟩ v name) (attributeValue ⟨b, shown'⟩ v name) := by
  unfold attributeValue
  split
  · exact .refl _
  · refine .after _ fun item => ?_
    split
    · exact .refl _
    · exact .refuse _ _

mutual

theorem accord_evalTerm (locals : List Layer) :
    ∀ t : Term, Accord (evalTerm ⟨b, shown⟩ locals t) (evalTerm ⟨b, shown'⟩ locals t)
  | .const v => by
    simp only [evalTerm]
    exact .refl _
  | .name id => by
    simp only [evalTerm]
    exact accord_nameValue b shown shown' locals id
  | .unary op t => by
    simp only [evalTerm]
    exact (accord_evalTerm locals t).andThen _
  | .binary op t u => by
    simp only [evalTerm]
    split
    · exact .refuse _ _
    · exact (accord_evalTerm locals t).bind fun _ => (accord_evalTerm locals u).andThen _
  | .boolean isAnd ts => by
    simp only [evalTerm]
    exact accord_evalJunction locals isAnd ts
  | .compare first rest => by
    simp only [evalTerm]
    exact (accord_evalTerm locals first).bind fun v => accord_evalComparisons locals rest v
  | .conditional test yes no => by
    simp only [evalTerm]
    refine (accord_evalTerm locals test).bind fun v => .after (truthy v) fun holds => ?_
    split
    · exact accord_evalTerm locals yes
    · exact accord_evalTerm locals no
  | .call f args named => by
    have hcall (f : Value) :
        Accord
          (do callNamed f (← evalTerms ⟨b, shown⟩ locals args) (← evalNamed ⟨b, shown⟩ locals named))
          (do callNamed f (← evalTerms ⟨b, shown'⟩ locals args)
                (← evalNamed ⟨b, shown'⟩ locals named)) :=
      (accord_evalTerms locals args).bind fun _ => (accord_evalNamed locals named).andThen _
    cases f with
    | name id =>
      simp only [evalTerm]
      split
      · exact hcall _
      · exact .refuse _ _
    | «attribute» t name =>
      simp only [evalTerm]
      exact .after _ fun _ => (accord_evalTerm locals t).bind fun v =>
        (accord_attributeValue b shown shown' v name).bind fun f => hcall f
    | _ =>
      simp only [evalTerm]
      exact .refl _
  | .subscript t k => by
    simp only [evalTerm]
    exact (accord_evalTerm locals t).bind fun _ => (accord_evalTerm locals k).andThen _
  | .slice lower upper step => by
    simp only [evalTerm]
    exact (accord_evalOption locals lower).bind fun _ => (accord_evalOption locals upper).bind
      fun _ => (accord_evalOption locals step).andThen _
  | .attribute t name => by
    simp only [evalTerm]
    exact .after _ fun _ => (accord_evalTerm locals t).bind fun v =>
      accord_attributeValue b shown shown' v name
  | .joined parts => by
    simp only [evalTerm]
    exact (accord_evalParts locals 0 parts).andThen _
  | .formatted t none => by
    simp only [evalTerm]
    exact accord_evalTerm locals t
  | .formatted t (some format) => by
    simp only [evalTerm]
    exact (accord_evalTerm locals format).bind fun _ => .after _ fun _ =>
      (accord_evalTerm locals t).andThen _
  | .dict items => by
    simp only [evalTerm]
    exact .after _ fun r => (accord_evalEntries locals r items).andThen _
  | .list ts => by
    simp only [evalTerm]
    exact (accord_evalElements locals #[] ts).andThen _
  | .tuple ts => by
    simp only [evalTerm]
    exact (accord_evalTerms locals ts).andThen _
  | .set ts => by
    simp only [evalTerm]
    exact (accord_evalMembers locals {} ts).andThen _
  | .starred t => by
    simp only [evalTerm]
    exact .refl _
  | .comprehension _ element clauses => by
    simp only [evalTerm]
    refine .after _ fun r => .bind (.discard ?_) fun _ => .refl _
    exact accord_evalClauses locals [] clauses _ _ fun l =>
      (accord_evalTerm (l :: locals) element).andThen _
  | .dictComprehension key value clauses => by
    simp only [evalTerm]
    refine .after _ fun r => .bind (.discard ?_) fun _ => .refl _
    exact accord_evalClauses locals [] clauses _ _ fun l =>
      (accord_evalTerm (l :: locals) key).bind fun _ =>
        (accord_evalTerm (l :: locals) value).andThen _
  | .absent kind => by
    simp only [evalTerm]
    exact .refl _

theorem accord_evalTerms (locals : List Layer) :
    ∀ ts : List Term, Accord (evalTerms ⟨b, shown⟩ locals ts) (evalTerms ⟨b, shown'⟩ locals ts)
  | [] => by
    simp only [evalTerms]
    exact .refl _
  | t :: ts => by
    simp only [evalTerms]
    exact (accord_evalTerm locals t).bind fun _ => (accord_evalTerms locals ts).andThen _

theorem accord_evalOption (locals : List Layer) :
    ∀ t : Option Term, Accord (evalOption ⟨b, shown⟩ locals t) (evalOption ⟨b, shown'⟩ locals t)
  | none => by
    simp only [evalOption]
    exact .refl _
  | some t => by
    simp only [evalOption]
    exact accord_evalTerm locals t

theorem accord_evalJunction (locals : List Layer) (isAnd : Bool) :
    ∀ ts : List Term, Accord (evalJunction ⟨b, shown⟩ locals isAnd ts)
      (evalJunction ⟨b, shown'⟩ locals isAnd ts)
  | [] => by
    simp only [evalJunction]
    exact .refl _
  | [t] => by
    simp only [evalJunction]
    exact accord_evalTerm locals t
  | t :: u :: ts => by
    simp only [evalJunction]
    refine (accord_evalTerm locals t).bind fun v => .after (truthy v) fun holds => ?_
    split
    · exact accord_evalJunction locals isAnd (u :: ts)
    · exact .refl _

theorem accord_evalComparisons (locals : List Layer) :
    ∀ (rest : List Comparand) (left : Value),
      Accord (evalComparisons ⟨b, shown⟩ locals left rest)
        (evalComparisons ⟨b, shown'⟩ locals left rest)
  | [], left => by
    simp only [evalComparisons]
    exact .refl _
  | [.mk op t], left => by
    simp only [evalComparisons]
    exact (accord_evalTerm locals t).andThen _
  | .mk op t :: d :: rest, left => by
    simp only [evalComparisons]
    refine (accord_evalTerm locals t).bind fun right => .after _ fun v =>
      .after (truthy v) fun holds => ?_
    split
    · exact accord_evalComparisons locals (d :: rest) right
    · exact .refl _

theorem accord_evalNamed (locals : List Layer) :
    ∀ named : List Named,
      Accord (evalNamed ⟨b, shown⟩ locals named) (evalNamed ⟨b, shown'⟩ locals named)
  | [] => by
    simp only [evalNamed]
    exact .refl _
  | .mk n t :: rest => by
    simp only [evalNamed]
    exact (accord_evalTerm locals t).bind fun _ => (accord_evalNamed locals rest).andThen _

theorem accord_evalParts (locals : List Layer) (size : Nat) :
    ∀ ts : List Term,
      Accord (evalParts ⟨b, shown⟩ locals size ts) (evalParts ⟨b, shown'⟩ locals size ts)
  | [] => by
    simp only [evalParts]
    exact .refl _
  | t :: ts => by
    have hrest (s : String) := (accord_evalParts locals (size + s.length) ts).andThen
      fun rest => (pure (s :: rest) : Act (List String))
    simp only [evalParts]
    refine (accord_evalTerm locals t).bind fun v => .after (plainText v) fun s => ?_
    split
    · exact .after _ fun _ => hrest s
    · exact hrest s

theorem accord_evalElements (locals : List Layer) (so : Array Value) :
    ∀ ts : List Term,
      Accord (evalElements ⟨b, shown⟩ locals so ts) (evalElements ⟨b, shown'⟩ locals so ts)
  | [] => by
    simp only [evalElements]
    exact .refl _
  | t :: ts => by
    have hrest := fun so => accord_evalElements locals so ts
    cases t with
    | starred t =>
      simp only [evalElements]
      exact (accord_evalTerm locals t).bind fun v => .after (collect v) fun _ => hrest _
    | _ =>
      simp only [evalElements]
      exact (accord_evalTerm locals _).bind fun _ => hrest _

theorem accord_evalMembers (locals : List Layer) (so : SetTable) :
    ∀ ts : List Term,
      Accord (evalMembers ⟨b, shown⟩ locals so ts) (evalMembers ⟨b, shown'⟩ locals so ts)
  | [] => by
    simp only [evalMembers]
    exact .refl _
  | t :: ts => by
    simp only [evalMembers]
    exact (accord_evalTerm locals t).bind fun v => .after (memberFor v) fun _ =>
      accord_evalMembers locals _ ts

theorem accord_evalEntries (locals : List Layer) (r : Ref) :
    ∀ items : List Item,
      Accord (evalEntries ⟨b, shown⟩ locals r items) (evalEntries ⟨b, shown'⟩ locals r items)
  | [] => by
    simp only [evalEntries]
    exact .refl _
  | .entry k t :: rest => by
    simp only [evalEntries]
    exact (accord_evalTerm locals t).bind fun _ => (accord_evalTerm locals k).bind fun _ =>
      .after _ fun _ => accord_evalEntries locals r rest
  | .spread t :: rest => by
    simp only [evalEntries]
    exact (accord_evalTerm locals t).bind fun _ => .after _ fun _ =>
      accord_evalEntries locals r rest

theorem accord_evalConditions (locals : List Layer) :
    ∀ ts : List Term,
      Accord (evalConditions ⟨b, shown⟩ locals ts) (evalConditions ⟨b, shown'⟩ locals ts)
  | [] => by
    simp only [evalConditions]
    exact .refl _
  | t :: ts => by
    simp only [evalConditions]
    refine (accord_evalTerm locals t).bind fun v => .after (truthy v) fun holds => ?_
    split
    · exact accord_evalConditions locals ts
    · exact .refl _

theorem accord_evalClauses (locals : List Layer) (l : Layer) :
    ∀ (clauses : List Clause) (emit emit' : Layer → Act Unit),
      (∀ l, Accord (emit l) (emit' l)) →
        Accord (evalClauses ⟨b, shown⟩ locals l clauses emit)
          (evalClauses ⟨b, shown'⟩ locals l clauses emit')
  | [], emit, emit', hemit => by
    simp only [evalClauses]
    exact (hemit l).andThen _
  | .mk target source conditions :: rest, emit, emit', hemit => by
    have hrest := fun l => accord_evalClauses locals l rest emit emit' hemit
    simp only [evalClauses]
    refine (accord_evalTerm (l :: locals) source).bind fun v => .after (iterRef v) fun r =>
      .forEach (fun l v => .after (bindTarget l v target) fun l => ?_) r _ l
    refine (accord_evalConditions (l :: locals) conditions).bind fun hold => ?_
    split
    · exact hrest l
    · exact .refl _

end

end Terms

end Stencil.Expr
