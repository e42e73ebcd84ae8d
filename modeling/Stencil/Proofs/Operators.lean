import Stencil.Expr.Arith
import Stencil.Expr.Format
import Stencil.Expr.Index
import Stencil.Proofs.Steady
/-!
# Stencil.Proofs.Operators -- operators lose nothing

Comparing values, showing them, running through them and computing with them is steady: at most new
cells are made, and iterators are drawn from. The functions are gone through from the bottom up.
Most are put together from steady actions; a recursion is followed by its own induction.
-/

namespace Stencil.Expr

variable {α : Type} {v w : Value} {r : Ref} {s : List Char} {name message : String}

/-! ## Equality and order -/

@[grind .]
theorem steady_keyFor : Steady (keyFor v) := by
  unfold keyFor
  grind

@[grind .]
theorem steady_size? : Steady (size? v) := by
  unfold size?
  grind

@[grind .]
theorem steady_truthy : Steady (truthy v) := by
  unfold truthy
  grind

@[grind .]
theorem steady_tooDeep : Steady (tooDeep : Act α) := steady_fault

mutual

@[grind .]
theorem steady_equalWithin (fuel : Nat) (v w : Value) : Steady (equalWithin fuel v w) := by
  cases fuel with
  | zero =>
    unfold equalWithin
    exact steady_tooDeep
  | succ fuel =>
    have hall := steady_equalAllWithin fuel
    have hentries := steady_equalEntriesWithin fuel
    unfold equalWithin
    grind

theorem steady_equalAllWithin (fuel : Nat) (vs ws : List Value) :
    Steady (equalAllWithin fuel vs ws) := by
  cases fuel with
  | zero =>
    unfold equalAllWithin
    exact steady_tooDeep
  | succ fuel =>
    have hone := steady_equalWithin fuel
    induction vs generalizing ws with
    | nil =>
      unfold equalAllWithin
      grind
    | cons v vs ih =>
      unfold equalAllWithin
      cases ws with
      | nil => exact .pure true
      | cons w ws =>
        refine .bind (hone v w) fun same => ?_
        split
        · exact ih ws
        · exact .pure false

theorem steady_equalEntriesWithin (fuel : Nat) (es : List Entry) (fs : Array Entry) :
    Steady (equalEntriesWithin fuel es fs) := by
  cases fuel with
  | zero =>
    unfold equalEntriesWithin
    exact steady_tooDeep
  | succ fuel =>
    have hone := steady_equalWithin fuel
    induction es with
    | nil | cons =>
      unfold equalEntriesWithin
      grind

end

@[grind .]
theorem steady_equal : Steady (equal v w) := steady_equalWithin _ v w

@[grind .]
theorem steady_memberOf (v : Value) (ws : List Value) : Steady (memberOf v ws) := by
  induction ws with
  | nil | cons =>
    unfold memberOf
    grind

@[grind .]
theorem steady_unordered {op : Comparison} : Steady (unordered op v w : Act α) := steady_fault

@[grind .]
theorem steady_setKeys? : Steady (setKeys? v) := by
  unfold setKeys?
  grind

mutual

theorem steady_compareWithin (fuel : Nat) (op : Comparison) (v w : Value) :
    Steady (compareWithin fuel op v w) := by
  cases fuel with
  | zero =>
    unfold compareWithin
    exact steady_tooDeep
  | succ fuel =>
    have hall := steady_compareAllWithin fuel
    unfold compareWithin
    grind

theorem steady_compareAllWithin (fuel : Nat) (op : Comparison) (vs ws : List Value) :
    Steady (compareAllWithin fuel op vs ws) := by
  cases fuel with
  | zero =>
    unfold compareAllWithin
    exact steady_tooDeep
  | succ fuel =>
    have hone := steady_compareWithin fuel
    induction vs generalizing ws with
    | nil => cases ws <;> unfold compareAllWithin <;> exact .pure _
    | cons v vs ih =>
      -- Equal items are passed over; the first that differ decide.
      unfold compareAllWithin
      cases ws with
      | nil => exact .pure _
      | cons w ws =>
        refine .bind (by grind) fun same => ?_
        split
        · exact ih ws
        · exact hone op v w

end

@[grind .]
theorem steady_compareValues {op : Comparison} : Steady (compareValues op v w) :=
  steady_compareWithin _ op v w

/-! ## Texts of values -/

mutual

theorem steady_showWithin (fuel : Nat) (outer : List Ref) (v : Value) :
    Steady (showWithin fuel outer v) := by
  cases fuel with
  | zero =>
    unfold showWithin
    exact steady_fault
  | succ fuel =>
    have hone := steady_showWithin fuel
    have hall := steady_showAllWithin fuel
    have hentries := steady_showEntriesWithin fuel
    unfold showWithin
    grind

theorem steady_showAllWithin (fuel : Nat) (outer : List Ref) (vs : List Value) :
    Steady (showAllWithin fuel outer vs) := by
  cases fuel with
  | zero =>
    unfold showAllWithin
    exact steady_fault
  | succ fuel =>
    have hone := steady_showWithin fuel
    induction vs with
    | nil | cons =>
      unfold showAllWithin
      grind

theorem steady_showEntriesWithin (fuel : Nat) (outer : List Ref) (es : List Entry) :
    Steady (showEntriesWithin fuel outer es) := by
  cases fuel with
  | zero =>
    unfold showEntriesWithin
    exact steady_fault
  | succ fuel =>
    have hone := steady_showWithin fuel
    induction es with
    | nil | cons =>
      unfold showEntriesWithin
      grind

end

@[grind .]
theorem steady_quotedValue : Steady (quotedValue v) := steady_showWithin _ [] v

@[grind .]
theorem steady_plainText : Steady (plainText v) := by
  unfold plainText
  grind

@[grind .]
theorem steady_asText : Steady (asText v) := by
  unfold asText
  grind

@[grind .]
theorem steady_formatBy : Steady (formatBy s v) := by
  unfold formatBy
  grind

@[grind .]
theorem steady_formatValue : Steady (formatValue s v) := by
  unfold formatValue
  grind

/-! ## Running through values -/

@[grind .]
theorem steady_notIterable : Steady (notIterable v : Act α) := steady_fault

@[grind .]
theorem steady_iter? : Steady (iter? v) := by
  unfold iter?
  grind

@[grind .]
theorem steady_iter : Steady (iter v) := by
  unfold iter
  grind

@[grind .]
theorem steady_iterRef : Steady (iterRef v) := by
  unfold iterRef
  grind

@[grind .]
theorem steady_iterBack : Steady (iterBack v) := by
  unfold iterBack
  grind

@[grind .]
theorem steady_collectFrom (r : Ref) (fuel : Nat) (vs : Array Value) :
    Steady (collectFrom r fuel vs) := by
  induction fuel generalizing vs with
  | zero => exact steady_fault
  | succ fuel ih =>
    unfold collectFrom
    grind

@[grind .]
theorem steady_collect : Steady (collect v) := by
  unfold collect
  grind

/-! ## One value after the other -/

section Loops

variable {body : Nat → Value → Act Unit} {test : Value → Act Bool}

theorem steady_withNext (h : ∀ i v, Steady (body i v)) (r : Ref) (fuel i : Nat) :
    Steady (withNext r body fuel i) := by
  induction fuel generalizing i with
  -- The iterator may be one that the body itself draws from, so the induction is on the fuel.
  | zero => exact steady_fault
  | succ fuel ih =>
    unfold withNext
    grind

theorem steady_withAll (h : ∀ i v, Steady (body i v)) (i : Nat) (vs : List Value) :
    Steady (withAll body i vs) := by
  induction vs generalizing i with
  | nil | cons =>
    unfold withAll
    grind

@[grind ←]
theorem steady_withEach (h : ∀ i v, Steady (body i v)) : Steady (withEach v body) := by
  unfold withEach
  grind [steady_withNext, steady_withAll]

theorem steady_everyNext (h : ∀ v, Steady (test v)) (r : Ref) (fuel : Nat) :
    Steady (everyNext r test fuel) := by
  induction fuel with
  | zero => exact steady_fault
  | succ fuel ih =>
    unfold everyNext
    grind

theorem steady_everyOf (h : ∀ v, Steady (test v)) (vs : List Value) :
    Steady (everyOf test vs) := by
  induction vs with
  | nil | cons =>
    unfold everyOf
    grind

@[grind ←]
theorem steady_everyValue (h : ∀ v, Steady (test v)) : Steady (everyValue v test) := by
  unfold everyValue
  grind [steady_everyNext, steady_everyOf]

end Loops

/-! ## Collections -/

@[grind .]
theorem steady_dictGet? : Steady (dictGet? r v) := by
  unfold dictGet?
  grind

@[grind .]
theorem steady_dictPut : Steady (dictPut r v w) := by
  unfold dictPut
  grind

@[grind .]
theorem steady_keyMissing : Steady (keyMissing v : Act α) := .of_cells fun _ => rfl

@[grind .]
theorem steady_memberFor : Steady (memberFor v) := by
  unfold memberFor
  grind

@[grind .]
theorem steady_soughtMember : Steady (soughtMember v) := by
  unfold soughtMember
  grind

@[grind .]
theorem steady_keyMembers : Steady (keyMembers r) := by
  unfold keyMembers
  grind

@[grind .]
theorem steady_fillSet : Steady (fillSet r v) := by
  unfold fillSet
  grind

@[grind .]
theorem steady_setOf : Steady (setOf v) := by
  unfold setOf
  grind

@[grind .]
theorem steady_drainSet : Steady (drainSet r v) := by
  unfold drainSet
  split
  · grind
  · exact (steady_withEach fun _ _ => by grind).bind fun _ => steady_modifySet _ _

@[grind .]
theorem steady_toggleSet : Steady (toggleSet r v) := by
  unfold toggleSet
  grind

@[grind .]
theorem steady_commonSet : Steady (commonSet r v) := by
  unfold commonSet
  refine (steady_setTable r).bind fun own => ?_
  split
  · grind
  · exact (steady_alloc _).bind fun _ => (steady_withEach fun _ _ => by grind).bind fun _ => .pure _

@[grind .]
theorem steady_differenceSet : Steady (differenceSet r v) := by
  unfold differenceSet
  grind

/-! ## Membership -/

@[grind .]
theorem steady_amongRest (v : Value) (r : Ref) (fuel : Nat) : Steady (amongRest v r fuel) := by
  induction fuel with
  | zero => exact steady_fault
  | succ fuel ih =>
    unfold amongRest
    grind

@[grind .]
theorem steady_holds : Steady (holds v w) := by
  unfold holds
  grind

/-! ## Placeholders of texts -/

section Placeholders

variable {p : Placeholder} {letter : Char} {supply : Supply}

@[grind .]
theorem steady_take : Steady supply.take := by
  unfold Supply.take
  grind

@[grind .]
theorem steady_starCount : Steady (starCount v) := by
  unfold starCount
  grind

@[grind .]
theorem steady_integerFor : Steady (integerFor letter v) := by
  unfold integerFor
  grind

@[grind .]
theorem steady_integer : Steady (p.integer letter v) := by
  unfold Placeholder.integer
  grind

@[grind .]
theorem steady_doubleFor : Steady (doubleFor v) := by
  unfold doubleFor
  grind

@[grind .]
theorem steady_double : Steady (p.double letter v) := by
  unfold Placeholder.double
  grind

@[grind .]
theorem steady_char : Steady (p.char v) := by
  unfold Placeholder.char
  grind

@[grind .]
theorem steady_fill {i : Nat} : Steady (p.fill letter i v) := by
  unfold Placeholder.fill
  grind

@[grind .]
theorem steady_readWidth : Steady (readWidth p s supply) := by
  unfold readWidth
  grind

@[grind .]
theorem steady_readPrecision : Steady (readPrecision p s supply) := by
  unfold readPrecision
  grind

@[grind .]
theorem steady_lookUp : Steady (lookUp v name) := by
  unfold lookUp
  grind

@[grind .]
theorem steady_fillFrom (total fuel : Nat) (s : List Char) (supply : Supply) :
    Steady (fillFrom total fuel s supply) := by
  induction fuel generalizing s supply with
  | zero => exact .pure _
  | succ fuel ih =>
    unfold fillFrom
    split
    -- A placeholder: its name is looked up first; a width or precision may draw from the supply.
    case h_3 hfuel =>
      cases hfuel
      split
      · split
        · exact steady_typeError_bind
        · split
          · exact steady_valueError_bind
          · refine .bind steady_lookUp fun _ => .bind (.pure _) fun _ =>
              .bind steady_readWidth fun _ => ?_
            grind
      · refine .bind (.pure _) fun _ => .bind steady_readWidth fun _ => ?_
        grind
    all_goals grind

@[grind .]
theorem steady_fillPlaceholders : Steady (fillPlaceholders name v) := by
  unfold fillPlaceholders
  grind

end Placeholders

/-! ## Operators -/

section Operators

variable {op : BinaryOp} {x y : Float} {i j : Int} {m n : Num} {z z' : Float × Float}

@[grind .]
theorem steady_unsupported : Steady (unsupported op v w : Act α) := steady_fault

@[grind .]
theorem steady_zeroDivision : Steady (zeroDivision message : Act α) := steady_fault

@[grind .]
theorem steady_toDouble : Steady (toDouble i) := by
  unfold toDouble
  grind

@[grind .]
theorem steady_doubleOf : Steady n.double := by
  unfold Num.double
  grind

@[grind .]
theorem steady_parts : Steady n.parts := by
  unfold Num.parts
  grind

@[grind .]
theorem steady_trueQuotient : Steady (trueQuotient i j) := by
  unfold trueQuotient
  grind

@[grind .]
theorem steady_outOfRange : Steady (outOfRange : Act α) := steady_fault

@[grind .]
theorem steady_complexPower : Steady (complexPower z z') := by
  unfold complexPower
  grind

@[grind .]
theorem steady_floatPower : Steady (floatPower x y) := by
  unfold floatPower
  grind

@[grind .]
theorem steady_complexQuotient : Steady (complexQuotient z z') := by
  unfold complexQuotient
  grind

@[grind .]
theorem steady_complexArith : Steady (complexArith op m n v w) := by
  unfold complexArith
  grind

@[grind .]
theorem steady_floatArith : Steady (floatArith op x y v w) := by
  unfold floatArith
  grind

@[grind .]
theorem steady_intArith : Steady (intArith op i j) := by
  unfold intArith
  grind

@[grind .]
theorem steady_numArith : Steady (numArith op m n v w) := by
  unfold numArith
  grind

@[grind .]
theorem steady_repeatSequence : Steady (repeatSequence v i) := by
  unfold repeatSequence
  grind

@[grind .]
theorem steady_product : Steady (product v w) := by
  unfold product
  grind

@[grind .]
theorem steady_concatenate : Steady (concatenate v w) := by
  unfold concatenate
  grind

@[grind .]
theorem steady_operandSet : Steady (operandSet v) := by
  unfold operandSet
  grind

@[grind .]
theorem steady_valuesAmong : Steady (valuesAmong v w) := by
  unfold valuesAmong
  exact (steady_alloc _).bind fun _ => (steady_withEach fun _ _ => by grind).bind fun _ => .pure _

@[grind .]
theorem steady_commonWithView : Steady (commonWithView v w) := by
  unfold commonWithView
  grind

@[grind .]
theorem steady_exclusiveItems {d e : Ref} : Steady (exclusiveItems d e) := by
  unfold exclusiveItems
  refine (steady_dictTable d).bind fun _ => (steady_alloc _).bind fun rest =>
    (steady_alloc _).bind fun made => (steady_dictEntries e).bind fun items => ?_
  refine Steady.bind (.forM fun item => ?_) fun _ => by grind
  grind

@[grind .]
theorem steady_setsArith {s : Ref} : Steady (setsArith op r s) := by
  unfold setsArith
  grind

@[grind .]
theorem steady_viewArith : Steady (viewArith op v w) := by
  unfold viewArith
  grind

@[grind .]
theorem steady_setArith : Steady (setArith op v w) := by
  unfold setArith
  grind

@[grind .]
theorem steady_applyPlain : Steady (applyPlain op v w) := by
  unfold applyPlain
  grind

@[grind .]
theorem steady_refuse : Steady (refuse message : Act α) := steady_fault

@[grind .]
theorem steady_magnitude : Steady (magnitude v) := by
  unfold magnitude
  grind

@[grind .]
theorem steady_exceeds {limit : Nat} : Steady (exceeds v limit) := by
  unfold exceeds
  grind

@[grind .]
theorem steady_seemsSized : Steady (seemsSized v) := by
  unfold seemsSized
  grind

@[grind .]
theorem steady_sizeOf : Steady (Expr.sizeOf v) := by
  unfold Expr.sizeOf
  grind

@[grind .]
theorem steady_refuseLarge : Steady (refuseLarge name v w : Act α) := by
  unfold refuseLarge
  grind

@[grind .]
theorem steady_applyBinary : Steady (applyBinary op v w) := by
  unfold applyBinary
  split <;> grind

@[grind .]
theorem steady_applyUnary {op : UnaryOp} : Steady (applyUnary op v) := by
  unfold applyUnary
  grind

end Operators

/-! ## Subscripts -/

@[grind .]
theorem steady_sliceBound : Steady (sliceBound v) := by
  unfold sliceBound
  grind

@[grind .]
theorem steady_span {size : Nat} {lower upper step : Value} :
    Steady (span size lower upper step) := by
  unfold span
  grind

@[grind .]
theorem steady_badSubscript : Steady (badSubscript name v : Act α) := steady_fault

@[grind ←]
theorem steady_subscript {wrong : Act Int} (h : Steady wrong) : Steady (subscript v wrong) := by
  unfold subscript
  grind

@[grind .]
theorem steady_elementAt {xs : Array α} {i : Int} : Steady (elementAt xs i message) := by
  unfold elementAt
  grind

@[grind .]
theorem steady_getItem : Steady (getItem v w) := by
  unfold getItem
  grind

end Stencil.Expr
