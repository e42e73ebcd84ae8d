import Stencil.Expr.Call
import Stencil.Proofs.Operators
/-!
# Stencil.Proofs.Calls -- calls lose nothing

Methods are what changes collections in place: they append to lists, drop entries of dictionaries
and take members out of sets. Whatever is called, and whatever it is given, the cells keep their
kinds.
-/

namespace Stencil.Expr

variable {α : Type} {v w : Value} {r : Ref} {a : Args} {s : List Char} {name message : String}

/-! ## Arguments -/

section Arguments

variable {owner : String} {names : List String} {least most : Nat}

@[grind .]
theorem steady_onlyPositional : Steady (a.onlyPositional name) := by
  unfold Args.onlyPositional
  grind

@[grind .]
theorem steady_nothing : Steady (a.nothing name) := by
  unfold Args.nothing
  grind

@[grind .]
theorem steady_one : Steady (a.one name) := by
  unfold Args.one
  grind

@[grind .]
theorem steady_between : Steady (a.between owner name least most) := by
  unfold Args.between
  grind

@[grind .]
theorem steady_within : Steady (a.within owner name least most) := by
  unfold Args.within
  grind

@[grind .]
theorem steady_slots {byPosition : Nat} : Steady (a.slots name names byPosition least) := by
  unfold Args.slots
  grind

@[grind .]
theorem steady_parameters {needed : Nat} : Steady (a.parameters name names needed) := by
  unfold Args.parameters
  grind

@[grind .]
theorem steady_indexArg : Steady (indexArg v) := by
  unfold indexArg
  grind

@[grind .]
theorem steady_sizeArg : Steady (sizeArg v) := by
  unfold sizeArg
  grind

@[grind .]
theorem steady_searchBounds {size : Nat} {lower upper : Option Value} :
    Steady (searchBounds size lower upper) := by
  unfold searchBounds
  grind

end Arguments

/-! ## Methods of texts and bytes -/

section Texts

variable {encoding errors : String} {size : Nat} {b : List UInt8}

@[grind .]
theorem steady_textArg : Steady (textArg v message) := by
  unfold textArg
  grind

@[grind .]
theorem steady_searchArgs : Steady (searchArgs name size a) := by
  unfold searchArgs
  grind

@[grind .]
theorem steady_padArgs : Steady (padArgs name a) := by
  unfold padArgs
  grind

@[grind .]
theorem steady_splitArgs : Steady (splitArgs name a) := by
  unfold splitArgs
  refine .bind steady_slots fun given => ?_
  split <;> grind

@[grind .]
theorem steady_codecNamed : Steady (codecNamed name) := by
  unfold codecNamed
  grind

@[grind .]
theorem steady_codecArg {callable which usual : String} {found : Option Value} :
    Steady (codecArg callable which found usual) := by
  unfold codecArg
  grind

@[grind .]
theorem steady_codecArgs : Steady (codecArgs name a) := by
  unfold codecArgs
  refine .bind steady_slots fun given => ?_
  split <;> grind

@[grind .]
theorem steady_codecResult {deed : String} {r : Except Failure α} :
    Steady (codecResult deed name r) := by
  unfold codecResult
  grind

@[grind .]
theorem steady_encodeText : Steady (encodeText s encoding errors) := by
  unfold encodeText
  grind

@[grind .]
theorem steady_partitioned {last : Bool} : Steady (partitioned last s v) := by
  unfold partitioned
  grind

@[grind .]
theorem steady_joinParts (i : Nat) (vs : List Value) : Steady (joinParts i vs) := by
  induction vs generalizing i with
  | nil | cons =>
    unfold joinParts
    grind

@[grind .]
theorem steady_translated {c : Char} : Steady (translated v c) := by
  unfold translated
  grind

@[grind .]
theorem steady_translationTable : Steady (translationTable a) := by
  unfold translationTable
  refine .bind steady_between fun given => ?_
  split
  · refine .bind (steady_dictEntries _) fun entries => .bind (.foldlM_array (fun acc e => ?_) _)
      fun _ => steady_newDict _
    grind
  all_goals grind

@[grind .]
theorem steady_trimText : Steady (trimText name s a) := by
  unfold trimText
  grind

@[grind .]
theorem steady_affixTest : Steady (affixTest name s a) := by
  unfold affixTest
  refine .bind steady_searchArgs fun given => ?_
  split
  split <;> grind

@[grind .]
theorem steady_callText : Steady (callText s name a) := by
  unfold callText
  split
  · grind
  split
  · grind
  split
  any_goals grind
  -- What is left is the replacement of pieces.
  refine .bind steady_between fun given => ?_
  split <;> grind

@[grind .]
theorem steady_bytesArg : Steady (bytesArg v) := by
  unfold bytesArg
  grind

@[grind .]
theorem steady_pieceArg : Steady (pieceArg v) := by
  unfold pieceArg
  grind

@[grind .]
theorem steady_decodeBytes : Steady (decodeBytes b encoding errors) := by
  unfold decodeBytes
  grind

@[grind .]
theorem steady_bytesPadArgs : Steady (bytesPadArgs name a) := by
  unfold bytesPadArgs
  grind

@[grind .]
theorem steady_bytesFromHex : Steady (bytesFromHex s) := by
  unfold bytesFromHex
  grind

@[grind .]
theorem steady_translateBytes {deleted : List Char} : Steady (translateBytes v deleted s) := by
  unfold translateBytes
  grind

@[grind .]
theorem steady_bytesTable : Steady (bytesTable a) := by
  unfold bytesTable
  grind

@[grind .]
theorem steady_callBytes : Steady (callBytes b name a) := by
  unfold callBytes
  dsimp only
  split
  · grind
  split
  · grind
  split
  any_goals grind
  -- What is left is the replacement of pieces and, in both directions, the cutting into pieces.
  · refine .bind steady_between fun given => ?_
    split <;> grind
  all_goals
    refine .bind steady_slots fun given => ?_
    split
    · split
      · refine .bind (.pure _) fun _ => ?_
        split <;> grind
      · refine .bind steady_sizeArg fun _ => .bind (.pure _) fun _ => ?_
        split <;> grind
    · exact .pure _

end Texts

/-! ## Sorting -/

section Sorting

variable {x y : Ranked} {xs : Array Ranked}

@[grind .]
theorem steady_less : Steady (less x y) := by
  unfold less
  grind

@[grind .]
theorem steady_runFrom (xs : Array Ranked) (down : Bool) (i : Nat) :
    Steady (runFrom xs down i) := by
  induction i using runFrom.induct xs with
  | _ =>
    unfold runFrom
    grind

@[grind .]
theorem steady_placeFor (xs : Array Ranked) (x : Ranked) (lo hi : Nat) :
    Steady (placeFor xs x lo hi) := by
  induction lo, hi using placeFor.induct with
  | _ =>
    unfold placeFor
    grind

@[grind .]
theorem steady_insertAll (sorted : Array Ranked) (xs : List Ranked) :
    Steady (insertAll sorted xs) := by
  induction xs generalizing sorted with
  | nil => exact .pure _
  | cons x xs ih =>
    unfold insertAll
    grind

@[grind .]
theorem steady_sortRanked : Steady (sortRanked xs) := by
  unfold sortRanked
  grind

@[grind .]
theorem steady_sortValues {backwards : Bool} : Steady (sortValues xs backwards) := by
  unfold sortValues
  grind

@[grind .]
theorem steady_extremeFrom (op : Comparison) (best : Ranked) (xs : List Ranked) :
    Steady (extremeFrom op best xs) := by
  induction xs generalizing best with
  | nil => exact .pure _
  | cons x xs ih =>
    unfold extremeFrom
    grind

end Sorting

/-! ## Methods of collections -/

section Methods

variable {apply : Value → Value → Act Value} {body : Nat → Value → Act Unit} {items : List Value}
  {i : Int}

@[grind .]
theorem steady_countOf (v : Value) (ws : List Value) : Steady (countOf v ws) := by
  induction ws with
  | nil | cons =>
    unfold countOf
    grind

@[grind .]
theorem steady_indexOf (v : Value) (i : Nat) (ws : List Value) : Steady (indexOf v i ws) := by
  induction ws generalizing i with
  | nil | cons =>
    unfold indexOf
    grind

@[grind .]
theorem steady_searchBound {size : Nat} {found : Option Value} :
    Steady (searchBound size found i) := by
  unfold searchBound
  grind

@[grind ←]
theorem steady_indexWithin {missing : Value → Act Value} (h : ∀ v, Steady (missing v)) :
    Steady (indexWithin name items a missing) := by
  unfold indexWithin
  grind

@[grind ←]
theorem steady_sortList {backwards : Bool} {rankOf : Value → Act Value}
    (h : ∀ v, Steady (rankOf v)) : Steady (sortList r backwards rankOf) := by
  unfold sortList
  grind

@[grind .]
theorem steady_sortArgs : Steady (sortArgs a) := by
  unfold sortArgs
  grind

@[grind ←]
theorem steady_callList (h : ∀ v w, Steady (apply v w)) : Steady (callList apply r name a) := by
  unfold callList
  split
  any_goals grind
  · exact steady_one.bind fun _ =>
      (steady_withEach fun _ _ => steady_modifyList _ _).bind fun _ => .pure _
  · refine steady_between.bind fun given => ?_
    split <;> grind

@[grind .]
theorem steady_callTuple : Steady (callTuple items name a) := by
  unfold callTuple
  grind

@[grind .]
theorem steady_callRange {start stop step : Int} : Steady (callRange start stop step name a) := by
  unfold callRange
  grind

@[grind .]
theorem steady_pairOf {i : Nat} : Steady (pairOf i v) := by
  unfold pairOf
  grind

@[grind .]
theorem steady_updateDict : Steady (updateDict name r a) := by
  unfold updateDict
  grind

@[grind .]
theorem steady_roomFor : Steady (roomFor v) := by
  unfold roomFor
  grind

@[grind .]
theorem steady_callDict : Steady (callDict r name a) := by
  unfold callDict
  split
  any_goals grind
  -- What is left makes a dictionary of keys.
  exact steady_between.bind fun _ => steady_roomFor.bind fun _ => (steady_alloc _).bind fun _ =>
    (steady_withEach fun _ _ => steady_dictPut).bind fun _ => .pure _

@[grind .]
theorem steady_viewDisjoint : Steady (viewDisjoint v w) := by
  unfold viewDisjoint
  grind

@[grind .]
theorem steady_callView : Steady (callView v name a) := by
  unfold callView
  grind

@[grind .]
theorem steady_disjoint : Steady (disjoint r v) := by
  unfold disjoint
  grind

@[grind .]
theorem steady_inside : Steady (inside r v) := by
  unfold inside
  grind

@[grind .]
theorem steady_covers : Steady (covers r v) := by
  unfold covers
  grind

@[grind .]
theorem steady_commonSets (r : Ref) (vs : List Value) : Steady (commonSets r vs) := by
  induction vs generalizing r with
  | nil => exact steady_setOf
  | cons v vs ih =>
    cases vs with
    | nil => exact steady_commonSet
    | cons w ws => exact steady_commonSet.bind ih

@[grind .]
theorem steady_differenceSets (r : Ref) (vs : List Value) : Steady (differenceSets r vs) := by
  cases vs with
  | nil => exact steady_setOf
  | cons v vs =>
    exact steady_differenceSet.bind fun _ => (Steady.forM fun _ => steady_drainSet).bind fun _ =>
      .pure _

@[grind .]
theorem steady_callSet : Steady (callSet r name a) := by
  unfold callSet
  split <;> grind

/-! ## Methods of numbers -/

@[grind .]
theorem steady_toBytes {length : Int} {order : String} {signed : Bool} :
    Steady (toBytes i length order signed) := by
  unfold toBytes
  grind

@[grind .]
theorem steady_fromBytes {b : List UInt8} {order : String} {signed : Bool} :
    Steady (fromBytes b order signed) := by
  unfold fromBytes
  grind

@[grind .]
theorem steady_orderArg {found : Option Value} : Steady (orderArg found) := by
  unfold orderArg
  grind

@[grind .]
theorem steady_callInt : Steady (callInt i name a) := by
  unfold callInt
  split
  any_goals grind
  refine .bind steady_slots fun given => ?_
  split <;> grind

@[grind .]
theorem steady_callFloat {x : Float} : Steady (callFloat x name a) := by
  unfold callFloat
  grind

/-! ## Making values -/

@[grind .]
theorem steady_notInteger : Steady (notInteger i message : Act α) := steady_fault

@[grind .]
theorem steady_integerFromText : Steady (integerFromText i s message) := by
  unfold integerFromText
  grind

@[grind .]
theorem steady_integerFromDouble {x : Float} : Steady (integerFromDouble x) := by
  unfold integerFromDouble
  grind

@[grind .]
theorem steady_makeInt : Steady (makeInt a) := by
  unfold makeInt
  grind

@[grind .]
theorem steady_doubleFromText : Steady (doubleFromText s message) := by
  unfold doubleFromText
  grind

@[grind .]
theorem steady_makeFloat : Steady (makeFloat a) := by
  unfold makeFloat
  grind

@[grind .]
theorem steady_makeStr : Steady (makeStr a) := by
  unfold makeStr
  refine .bind steady_slots fun given => ?_
  split
  · refine .bind steady_codecArg fun encoding => .bind steady_codecArg fun errors => ?_
    split <;> grind
  · exact .pure _

@[grind .]
theorem steady_makeRange : Steady (makeRange a) := by
  unfold makeRange
  grind

@[grind .]
theorem steady_makeEnumerate : Steady (makeEnumerate a) := by
  unfold makeEnumerate
  grind

@[grind .]
theorem steady_makeZip : Steady (makeZip a) := by
  unfold makeZip
  grind

@[grind .]
theorem steady_make {t : TypeTag} : Steady (make t a) := by
  unfold make
  grind

/-! ## Calling -/

@[grind ←]
theorem steady_callMethod (h : ∀ v w, Steady (apply v w)) : Steady (callMethod apply v name a) := by
  unfold callMethod
  grind

@[grind .]
theorem steady_attributeOf : Steady (attributeOf v name) := by
  unfold attributeOf
  grind

@[grind ←]
theorem steady_wrap (h : ∀ v w, Steady (apply v w)) : Steady (wrap apply a) := by
  unfold wrap
  refine .bind steady_parameters fun given => ?_
  split <;> grind

@[grind .]
theorem steady_emptyOr : Steady (emptyOr a) := by
  unfold emptyOr
  grind

@[grind .]
theorem steady_remove : Steady (remove a) := by
  unfold remove
  grind

@[grind ←]
theorem steady_extreme {op : Comparison} (h : ∀ v w, Steady (apply v w)) :
    Steady (extreme apply name op a) := by
  unfold extreme
  dsimp only
  split
  · exact steady_typeError_bind
  refine .bind (by grind) fun _ => ?_
  split
  · refine .bind steady_collect fun _ => .bind (.pure _) fun _ => ?_
    refine .bind (.mapM fun v => ?_) fun _ => ?_
    · split <;> grind
    · grind
  · split
    · exact steady_typeError_bind
    · refine .bind (.pure _) fun _ => .bind (.mapM fun v => ?_) fun _ => ?_
      · split <;> grind
      · grind

@[grind ←]
theorem steady_callFunction {f : Function} (h : ∀ v w, Steady (apply v w)) :
    Steady (callFunction apply f a) := by
  unfold callFunction
  split
  any_goals grind
  split
  · refine .bind steady_collect fun _ => .bind steady_sortArgs fun given => ?_
    split
    grind
  · grind

@[grind ←]
theorem steady_callWith (h : ∀ v w, Steady (apply v w)) : Steady (callWith apply v a) := by
  unfold callWith
  grind

@[grind .]
theorem steady_callBack : Steady (callBack v w) := by
  unfold callBack
  grind

@[grind .]
theorem steady_call : Steady (call v a) := steady_callWith fun _ _ => steady_callBack

end Methods

end Stencil.Expr
