import Stencil.Expr.Iterate
import Stencil.Expr.Show
/-!
# Stencil.Expr.Collection -- dictionaries and sets

What a collection holds is put into a set or taken out of it one value after the other, unless the
collection is a set or a dictionary itself: then its table is worked on as a whole. Values that are
used as keys must be ones that can be.
-/

namespace Stencil.Expr

/-! ## One value after the other -/

/-- Do something with the next values of an iterator, which are counted from `i`. It is done with one
of them before the next one is asked for. -/
def withNext (r : Ref) (body : Nat → Value → Act Unit) : Nat → Nat → Act Unit
  | 0, _ => fault .memory ""
  | fuel + 1, i => do
    match ← next r with
    | some v =>
      body i v
      withNext r body fuel (i + 1)
    | none => return

/-- Do something with values, which are counted from `i`. -/
def withAll (body : Nat → Value → Act Unit) : Nat → List Value → Act Unit
  | _, [] => return
  | i, v :: vs => do
    body i v
    withAll body (i + 1) vs

/-- Do something with each value of a collection. What has been done stays done when a later value
fails, and an iterator that draws from what is changed shows it. -/
def withEach (v : Value) (body : Nat → Value → Act Unit) : Act Unit := do
  match v with
  | .iterator _ r => withNext r body collectLimit 0
  | _ => withAll body 0 (← collect v).toList

/-- Whether a test holds of the next values of an iterator, up to the first of which it does not. -/
def everyNext (r : Ref) (test : Value → Act Bool) : Nat → Act Bool
  | 0 => fault .memory ""
  | fuel + 1 => do
    match ← next r with
    | some v => if ← test v then everyNext r test fuel else return false
    | none => return true

/-- Whether a test holds of values, up to the first of which it does not. -/
def everyOf (test : Value → Act Bool) : List Value → Act Bool
  | [] => return true
  | v :: vs => do if ← test v then everyOf test vs else return false

/-- Whether a test holds of each value of a collection. -/
def everyValue (v : Value) (test : Value → Act Bool) : Act Bool := do
  match v with
  | .iterator _ r => everyNext r test collectLimit
  | _ => everyOf test (← collect v).toList

/-! ## Entries -/

/-- Read a dictionary. -/
def dictGet? (r : Ref) (k : Value) : Act (Option Value) := do
  let key ← keyFor k
  return ((← dictTable r).entryFor? key).map (·.value)

/-- Write to a dictionary. -/
def dictPut (r : Ref) (k v : Value) : Act Unit := do
  let key ← keyFor k
  modifyDict r (·.put ⟨key, k, v⟩)

/-- The fault of a key that is not there. It shows the key, of which the text is not made before the
fault is told. -/
def keyMissing {α : Type} (k : Value) : Act α := do
  modify fun m => { m with missed := some k }
  fault .missingKey ""

/-! ## Members -/

/-- The member that a value is. -/
def memberFor (v : Value) : Act Member := do
  let key ← keyFor v
  return ⟨key, (← get).hash key, v⟩

/-- The member that a value is when it is looked for. A set is looked for as one that cannot be
changed, and no set has such members. -/
def soughtMember (v : Value) : Act (Option Member) := do
  match v with
  | .set _ => return none
  | _ => return some (← memberFor v)

/-- The keys of a dictionary as members of a set. -/
def keyMembers (r : Ref) : Act (Array Member) := do
  let hash := (← get).hash
  return (← dictEntries r).map fun e => ⟨e.key, hash e.key, e.shown⟩

/-- Put what a value holds into a set. -/
def fillSet (r : Ref) (v : Value) : Act Unit := do
  match v with
  | .set s => do
    let t ← setTable s
    if s != r then modifySet r (·.merge t)
  | .dict d => do
    let ms ← keyMembers d
    modifySet r (·.addAll ms)
  | _ => withEach v fun _ x => do
    let m ← memberFor x
    modifySet r (·.add m)

/-- A new set with what a value holds. -/
def setOf (v : Value) : Act Ref := do
  let r ← alloc (.set {})
  fillSet r v
  return r

/-- Take what a value holds out of a set. -/
def drainSet (r : Ref) (v : Value) : Act Unit := do
  match v with
  | .set s => do
    let t ← setTable s
    modifySet r fun own => if s == r then own.cleared else own.subtract t
  | _ => do
    withEach v fun _ x => do
      let m ← memberFor x
      modifySet r (·.discard m)
    modifySet r (·.swept)

/-- Take out of a set what a value holds as well, and put in what only the value holds. -/
def toggleSet (r : Ref) (v : Value) : Act Unit := do
  match v with
  | .set s => do
    let t ← setTable s
    modifySet r fun own => if s == r then own.cleared else t.members.foldl .toggle own
  | .dict d => do
    let ms ← keyMembers d
    modifySet r fun own => ms.foldl .toggle own
  | _ => do
    let t ← setTable (← setOf v)
    modifySet r fun own => t.members.foldl .toggle own

/-- A new set with what a set and a value both hold. -/
def commonSet (r : Ref) (v : Value) : Act Ref := do
  let own ← setTable r
  match v with
  | .set s => do
    let t ← setTable s
    alloc (.set (if s == r then own.copied else own.common t))
  | _ => do
    let made ← alloc (.set {})
    withEach v fun _ x => do
      let m ← memberFor x
      if own.holds m then modifySet made (·.add m)
    return made

/-- A new set with what a set holds and a value does not. -/
def differenceSet (r : Ref) (v : Value) : Act Ref := do
  let own ← setTable r
  match v with
  | .set s => do
    let t ← setTable s
    alloc (.set (own.difference t))
  | .dict d => do
    let ms ← keyMembers d
    alloc (.set (own.difference (.ofMembers ms)))
  | _ => do
    let made ← alloc (.set own.copied)
    drainSet made v
    return made

/-! ## Membership -/

/-- Whether one of the remaining values of an iterator is a value; the iterator is used up to it. -/
def amongRest (v : Value) (r : Ref) : Nat → Act Bool
  | 0 => fault .memory ""
  | fuel + 1 => do
    match ← next r with
    | some x => if ← memberOf v [x] then return true else amongRest v r fuel
    | none => return false

/-- Whether an integer is an element of a range. -/
def inRange (i start stop step : Int) : Bool :=
  if step > 0 then start ≤ i && i < stop && (i - start) % step == 0
  else stop < i && i ≤ start && (start - i) % (-step) == 0

/-- Whether a collection holds a value. -/
def holds (collection v : Value) : Act Bool := do
  match collection with
  | .str s =>
    match v with
    | .str t => return Text.contains t.toList s.toList
    | _ => typeError ("'in <string>' requires string as left operand, not " ++ v.typeName)
  | .bytes b =>
    match v with
    | .bytes c =>
      return Text.contains (c.map fun x => Char.ofNat x.toNat) (b.map fun x => Char.ofNat x.toNat)
    | _ =>
      match v.int? with
      | some i =>
        if i < 0 || i > 255 then valueError "byte must be in range(0, 256)"
        else return b.contains (UInt8.ofNat i.toNat)
      | none => typeError ("a bytes-like object is required, not '" ++ v.typeName ++ "'")
  | .tuple items => memberOf v items
  | .list r => do memberOf v (← listItems r).toList
  | .dict r | .view .keys r => return ((← dictTable r).entryFor? (← keyFor v)).isSome
  | .set r => do
    let sought ← soughtMember v
    return sought.any (← setTable r).holds
  | .range start stop step =>
    match v.int? with
    | some i => return inRange i start stop step
    | none => memberOf v (← collect collection).toList
  | .view .items r =>
    match v with
    | .tuple [k, x] =>
      match ← dictGet? r k with
      | some y => equal y x
      | none => return false
    | _ => return false
  | .view .values _ => memberOf v (← collect collection).toList
  | .iterator _ r => amongRest v r collectLimit
  | _ => typeError ("argument of type '" ++ collection.typeName ++ "' is not iterable")

end Stencil.Expr
