import Stencil.Expr.Order
/-!
# Stencil.Expr.Iterate -- running through values

An iterator hands out the values of a collection one at a time and is used up by it. Lists are
followed as they are when the next value is asked for. So are the tables of dictionaries and sets,
which must keep their size while they are run through: what is put in for something that is taken out
comes up if it stands behind the place that has been reached.
-/

namespace Stencil.Expr

/-! ## One step -/

/-- What a view shows of an entry. -/
def ViewKind.of (kind : ViewKind) (e : Entry) : Value :=
  match kind with
  | .keys => e.shown
  | .values => e.value
  | .items => .tuple [e.shown, e.value]

/-- Remember the state of an iterator. -/
def setIter (r : Ref) (it : Iter) : Act Unit := writeCell r (.iterator it)

/-- The next entry of a dictionary from a place on. There must be as many as when the iterator was
made, and it hands out no more than those. -/
def nextEntry (r : Ref) (kind : ViewKind) (d : Ref) (i : Nat) (size : Option Nat) (left : Nat) :
    Act (Option Value) := do
  let t ← dictTable d
  if size != some t.used then
    -- From now on no size is the right one.
    setIter r (.entries kind d i none left)
    fault .runtime "dictionary changed size during iteration"
  match t.firstFrom i, left with
  | some (j, e), left + 1 =>
    setIter r (.entries kind d (j + 1) size left)
    return some (kind.of e)
  | some _, 0 =>
    setIter r .finished
    fault .runtime "dictionary keys changed during iteration"
  | none, _ =>
    setIter r .finished
    return none

/-- The last entry of a dictionary below a place. -/
def nextEntryBack (r : Ref) (kind : ViewKind) (d : Ref) (i : Nat) (size : Option Nat) :
    Act (Option Value) := do
  let t ← dictTable d
  if size != some t.used then
    setIter r (.entriesBack kind d i none)
    fault .runtime "dictionary changed size during iteration"
  match t.lastBelow i with
  | some (j, e) =>
    setIter r (.entriesBack kind d j size)
    return some (kind.of e)
  | none =>
    setIter r .finished
    return none

/-- The next member of a set from a slot on. -/
def nextMember (r s : Ref) (i : Nat) (size : Option Nat) : Act (Option Value) := do
  let t ← setTable s
  if size != some t.used then
    setIter r (.members s i none)
    fault .runtime "Set changed size during iteration"
  match t.firstFrom i with
  | some (j, m) =>
    setIter r (.members s (j + 1) size)
    return some m.shown
  | none =>
    setIter r .finished
    return none

mutual

/-- The next value of an iterator, or none when it is used up. An iterator is made after those it
draws from, so their addresses are smaller. -/
def next (r : Ref) : Act (Option Value) := do
  match ← iterState r with
  | .finished => return none
  | .forward l i => do
    match (← listItems l)[i]? with
    | some v => setIter r (.forward l (i + 1)); return some v
    | none => setIter r .finished; return none
  | .backward _ 0 => return none
  | .backward l (i + 1) => do
    match (← listItems l)[i]? with
    | some v => setIter r (.backward l i); return some v
    | none => setIter r .finished; return none
  | .fixed [] => return none
  | .fixed (v :: rest) => setIter r (.fixed rest); return some v
  | .run _ _ 0 => return none
  | .run n step (left + 1) => setIter r (.run (n + step) step left); return some (.int n)
  | .entries kind d i size left => nextEntry r kind d i size left
  | .entriesBack kind d i size => nextEntryBack r kind d i size
  | .members s i size => nextMember r s i size
  | .numbered inner n => do
    if _ : inner < r then
      match ← next inner with
      | some v => setIter r (.numbered inner (n + 1)); return some (.tuple [.int n, v])
      | none => return none
    else return none
  | .zipped [] => return none
  | .zipped inners => do
    match ← nextAll r inners with
    | some vs => return some (.tuple vs)
    | none => return none
termination_by (r, 1, 0)

/-- The next values of several iterators, or none when one of them is used up; those after it are
not asked. -/
def nextAll (r : Ref) : List Ref → Act (Option (List Value))
  | [] => return some []
  | i :: rest => do
    if _ : i < r then
      match ← next i with
      | some v =>
        match ← nextAll r rest with
        | some vs => return some (v :: vs)
        | none => return none
      | none => return none
    else return none
termination_by inners => (r, 0, inners.length)

end

/-! ## Making iterators -/

/-- The fault of a value that cannot be run through. -/
def notIterable {α : Type} (v : Value) : Act α :=
  typeError ("'" ++ v.typeName ++ "' object is not iterable")

/-- The bytes as integers. -/
def byteValues (b : List UInt8) : List Value := b.map fun x => .int x.toNat

/-- The characters as texts. -/
def charValues (s : String) : List Value := s.toList.map fun c => .str (String.singleton c)

/-- An iterator over a value, or none when it has none. An iterator is its own. -/
def iter? (v : Value) : Act (Option Value) := do
  match v with
  | .iterator .. => return some v
  | .list r => return some (← newIter .listIterator (.forward r 0))
  | .tuple items => return some (← newIter .tupleIterator (.fixed items))
  | .str s => return some (← newIter .strIterator (.fixed (charValues s)))
  | .bytes b => return some (← newIter .bytesIterator (.fixed (byteValues b)))
  | .range start stop step =>
    return some (← newIter .rangeIterator (.run start step (rangeLength start stop step)))
  | .dict r =>
    let n := (← dictTable r).used
    return some (← newIter .dictKeyIterator (.entries .keys r 0 (some n) n))
  | .view kind r =>
    let tag : TypeTag := match kind with
      | .keys => .dictKeyIterator
      | .values => .dictValueIterator
      | .items => .dictItemIterator
    let n := (← dictTable r).used
    return some (← newIter tag (.entries kind r 0 (some n) n))
  | .set r => return some (← newIter .setIterator (.members r 0 (some (← setTable r).used)))
  | _ => return none

/-- An iterator over a value. -/
def iter (v : Value) : Act Value := do
  match ← iter? v with
  | some it => return it
  | none => notIterable v

/-- The address of an iterator. -/
def iterRef (v : Value) : Act Ref := do
  match ← iter v with
  | .iterator _ r => return r
  | w => notIterable w

/-- An iterator over a value backwards. -/
def iterBack (v : Value) : Act Value := do
  match v with
  | .list r => newIter .listBackIterator (.backward r (← listItems r).size)
  | .tuple items => newIter .reversed (.fixed items.reverse)
  | .str s => newIter .reversed (.fixed (charValues s).reverse)
  | .bytes b => newIter .reversed (.fixed (byteValues b).reverse)
  | .range start stop step =>
    let n := rangeLength start stop step
    newIter .rangeIterator (.run (start + step * ((n : Int) - 1)) (-step) n)
  | .dict r =>
    let t ← dictTable r
    newIter .dictBackKeyIterator (.entriesBack .keys r t.places.size (some t.used))
  | .view kind r =>
    let tag : TypeTag := match kind with
      | .keys => .dictBackKeyIterator
      | .values => .dictBackValueIterator
      | .items => .dictBackItemIterator
    let t ← dictTable r
    newIter tag (.entriesBack kind r t.places.size (some t.used))
  | _ => typeError ("'" ++ v.typeName ++ "' object is not reversible")

/-! ## Whole collections -/

/-- How many values are collected at most. -/
def collectLimit : Nat := 100000000

/-- Collect the remaining values of an iterator. -/
def collectFrom (r : Ref) : Nat → Array Value → Act (Array Value)
  | 0, _ => fault .memory ""
  | fuel + 1, acc => do
    match ← next r with
    | some v => collectFrom r fuel (acc.push v)
    | none => return acc

/-- The numbers of a range. -/
def rangeItems (start step : Int) : Nat → Array Value → Array Value
  | 0, acc => acc
  | n + 1, acc => rangeItems (start + step) step n (acc.push (.int start))

/-- All values of a collection. -/
def collect (v : Value) : Act (Array Value) := do
  match v with
  | .list r => listItems r
  | .tuple items => return items.toArray
  | .str s => return (charValues s).toArray
  | .bytes b => return (byteValues b).toArray
  | .range start stop step =>
    let n := rangeLength start stop step
    if n > collectLimit then fault .memory ""
    return rangeItems start step n #[]
  | .dict r => return (← dictEntries r).map (·.shown)
  | .view kind r => return (← dictEntries r).map kind.of
  | .set r => return (← setMembers r).map (·.shown)
  | _ => collectFrom (← iterRef v) collectLimit #[]

end Stencil.Expr
