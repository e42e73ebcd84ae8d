import Stencil.Expr.DictTable
import Stencil.Expr.Hash
import Stencil.Expr.SetTable
import Stencil.Text.Codec
/-!
# Stencil.Expr.Machine -- the machine that holds what changes

Lists, dictionaries, sets and iterators are held in the cells of a machine. An action reads and
changes the machine; when it fails, the changes it made before stay. A machine also has what differs
from one interpreter to another and never changes while it runs: the hashes of keys, from which the
order of sets comes, and the codecs that names stand for.
-/

namespace Stencil.Expr

/-! ## Cells -/

/-- The state of an iterator. One over a collection that must keep its size knows that size, until it
has found another one. -/
inductive Iter where
  /-- Over a list as it is now, from a position on. -/
  | forward (list : Ref) (next : Nat)
  /-- Over a list as it is now, backwards, with this many positions left. -/
  | backward (list : Ref) (left : Nat)
  /-- Over values fixed beforehand. -/
  | fixed (rest : List Value)
  /-- Over a run of numbers. -/
  | run (next step : Int) (left : Nat)
  /-- Over the entries of a dictionary from a place on, of which so many are left to come. -/
  | entries (kind : ViewKind) (dict : Ref) (next : Nat) (size : Option Nat) (left : Nat)
  /-- Over the entries below a place, backwards. -/
  | entriesBack (kind : ViewKind) (dict : Ref) (left : Nat) (size : Option Nat)
  /-- Over the members of a set from a slot on. -/
  | members (set : Ref) (next : Nat) (size : Option Nat)
  /-- Values of another iterator, numbered. -/
  | numbered (inner : Ref) (next : Int)
  /-- Tuples of the values of several iterators. -/
  | zipped (inners : List Ref)
  | finished
  deriving Inhabited

/-- The contents of a cell. -/
inductive Cell where
  | list (items : Array Value)
  | dict (table : DictTable)
  | set (table : SetTable)
  | iterator (it : Iter)
  deriving Inhabited

/-- The machine. -/
structure Machine where
  cells : Array Cell := #[]
  /-- How many comprehension steps the running evaluation has taken. -/
  steps : Nat := 0
  /-- The texts a recording evaluator has been asked to evaluate, the latest first. -/
  journal : List String := []
  /-- The key that was missed last. Its text is made when the fault is told. -/
  missed : Option Value := none
  /-- The hashes of keys. -/
  hash : Key → UInt64 := Key.hash
  /-- The codecs by their names. -/
  codecs : Text.Codecs := Text.Codec.ofName?
  deriving Inhabited

/-- The machine as an evaluation finds it that has not begun. -/
def Machine.fresh (m : Machine) : Machine := { m with steps := 0, journal := [], missed := none }

/-- An action on the machine. -/
abbrev Act (α : Type) := EStateM Failure Machine α

/-! ## Faults -/

section Faults

variable {α : Type}

/-- Fail with a fault of a kind. -/
def fault (kind : FaultKind) (message : String) : Act α := throw (.fault kind message)

/-- Fail because a value has the wrong type. -/
def typeError (message : String) : Act α := fault .typeMismatch message

/-- Fail because a value of the right type cannot be used. -/
def valueError (message : String) : Act α := fault .badValue message

/-- Let a computation that needs no machine act. -/
def ofExcept : Except Failure α → Act α
  | .ok a => pure a
  | .error e => throw e

end Faults

/-! ## Reading and writing cells -/

/-- Put contents into a new cell. -/
def alloc (c : Cell) : Act Ref := do
  let m ← get
  set { m with cells := m.cells.push c }
  return m.cells.size

/-- The items of a list. -/
def listItems (r : Ref) : Act (Array Value) := do
  match (← get).cells[r]? with
  | some (.list items) => return items
  | _ => return #[]

/-- The table of a dictionary. -/
def dictTable (r : Ref) : Act DictTable := do
  match (← get).cells[r]? with
  | some (.dict table) => return table
  | _ => return {}

/-- The table of a set. -/
def setTable (r : Ref) : Act SetTable := do
  match (← get).cells[r]? with
  | some (.set table) => return table
  | _ => return {}

/-- The entries of a dictionary. -/
def dictEntries (r : Ref) : Act (Array Entry) := return (← dictTable r).entries

/-- The members of a set. -/
def setMembers (r : Ref) : Act (Array Member) := return (← setTable r).members

/-- The state of an iterator. -/
def iterState (r : Ref) : Act Iter := do
  match (← get).cells[r]? with
  | some (.iterator it) => return it
  | _ => return .finished

/-- Write a cell. -/
def writeCell (r : Ref) (c : Cell) : Act Unit :=
  modify fun m => { m with cells := m.cells.setIfInBounds r c }

/-- Change the items of a list in place. -/
def modifyList (r : Ref) (f : Array Value → Array Value) : Act Unit :=
  modify fun m =>
    { m with cells := m.cells.modify r fun
        | .list items => .list (f items)
        | c => c }

/-- Change the table of a dictionary in place. -/
def modifyDict (r : Ref) (f : DictTable → DictTable) : Act Unit :=
  modify fun m =>
    { m with cells := m.cells.modify r fun
        | .dict table => .dict (f table)
        | c => c }

/-- Change the table of a set in place. -/
def modifySet (r : Ref) (f : SetTable → SetTable) : Act Unit :=
  modify fun m =>
    { m with cells := m.cells.modify r fun
        | .set table => .set (f table)
        | c => c }

/-- A new list. -/
def newList (items : Array Value) : Act Value := return .list (← alloc (.list items))

/-- A new dictionary. -/
def newDict (table : DictTable) : Act Value := return .dict (← alloc (.dict table))

/-- A new set. -/
def newSet (table : SetTable) : Act Value := return .set (← alloc (.set table))

/-- A new iterator. -/
def newIter (kind : TypeTag) (it : Iter) : Act Value :=
  return .iterator kind (← alloc (.iterator it))

end Stencil.Expr
