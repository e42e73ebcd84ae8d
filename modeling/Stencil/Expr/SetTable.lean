import Stencil.Expr.Value
/-!
# Stencil.Expr.SetTable -- the table of a set

A set keeps its members in a table of slots, whose number is a power of two. The hash of a member
leads to one slot after the other until one is free. A member that is taken out leaves a mark in its
slot, so that ways which lead over the slot still go on. A new member is put into the last marked slot
on its way, or else into the free one. When three fifths of the slots are no longer free the members
are put into a new table, which has no marks and is the larger the more members there are.

So a set is run through in an order that comes from the hashes, and from what has been put in and
taken out before.
-/

namespace Stencil.Expr

/-- A member of a set, with the hash of its key. -/
structure Member where
  key : Key
  hash : UInt64
  shown : Value
  deriving Inhabited

/-- A slot of a table. -/
inductive Slot where
  | free
  /-- A member has been taken out. -/
  | marked
  | taken (m : Member)
  deriving Inhabited

/-- The member in a slot. -/
def Slot.member? : Slot → Option Member
  | .taken m => some m
  | _ => none

/-- The number of slots of the smallest table. -/
def smallestTable : Nat := 8

/-- The table of a set. -/
structure SetTable where
  slots : Array Slot := Array.replicate smallestTable .free
  /-- How many slots are not free. -/
  filled : Nat := 0
  /-- How many members there are. -/
  used : Nat := 0
  /-- Where the search for a member that can be taken out begins. -/
  finger : Nat := 0
  deriving Inhabited

namespace SetTable

/-! ## Looking for slots -/

/-- How many neighbours of a slot are looked at before the way jumps. -/
def neighbours : Nat := 9

/-- Whether a slot holds an equal member. -/
def Slot.holds (m : Member) : Slot → Bool
  | .taken n => n.hash == m.hash && n.key == m.key
  | _ => false

/-- Whether a slot is free. -/
def Slot.isFree : Slot → Bool
  | .free => true
  | _ => false

/-- Whether a member has been taken out of a slot. -/
def Slot.isMarked : Slot → Bool
  | .marked => true
  | _ => false

/-- The slot at which a way ends, and the last marked one that it leads over. -/
structure End where
  place : Nat
  marked : Option Nat

/-- The first slot on a way of which a test holds. From a place the way goes over some neighbours,
unless they would lie behind the end, and jumps on. What is left of the hash makes it jump farther;
when nothing is left of it, the jumps come to every place. -/
def seek (slots : Array Slot) (ok : Slot → Bool) : Nat → Nat → Nat → Option Nat → Option End
  | 0, _, _, _ => none
  | fuel + 1, i, rest, marked =>
    let reach := if i + neighbours < slots.size then neighbours + 1 else 1
    let here := (List.range reach).map (i + ·)
    let passed := here.takeWhile fun j => !ok (slots.getD j .free)
    let marked := (passed.reverse.find? fun j => Slot.isMarked (slots.getD j .free)).or marked
    match here[passed.length]? with
    | some place => some { place, marked }
    | none => seek slots ok fuel ((i * 5 + 1 + rest / 32) % slots.size) (rest / 32) marked

/-- The first slot of which a test holds on the way of a hash. Nothing is left of the hash after
thirteen jumps. -/
def seekFor (slots : Array Slot) (h : UInt64) (ok : Slot → Bool) : Option End :=
  seek slots ok (slots.size + 13) (h.toNat % slots.size) h.toNat none

/-- The slot of an equal member, or else the free one at which its way ends. -/
def slotFor (slots : Array Slot) (m : Member) : Option End :=
  seekFor slots m.hash fun s => Slot.holds m s || Slot.isFree s

/-- The slot of an equal member. -/
def find? (t : SetTable) (m : Member) : Option Nat :=
  ((slotFor t.slots m).map (·.place)).filter fun i => Slot.holds m (t.slots.getD i .free)

/-- Whether an equal member is there. -/
def holds (t : SetTable) (m : Member) : Bool := (t.find? m).isSome

/-- The members, in the order of their slots. -/
def members (t : SetTable) : Array Member := t.slots.filterMap Slot.member?

/-! ## Making tables anew -/

/-- The number of slots of a table for more than `n` members. -/
def sizeAbove (n : Nat) : Nat :=
  if n < smallestTable then smallestTable else Nat.pow 2 (Nat.log2 n + 1)

/-- Put a member that is not there into slots without marks. -/
def place (slots : Array Slot) (m : Member) : Array Slot :=
  match seekFor slots m.hash Slot.isFree with
  | some e => slots.setIfInBounds e.place (.taken m)
  | none => slots

/-- A table of a number of free slots into which members are put that differ from each other. -/
def rebuilt (size : Nat) (ms : Array Member) (finger : Nat) : SetTable :=
  { slots := ms.foldl place (Array.replicate size .free)
    filled := ms.size
    used := ms.size
    finger }

/-- The members in a new table, which has more than `n` slots. The smallest table is kept if it has
no marks. -/
def resized (t : SetTable) (n : Nat) : SetTable :=
  let size := sizeAbove n
  if size == smallestTable && t.slots.size == smallestTable && t.filled == t.used then t
  else rebuilt size t.members t.finger

/-- For how many members a new table is made. -/
def wanted (used : Nat) : Nat := if used > 50000 then used * 2 else used * 4

/-- Whether a table is too full when `n` slots more are filled. -/
def crowded (t : SetTable) (n : Nat) : Bool := (t.slots.size - 1) * 3 ≤ (t.filled + n) * 5

/-! ## Putting in and taking out -/

/-- Put a member in, unless an equal one is there: into the last marked slot on its way, or else into
the free one at its end. -/
def add (t : SetTable) (m : Member) : SetTable :=
  match slotFor t.slots m with
  | none => t
  | some e =>
    if Slot.holds m (t.slots.getD e.place .free) then t
    else
      match e.marked with
      | some i => { t with slots := t.slots.setIfInBounds i (.taken m), used := t.used + 1 }
      | none =>
        let t := { t with
          slots := t.slots.setIfInBounds e.place (.taken m)
          filled := t.filled + 1
          used := t.used + 1 }
        if t.crowded 0 then t.resized (wanted t.used) else t

/-- Take out the member that is equal. -/
def discard (t : SetTable) (m : Member) : SetTable :=
  match t.find? m with
  | some i => { t with slots := t.slots.setIfInBounds i .marked, used := t.used - 1 }
  | none => t

/-- Take out any member: the first one from the finger on, or else the first one. -/
def pop? (t : SetTable) : Option (Member × SetTable) :=
  let start := t.finger % t.slots.size
  let places := (List.range t.slots.size).map fun j => (start + j) % t.slots.size
  places.findSome? fun i =>
    (t.slots.getD i .free).member?.map fun m =>
      (m, { t with slots := t.slots.setIfInBounds i .marked, used := t.used - 1, finger := i + 1 })

/-- Without members, in the smallest table. -/
def cleared (t : SetTable) : SetTable := { finger := t.finger }

/-- With the members of another table, in that table. -/
def replaced (t new : SetTable) : SetTable := { new with finger := t.finger }

/-! ## Several members at once -/

/-- Make room for `n` members more. -/
def prepared (t : SetTable) (n : Nat) : SetTable :=
  if t.crowded n then t.resized ((t.used + n) * 2) else t

/-- Put in members of which the number is known beforehand. -/
def addAll (t : SetTable) (ms : Array Member) : SetTable := ms.foldl add (t.prepared ms.size)

/-- Put in the members of another table. -/
def merge (t o : SetTable) : SetTable :=
  if o.used == 0 then t
  else
    let t := t.prepared o.used
    if t.filled != 0 then o.members.foldl add t
    -- An empty table takes over the slots of another as they are, unless that has marks.
    else if t.slots.size == o.slots.size && o.filled == o.used then
      { o with finger := t.finger }
    else rebuilt t.slots.size o.members t.finger

/-- A table of its own with the same members. -/
def copied (t : SetTable) : SetTable := ({} : SetTable).merge t

/-- A table with members that are put in one after the other. -/
def ofMembers (ms : Array Member) : SetTable := ms.foldl add {}

/-- The members that both tables have. They are looked for one by one in the larger table. -/
def common (t o : SetTable) : SetTable :=
  let (few, many) := if o.used > t.used then (t, o) else (o, t)
  ofMembers (few.members.filter many.holds)

/-- Get rid of the marks when they take up more than a fourth of the slots. -/
def swept (t : SetTable) : SetTable :=
  if t.filled - t.used ≤ (t.slots.size - 1) / 4 then t else t.resized (wanted t.used)

/-- Take out the members of another table. -/
def subtract (t o : SetTable) : SetTable := (o.members.foldl discard t).swept

/-- The members that another table does not have, in a table of their own. When the other is small,
its members are taken out of a copy. -/
def difference (t o : SetTable) : SetTable :=
  if t.used / 4 > o.used then t.copied.subtract o
  else ofMembers (t.members.filter (!o.holds ·))

/-- Take a member out if it is there, and put it in if it is not. -/
def toggle (t : SetTable) (m : Member) : SetTable := if t.holds m then t.discard m else t.add m

/-! ## Running through -/

/-- The first member among `n` slots from one on, and its slot. -/
def firstAmong (slots : Array Slot) : Nat → Nat → Option (Nat × Member)
  | 0, _ => none
  | n + 1, i =>
    match (slots.getD i .free).member? with
    | some m => some (i, m)
    | none => firstAmong slots n (i + 1)

/-- The first member from a slot on, and its slot. -/
def firstFrom (t : SetTable) (i : Nat) : Option (Nat × Member) :=
  firstAmong t.slots (t.slots.size - i) i

end SetTable

end Stencil.Expr
