import Stencil.Expr.Value
/-!
# Stencil.Expr.DictTable -- the table of a dictionary

A dictionary keeps its entries in the order in which they were put in. Writing under an equal key
keeps the key and its place and changes the value only. An entry that is taken out leaves its place
empty. When no place is left the entries move together in a new table, which is the larger the more
there are; so an entry can come to stand before a place that has been passed already.
-/

namespace Stencil.Expr

/-- An entry of a dictionary. The key is kept as it was first written. -/
structure Entry where
  key : Key
  shown : Value
  value : Value
  deriving Inhabited

/-- Whether a key is a text. -/
def Key.isText : Key → Bool
  | .str _ => true
  | _ => false

/-- The table of a dictionary. -/
structure DictTable where
  places : Array (Option Entry) := #[]
  /-- How many entries there are. -/
  used : Nat := 0
  /-- How many places can still be filled before the table is made anew. -/
  room : Nat := 0
  /-- The size for which the table has been made: a power of two, or one before anything is put
  in. -/
  size : Nat := 1
  /-- Whether the table has been made for texts as keys. -/
  textual : Bool := true
  deriving Inhabited

namespace DictTable

/-- How many places a table of a size has. -/
def placesOf (size : Nat) : Nat := size * 2 / 3

/-- The size of a table that is asked to be of `n` at least. -/
def sizeFor (n : Nat) : Nat := Nat.pow 2 (Nat.log2 (((n ||| 8) - 1) ||| 7) + 1)

/-- The size of a table that is to take `n` entries. -/
def sizeTaking (n : Nat) : Nat := sizeFor ((n * 3 + 1) / 2)

/-- The entries in their order. -/
def entries (t : DictTable) : Array Entry := t.places.filterMap id

/-- The place of the entry under a key. -/
def find? (t : DictTable) (k : Key) : Option Nat :=
  t.places.findIdx? fun p => p.any (·.key == k)

/-- The entry under a key. -/
def entryFor? (t : DictTable) (k : Key) : Option Entry := do (← t.places[← t.find? k]?)

/-- The entries in a new table of a size, which is one for texts only if the old one was. -/
def resized (t : DictTable) (size : Nat) (textual : Bool) : DictTable :=
  { places := t.entries.map some
    used := t.used
    room := placesOf size - t.used
    size
    textual := t.textual && textual }

/-- Write an entry. A table for texts is made anew for another key. -/
def put (t : DictTable) (e : Entry) : DictTable :=
  let t := if t.textual && !e.key.isText then t.resized (sizeFor (t.used * 3)) false else t
  match t.find? e.key with
  | some i => { t with places := t.places.modify i (·.map fun old => { old with value := e.value }) }
  | none =>
    let t := if t.room == 0 then t.resized (sizeFor (t.used * 3)) true else t
    { t with places := t.places.push (some e), used := t.used + 1, room := t.room - 1 }

/-- Take out the entry under a key. -/
def drop (t : DictTable) (k : Key) : DictTable :=
  match t.find? k with
  | some i => { t with places := t.places.setIfInBounds i none, used := t.used - 1 }
  | none => t

/-- The last entry below a place, and where it stands. -/
def lastBelow (t : DictTable) : Nat → Option (Nat × Entry)
  | 0 => none
  | i + 1 =>
    match (t.places.getD i none) with
    | some e => some (i, e)
    | none => lastBelow t i

/-- Take out the last entry, with the empty places behind it. -/
def pop? (t : DictTable) : Option (Entry × DictTable) :=
  (t.lastBelow t.places.size).map fun (i, e) =>
    (e, { t with places := t.places.take i, used := t.used - 1 })

/-- A table with entries that are written one after the other. -/
def ofEntries (es : Array Entry) : DictTable := es.foldl put {}

/-- Write the entries of another table. An empty dictionary takes over a table that is neither too
large nor has empty places. -/
def merge (t o : DictTable) : DictTable :=
  if o.used == 0 then t
  else if t.used == 0 && o.used == o.places.size &&
      (o.size == 8 || placesOf (o.size / 2) < o.used) then o
  else
    let t := if placesOf t.size < o.used then t.resized (sizeTaking (t.used + o.used)) o.textual
      else t
    o.entries.foldl put t

/-- A table of its own with the same entries, and with the same empty places unless they are many. -/
def copied (t : DictTable) : DictTable :=
  if t.used == 0 then {}
  else if t.places.size * 2 / 3 ≤ t.used then t
  else ({} : DictTable).merge t

/-! ## Running through -/

/-- The first entry among `n` places from one on, and its place. -/
def firstAmong (places : Array (Option Entry)) : Nat → Nat → Option (Nat × Entry)
  | 0, _ => none
  | n + 1, i =>
    match places.getD i none with
    | some e => some (i, e)
    | none => firstAmong places n (i + 1)

/-- The first entry from a place on, and its place. -/
def firstFrom (t : DictTable) (i : Nat) : Option (Nat × Entry) :=
  firstAmong t.places (t.places.size - i) i

end DictTable

end Stencil.Expr
