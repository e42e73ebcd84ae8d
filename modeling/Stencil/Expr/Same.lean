import Stencil.Expr.Machine
/-!
# Stencil.Expr.Same -- whether cells have been changed

Values and cells are the same when nothing in them differs: numbers to the last bit, and references
by their addresses. What a list or a dictionary holds is told by its own cell.
-/

namespace Stencil.Expr

mutual

/-- Whether two values are the same. -/
def sameValue : Value → Value → Bool
  | .none, .none | .ellipsis, .ellipsis => true
  | .bool a, .bool b => a == b
  | .int a, .int b => a == b
  | .float a, .float b => a.toBits == b.toBits
  | .complex a b, .complex a' b' => a.toBits == a'.toBits && b.toBits == b'.toBits
  | .str a, .str b => a == b
  | .bytes a, .bytes b => a == b
  | .tuple as, .tuple bs => sameValues as bs
  | .range a b c, .range a' b' c' => a == a' && b == b' && c == c'
  | .slice a b c, .slice a' b' c' => sameValue a a' && sameValue b b' && sameValue c c'
  | .type a, .type b => a == b
  | .function a, .function b => a == b
  | .bound a name, .bound b name' => sameValue a b && name == name'
  | .unbound a name, .unbound b name' => a == b && name == name'
  | .list a, .list b | .dict a, .dict b | .set a, .set b => a == b
  | .view kind a, .view kind' b => kind == kind' && a == b
  | .iterator kind a, .iterator kind' b => kind == kind' && a == b
  | _, _ => false

/-- Whether two rows of values are the same. -/
def sameValues : List Value → List Value → Bool
  | [], [] => true
  | a :: as, b :: bs => sameValue a b && sameValues as bs
  | _, _ => false

end

/-- Whether two entries are the same. -/
def sameEntry (a b : Entry) : Bool := sameValue a.shown b.shown && sameValue a.value b.value

/-- Whether two places of dictionaries are the same. -/
def samePlace : Option Entry → Option Entry → Bool
  | none, none => true
  | some a, some b => sameEntry a b
  | _, _ => false

/-- Whether two slots of sets are the same. -/
def sameSlot : Slot → Slot → Bool
  | .free, .free | .marked, .marked => true
  | .taken a, .taken b => sameValue a.shown b.shown
  | _, _ => false

/-- Whether two iterators are in the same state. -/
def sameIter : Iter → Iter → Bool
  | .forward l i, .forward l' i' | .backward l i, .backward l' i' => l == l' && i == i'
  | .fixed vs, .fixed vs' => sameValues vs vs'
  | .run n step left, .run n' step' left' => n == n' && step == step' && left == left'
  | .entries kind d i size left, .entries kind' d' i' size' left' =>
    kind == kind' && d == d' && i == i' && size == size' && left == left'
  | .entriesBack kind d i size, .entriesBack kind' d' i' size' =>
    kind == kind' && d == d' && i == i' && size == size'
  | .members s i size, .members s' i' size' => s == s' && i == i' && size == size'
  | .numbered inner n, .numbered inner' n' => inner == inner' && n == n'
  | .zipped inners, .zipped inners' => inners == inners'
  | .finished, .finished => true
  | _, _ => false

/-- Whether two rows are the same, item for item. -/
def sameRows {α : Type} (same : α → α → Bool) : List α → List α → Bool
  | [], [] => true
  | a :: as, b :: bs => same a b && sameRows same as bs
  | _, _ => false

/-- Whether two tables of dictionaries are the same. -/
def sameDict (t u : DictTable) : Bool :=
  sameRows samePlace t.places.toList u.places.toList && t.used == u.used && t.room == u.room &&
    t.size == u.size && t.textual == u.textual

/-- Whether two tables of sets are the same. -/
def sameSet (t u : SetTable) : Bool :=
  sameRows sameSlot t.slots.toList u.slots.toList && t.filled == u.filled && t.used == u.used &&
    t.finger == u.finger

/-- Whether two cells have the same contents. -/
def sameCell : Cell → Cell → Bool
  | .list items, .list items' => sameValues items.toList items'.toList
  | .dict table, .dict table' => sameDict table table'
  | .set table, .set table' => sameSet table table'
  | .iterator it, .iterator it' => sameIter it it'
  | _, _ => false

/-- Whether the cells that were there before are there after, with the same contents. -/
def sameCells (before after : Array Cell) : Bool :=
  sameRows sameCell before.toList (after.toList.take before.size)

end Stencil.Expr
