import Stencil.Expr.Argument
import Stencil.Expr.Sort
/-!
# Stencil.Expr.Method.Collection -- methods of collections

The methods of lists, tuples, ranges, dictionaries, sets and views. Those that change a collection
change it in place, for every name under which it is known.
-/

namespace Stencil.Expr

/-- The names of the methods of lists. -/
def listMethods : List String :=
  ["append", "clear", "copy", "count", "extend", "index", "insert", "pop", "remove", "reverse",
   "sort"]

/-- The names of the methods of dictionaries. -/
def dictMethods : List String :=
  ["clear", "copy", "fromkeys", "get", "items", "keys", "pop", "popitem", "setdefault", "update",
   "values"]

/-- The names of the methods of sets. -/
def setMethods : List String :=
  ["add", "clear", "copy", "difference", "difference_update", "discard", "intersection",
   "intersection_update", "isdisjoint", "issubset", "issuperset", "pop", "remove",
   "symmetric_difference", "symmetric_difference_update", "union", "update"]

/-! ## Sequences -/

/-- How often a value stands among others. -/
def countOf (v : Value) : List Value → Act Nat
  | [] => return 0
  | x :: xs => do
    let here := if same v x then true else false
    let here ← if here then pure true else equal x v
    let n ← countOf v xs
    return if here then n + 1 else n

/-- The first position at which a value stands, counted from `i`. -/
def indexOf (v : Value) (i : Nat) : List Value → Act (Option Nat)
  | [] => return none
  | x :: xs => do
    if same v x then return some i
    if ← equal x v then return some i
    indexOf v (i + 1) xs

/-- A bound of a search in a list. -/
def searchBound (size : Nat) (v : Option Value) (usual : Int) : Act Int := do
  match v with
  | none => return usual
  | some v =>
    match v.int? with
    | some i => return if i < 0 then max 0 (i + size) else i
    | none => typeError "slice indices must be integers or have an __index__ method"

/-- The position of a value between bounds, or a fault. -/
def indexWithin (owner : String) (items : List Value) (a : Args) (missing : Value → Act Value) :
    Act Value := do
  let vs ← a.between owner "index" 1 3
  let v := vs.headD .none
  let lo ← searchBound items.length vs[1]? 0
  let hi ← searchBound items.length vs[2]? items.length
  match ← indexOf v lo.toNat ((items.drop lo.toNat).take (hi - lo).toNat) with
  | some i => return .int i
  | none => missing v

/-! ## Lists -/

/-- Sort a list in place; `rankOf` gives what a value is ordered by. -/
def sortList (r : Ref) (backwards : Bool) (rankOf : Value → Act Value) : Act Unit := do
  let items ← listItems r
  let ranked ← items.mapM fun v => return (⟨← rankOf v, v⟩ : Ranked)
  let sorted ← sortValues ranked backwards
  modifyList r fun _ => sorted

/-- The arguments of a sort: the callable to order by, and whether to sort backwards. -/
def sortArgs (a : Args) : Act (Option Value × Bool) := do
  match ← a.slots "sort" ["key", "reverse"] 0 0 with
  | [key, back] =>
    let back ← match back with
      | none => pure false
      | some v => do pure ((← indexArg v) != 0)
    let key := match key with
      | some .none => none
      | k => k
    return (key, back)
  | _ => return (none, false)

/-- Call a method of a list; `apply` calls the callable that a sort orders by. -/
def callList (apply : Value → Value → Act Value) (r : Ref) (name : String) (a : Args) :
    Act Value := do
  let qualified := "list." ++ name
  match name with
  | "append" => do
    let v ← a.one qualified
    modifyList r (·.push v)
    return .none
  | "clear" => a.nothing qualified; modifyList r (fun _ => #[]); return .none
  | "copy" => a.nothing qualified; newList (← listItems r)
  | "reverse" => a.nothing qualified; modifyList r (·.reverse); return .none
  | "count" => do
    let v ← a.one qualified
    return .int (← countOf v (← listItems r).toList)
  | "extend" => do
    withEach (← a.one qualified) fun _ v => modifyList r (·.push v)
    return .none
  | "index" => do
    indexWithin "list." (← listItems r).toList a fun v => do
      valueError ((← quotedValue v) ++ " is not in list")
  | "insert" => do
    match ← a.between "list." name 2 2 with
    | [i, v] => do
      let i ← sizeArg i
      let n := (← listItems r).size
      let i := if i < 0 then max 0 (i + n) else min i n
      modifyList r (·.insertIdxIfInBounds i.toNat v)
      return .none
    | _ => return .none
  | "pop" => do
    let vs ← a.between "list." name 0 1
    let i ← match vs with
      | v :: _ => sizeArg v
      | [] => pure (-1)
    let items ← listItems r
    if items.isEmpty then fault .badIndex "pop from empty list"
    match position? items.size i with
    | some j =>
      modifyList r (·.eraseIdxIfInBounds j)
      return items.getD j .none
    | none => fault .badIndex "pop index out of range"
  | "remove" => do
    let v ← a.one qualified
    match ← indexOf v 0 (← listItems r).toList with
    | some i => modifyList r (·.eraseIdxIfInBounds i); return .none
    | none => valueError "list.remove(x): x not in list"
  | "sort" => do
    let (key, back) ← sortArgs a
    match key with
    | none => sortList r back pure
    | some k => sortList r back (apply k)
    return .none
  | _ => fault .missingAttribute ("'list' object has no attribute '" ++ name ++ "'")

/-- Call a method of a tuple. -/
def callTuple (items : List Value) (name : String) (a : Args) : Act Value := do
  match name with
  | "count" => do return .int (← countOf (← a.one "tuple.count") items)
  | "index" => indexWithin "tuple." items a fun _ => valueError "tuple.index(x): x not in tuple"
  | _ => fault .missingAttribute ("'tuple' object has no attribute '" ++ name ++ "'")

/-- Call a method of a range. -/
def callRange (start stop step : Int) (name : String) (a : Args) : Act Value := do
  let whole : Value := .range start stop step
  match name with
  | "count" => do
    let v ← a.one "range.count"
    match v.int? with
    | some i => return .int (if inRange i start stop step then 1 else 0)
    | none => return .int (← countOf v (← collect whole).toList)
  | "index" => do
    let v ← a.one "range.index"
    match v.int? with
    | some i =>
      if inRange i start stop step then return .int ((i - start) / step)
      else valueError ((← quotedValue v) ++ " is not in range")
    | none =>
      match ← indexOf v 0 (← collect whole).toList with
      | some i => return .int i
      | none => valueError "sequence.index(x): x not in sequence"
  | _ => fault .missingAttribute ("'range' object has no attribute '" ++ name ++ "'")

/-! ## Dictionaries -/

/-- The key and the value that an element stands for which has a number. -/
def pairOf (i : Nat) (item : Value) : Act (Value × Value) := do
  let pair ← match ← iter? item with
    | some _ => collect item
    | none =>
      typeError ("cannot convert dictionary update sequence element #" ++ toString i ++
        " to a sequence")
  match pair.toList with
  | [k, v] => return (k, v)
  | vs =>
    valueError ("dictionary update sequence element #" ++ toString i ++ " has length " ++
      toString vs.length ++ "; 2 is required")

/-- Write the entries that an argument by position describes into a dictionary: pairs or another
dictionary. -/
def updateDict (name : String) (r : Ref) (a : Args) : Act Unit := do
  if a.positional.length > 1 then
    typeError (name ++ " expected at most 1 argument, got " ++ toString a.positional.length)
  match a.positional with
  | [.dict s] => do
    let t ← dictTable s
    if s != r then modifyDict r (·.merge t)
  | [v] =>
    withEach v fun i item => do
      let (k, x) ← pairOf i item
      dictPut r k x
  | _ => pure ()

/-- The entries of arguments by name. -/
def Args.entries (a : Args) : Array Entry := (a.named.map fun (k, x) => ⟨.str k, .str k, x⟩).toArray

/-- The table of a dictionary that is to take a key for each value of a collection. Of sets and
dictionaries the size is known beforehand. -/
def roomFor (v : Value) : Act DictTable := do
  let empty : DictTable := {}
  match v with
  | .dict r => do
    let t ← dictTable r
    return empty.resized (DictTable.sizeTaking t.used) t.textual
  | .set r => return empty.resized (DictTable.sizeTaking (← setTable r).used) false
  | _ => return empty

/-- Call a method of a dictionary. -/
def callDict (r : Ref) (name : String) (a : Args) : Act Value := do
  let qualified := "dict." ++ name
  match name with
  | "clear" => a.nothing qualified; modifyDict r (fun _ => {}); return .none
  | "copy" => a.nothing qualified; newDict (← dictTable r).copied
  | "items" => a.nothing qualified; return .view .items r
  | "keys" => a.nothing qualified; return .view .keys r
  | "values" => a.nothing qualified; return .view .values r
  | "get" => do
    let vs ← a.between "dict." name 1 2
    match ← dictGet? r (vs.headD .none) with
    | some v => return v
    | none => return (vs[1]?).getD .none
  | "pop" => do
    let vs ← a.between "dict." name 1 2
    let k := vs.headD .none
    -- An empty dictionary does not look at the key.
    let found ← if (← dictTable r).used == 0 then pure none else dictGet? r k
    match found with
    | some v =>
      let key ← keyFor k
      modifyDict r (·.drop key)
      return v
    | none =>
      match (vs[1]? : Option Value) with
      | some v => return v
      | none => keyMissing k
  | "popitem" => do
    a.nothing qualified
    match (← dictTable r).pop? with
    | some (e, rest) =>
      modifyDict r fun _ => rest
      return .tuple [e.shown, e.value]
    | none => fault .missingKey "'popitem(): dictionary is empty'"
  | "setdefault" => do
    let vs ← a.between "dict." name 1 2
    let k := vs.headD .none
    match ← dictGet? r k with
    | some v => return v
    | none =>
      let v := (vs[1]?).getD .none
      dictPut r k v
      return v
  | "update" => do
    updateDict "update" r a
    modifyDict r (·.merge (.merge {} (.ofEntries a.entries)))
    return .none
  | "fromkeys" => do
    let vs ← a.between "dict." name 1 2
    let v := (vs[1]?).getD .none
    let made ← alloc (.dict (← roomFor (vs.headD .none)))
    withEach (vs.headD .none) fun _ k => dictPut made k v
    return .dict made
  | _ => fault .missingAttribute ("'dict' object has no attribute '" ++ name ++ "'")

/-- Whether a view and a value have nothing in common. The smaller one is run through, if the value
is a set or a view. -/
def viewDisjoint (view v : Value) : Act Bool := do
  let apart (few many : Value) : Act Bool := everyValue few fun x => return !(← holds many x)
  let sized := v.isSetView || v matches .set _
  if sized && (← sizeOf v) > (← sizeOf view) then apart view v else apart v view

/-- Call a method of a view. -/
def callView (v : Value) (name : String) (a : Args) : Act Value := do
  match name with
  | "isdisjoint" => return .bool (← viewDisjoint v (← a.one (v.typeName ++ ".isdisjoint")))
  | _ =>
    fault .missingAttribute ("'" ++ v.typeName ++ "' object has no attribute '" ++ name ++ "'")

/-! ## Sets -/

/-- Whether a set and a value have nothing in common. -/
def disjoint (r : Ref) (v : Value) : Act Bool := do
  let own ← setTable r
  match v with
  | .set s => return !(← setTable s).members.any own.holds
  | _ => everyValue v fun x => return !own.holds (← memberFor x)

/-- Whether a value holds all members of a set. -/
def inside (r : Ref) (v : Value) : Act Bool := do
  let own ← setTable r
  match v with
  | .set s => return own.members.all (← setTable s).holds
  | _ => return (← setTable (← commonSet r v)).used == own.used

/-- Whether a set holds everything that a value holds. -/
def covers (r : Ref) (v : Value) : Act Bool := do
  let own ← setTable r
  match v with
  | .set s => return (← setTable s).members.all own.holds
  | _ => everyValue v fun x => return own.holds (← memberFor x)

/-- A new set with what a set and all of several values hold. -/
def commonSets (r : Ref) : List Value → Act Ref
  | [] => setOf (.set r)
  | [v] => commonSet r v
  | v :: vs => do commonSets (← commonSet r v) vs

/-- A new set with what a set holds and none of several values does. -/
def differenceSets (r : Ref) : List Value → Act Ref
  | [] => setOf (.set r)
  | v :: vs => do
    let made ← differenceSet r v
    vs.forM (drainSet made)
    return made

/-- Call a method of a set. -/
def callSet (r : Ref) (name : String) (a : Args) : Act Value := do
  let qualified := "set." ++ name
  match name with
  | "add" => do
    let m ← memberFor (← a.one qualified)
    modifySet r (·.add m)
    return .none
  | "clear" => a.nothing qualified; modifySet r (·.cleared); return .none
  | "copy" => a.nothing qualified; return .set (← setOf (.set r))
  | "discard" => do
    let sought ← soughtMember (← a.one qualified)
    modifySet r fun own => sought.elim own own.discard
    return .none
  | "remove" => do
    let v ← a.one qualified
    match (← soughtMember v).filter (← setTable r).holds with
    | some m => modifySet r (·.discard m); return .none
    | none => keyMissing v
  | "pop" => do
    a.nothing qualified
    match (← setTable r).pop? with
    | some (m, rest) => modifySet r (fun _ => rest); return m.shown
    | none => fault .missingKey "'pop from an empty set'"
  | "union" => do
    a.onlyPositional qualified
    let made ← setOf (.set r)
    -- A set that is given its own members is not made larger for them.
    a.positional.forM fun v => if same v (.set r) then pure () else fillSet made v
    return .set made
  | "intersection" => do
    a.onlyPositional qualified
    return .set (← commonSets r a.positional)
  | "difference" => do
    a.onlyPositional qualified
    return .set (← differenceSets r a.positional)
  | "symmetric_difference" => do
    let made ← setOf (← a.one qualified)
    toggleSet made (.set r)
    return .set made
  | "update" => do
    a.onlyPositional qualified
    a.positional.forM (fillSet r)
    return .none
  | "intersection_update" => do
    a.onlyPositional qualified
    let t ← setTable (← commonSets r a.positional)
    modifySet r (·.replaced t)
    return .none
  | "difference_update" => do
    a.onlyPositional qualified
    a.positional.forM (drainSet r)
    return .none
  | "symmetric_difference_update" => do
    toggleSet r (← a.one qualified)
    return .none
  | "isdisjoint" => return .bool (← disjoint r (← a.one qualified))
  | "issubset" => return .bool (← inside r (← a.one qualified))
  | "issuperset" => return .bool (← covers r (← a.one qualified))
  | _ => fault .missingAttribute ("'set' object has no attribute '" ++ name ++ "'")

end Stencil.Expr
