import Stencil.Expr.Format
import Stencil.Expr.Method.Bytes
import Stencil.Expr.Method.Collection
import Stencil.Expr.Method.Number
import Stencil.Number.Reading
/-!
# Stencil.Expr.Call -- attributes, functions and types

What can be called: the functions that expressions know by name, the types, which make values, and
the methods of values. Only sorting and the search for extremes call back, and what they call is
given one value and nothing to call back with, so a call never goes more than two levels deep.
-/

namespace Stencil.Expr

open Stencil.Number

/-! ## Attributes -/

/-- The names of the methods of a type. -/
def TypeTag.methods : TypeTag → List String
  | .str => textMethods
  | .bytes => bytesMethods
  | .list => listMethods
  | .tuple => ["count", "index"]
  | .range => ["count", "index"]
  | .dict => dictMethods
  | .set => setMethods
  | .int | .bool => intMethods
  | .float => floatMethods
  | .complex => ["conjugate"]
  | .dictKeys | .dictItems => ["isdisjoint"]
  | _ => []

/-- The methods that belong to the type itself and need no value of it. -/
def typeMethods : List (TypeTag × String) :=
  [(.dict, "fromkeys"), (.int, "from_bytes"), (.bool, "from_bytes"), (.bytes, "fromhex"),
   (.float, "fromhex"), (.str, "maketrans"), (.bytes, "maketrans")]

/-- The attribute of a value. -/
def attribute? (v : Value) (name : String) : Option Value :=
  match numberAttribute? v name with
  | some w => some w
  | none =>
    match v, name with
    | .type t, _ =>
      if typeMethods.contains (t, name) then some (.bound v name)
      else if t.methods.contains name then some (.unbound t name)
      else none
    | .range start _ _, "start" => some (.int start)
    | .range _ stop _, "stop" => some (.int stop)
    | .range _ _ step, "step" => some (.int step)
    | .slice lower _ _, "start" => some lower
    | .slice _ upper _, "stop" => some upper
    | .slice _ _ step, "step" => some step
    | _, _ => if v.tag.methods.contains name then some (.bound v name) else none

/-! ## Making values -/

/-- The fault of a text that is no number in a base. -/
def notInteger {α : Type} (base : Int) (shown : String) : Act α :=
  valueError ("invalid literal for int() with base " ++ toString base ++ ": " ++
    String.ofList (shown.toList.take 200))

/-- The integer a text stands for. -/
def integerFromText (base : Int) (s : List Char) (shown : String) : Act Value := do
  match ← ofExcept (readInteger base.toNat s) with
  | some i => return .int i
  | none => notInteger base shown

/-- The integer of a double. -/
def integerFromDouble (x : Float) : Act Value := do
  match truncate? x with
  | some i => return .int i
  | none =>
    if x == x then fault .overflow "cannot convert float infinity to integer"
    else valueError "cannot convert float NaN to integer"

/-- Make an integer. -/
def makeInt (a : Args) : Act Value := do
  let total := a.positional.length + a.named.length
  if a.named.isEmpty && total > 2 then
    typeError ("int expected at most 2 arguments, got " ++ toString total)
  for (name, _) in a.named do
    if name != "base" then
      typeError ("'" ++ name ++ "' is an invalid keyword argument for int()")
  let base := match a.positional with
    | _ :: b :: _ => some b
    | _ => (a.named.find? (·.1 == "base")).map (·.2)
  match a.positional.head?, base with
  | none, none => return .int 0
  | none, some _ => typeError "int() missing string argument"
  | some v, none =>
    match v with
    | .int i => return .int i
    | .bool b => return .int (if b then 1 else 0)
    | .float x => integerFromDouble x
    | .str s => integerFromText 10 s.toList (quotedText s)
    | .bytes b => integerFromText 10 (byteChars b) (String.ofList (Text.quotedBytes b))
    | _ =>
      typeError ("int() argument must be a string, a bytes-like object or a real number, not '" ++
        v.typeName ++ "'")
  | some v, some b => do
    let base ← sizeArg b
    if base != 0 && (base < 2 || base > 36) then
      valueError "int() base must be >= 2 and <= 36, or 0"
    match v with
    | .str s => integerFromText base s.toList (quotedText s)
    | .bytes b => integerFromText base (byteChars b) (String.ofList (Text.quotedBytes b))
    | _ => typeError "int() can't convert non-string with explicit base"

/-- The double a text stands for. -/
def doubleFromText (s : List Char) (shown : String) : Act Value := do
  match readDouble s with
  | some x => return .float x
  | none => valueError ("could not convert string to float: " ++ shown)

/-- Make a double. -/
def makeFloat (a : Args) : Act Value := do
  match ← a.between "" "float" 0 1 with
  | [] => return .float 0
  | v :: _ =>
    match v with
    | .float x => return .float x
    | .int i => return .float (← toDouble i)
    | .bool b => return .float (if b then 1 else 0)
    | .str s => doubleFromText s.toList (quotedText s)
    | .bytes b => doubleFromText (byteChars b) (String.ofList (Text.quotedBytes b))
    | _ =>
      typeError ("float() argument must be a string or a real number, not '" ++ v.typeName ++ "'")

/-- Make a text. -/
def makeStr (a : Args) : Act Value := do
  match ← a.slots "str" ["object", "encoding", "errors"] 3 0 with
  | [v, e, f] => do
    let encoding ← codecArg "str" "encoding" e "utf-8"
    let errors ← codecArg "str" "errors" f "strict"
    match v, e, f with
    | none, _, _ => return .str ""
    | some v, none, none => return .str (← plainText v)
    | some (.bytes b), _, _ => decodeBytes b encoding errors
    | some (.str _), _, _ => typeError "decoding str is not supported"
    | some v, _, _ =>
      typeError ("decoding to str: need a bytes-like object, " ++ v.typeName ++ " found")
  | _ => return .none

/-- Make a range. -/
def makeRange (a : Args) : Act Value := do
  match ← a.between "" "range" 1 3 with
  | [stop] => return .range 0 (← indexArg stop) 1
  | [start, stop] => return .range (← indexArg start) (← indexArg stop) 1
  | [start, stop, step] => do
    let start ← indexArg start
    let stop ← indexArg stop
    let step ← indexArg step
    if step == 0 then valueError "range() arg 3 must not be zero"
    return .range start stop step
  | _ => return .none

/-- Make an iterator that numbers values. -/
def makeEnumerate (a : Args) : Act Value := do
  if a.positional.isEmpty && a.named.isEmpty then
    typeError "enumerate() missing required argument 'iterable'"
  match ← a.slots "enumerate" ["iterable", "start"] 2 1 with
  | [some v, start] =>
    let n ← match start with
      | some w => indexArg w
      | none => pure 0
    newIter .enumerate (.numbered (← iterRef v) n)
  | _ => return .none

/-- Make an iterator over tuples. -/
def makeZip (a : Args) : Act Value := do
  for (name, _) in a.named do
    if name != "strict" then
      typeError ("'" ++ name ++ "' is an invalid keyword argument for zip()")
  newIter .zip (.zipped (← a.positional.mapM iterRef))

/-- Make a value of a type. -/
def make (t : TypeTag) (a : Args) : Act Value := do
  match t with
  | .int => makeInt a
  | .float => makeFloat a
  | .str => makeStr a
  | .bool => do
    match ← a.between "" "bool" 0 1 with
    | v :: _ => return .bool (← truthy v)
    | [] => return .bool false
  | .list => do
    match ← a.between "" "list" 0 1 with
    | v :: _ => newList (← collect v)
    | [] => newList #[]
  | .tuple => do
    match ← a.between "" "tuple" 0 1 with
    | v :: _ => return .tuple (← collect v).toList
    | [] => return .tuple []
  | .dict => do
    let r ← alloc (.dict {})
    updateDict "dict" r a
    modifyDict r fun t => a.entries.foldl .put t
    return .dict r
  | .set => do
    match ← a.between "" "set" 0 1 with
    | v :: _ => return .set (← setOf v)
    | [] => newSet {}
  | .range => makeRange a
  | .enumerate => makeEnumerate a
  | .zip => makeZip a
  | .reversed => do
    match ← a.between "" "reversed" 1 1 with
    | v :: _ => iterBack v
    | [] => return .none
  | _ => typeError ("cannot create '" ++ t.name ++ "' instances")

/-! ## Functions on texts -/

/-- "'a'", "'a' and 'b'", "'a', 'b', and 'c'". -/
def listNames : List String → String
  | [] => ""
  | [a] => "'" ++ a ++ "'"
  | [a, b] => "'" ++ a ++ "' and '" ++ b ++ "'"
  | names =>
    joinTexts ", " (names.dropLast.map fun n => "'" ++ n ++ "'") ++ ", and '" ++
      names.getLastD "" ++ "'"

/-- Match arguments to parameters, the first `needed` of which have no default. -/
def Args.parameters (a : Args) (callable : String) (names : List String) (needed : Nat) :
    Act (List (Option Value)) := do
  for (name, _) in a.named do
    match names.findIdx? (· == name) with
    | none => typeError (callable ++ "() got an unexpected keyword argument '" ++ name ++ "'")
    | some i =>
      if i < a.positional.length then
        typeError (callable ++ "() got multiple values for argument '" ++ name ++ "'")
  let n := a.positional.length
  if n > names.length then
    let range := if needed == names.length then toString needed
      else "from " ++ toString needed ++ " to " ++ toString names.length
    typeError (callable ++ "() takes " ++ range ++ " positional arguments but " ++ toString n ++
      (if n == 1 then " was given" else " were given"))
  let values := names.zipIdx.map fun (name, i) =>
    match a.positional[i]? with
    | some v => some v
    | none => (a.named.find? (·.1 == name)).map (·.2)
  let missing := ((names.zip values).take needed).filterMap fun (name, v) =>
    if v.isNone then some name else none
  if !missing.isEmpty then
    typeError (callable ++ "() missing " ++ toString missing.length ++ " required positional " ++
      (if missing.length == 1 then "argument: " else "arguments: ") ++ listNames missing)
  return values

/-- Call a bound method, sorts apart. -/
def callMethod (apply : Value → Value → Act Value) (self : Value) (name : String) (a : Args) :
    Act Value := do
  match self with
  | .str s => callText s.toList name a
  | .bytes b => callBytes b name a
  | .list r => callList apply r name a
  | .tuple items => callTuple items name a
  | .range start stop step => callRange start stop step name a
  | .dict r => callDict r name a
  | .set r => callSet r name a
  | .view .. => callView self name a
  | .int i => callInt i name a
  | .bool b => callInt (if b then 1 else 0) name a
  | .float x => callFloat x name a
  | .complex re im => a.nothing "complex.conjugate"; return .complex re (-im)
  | .type .str => callText [] name a
  | .type .dict => callDict 0 name a
  | .type .int | .type .bool => callInt 0 name a
  | .type .float => callFloat 0 name a
  | .type .bytes => callBytes [] name a
  | _ => typeError ("'" ++ self.typeName ++ "' object is not callable")

/-- The attribute of a value that a function asks for. -/
def attributeOf (v : Value) (name : String) : Act Value := do
  match attribute? v name with
  | some w => return w
  | none =>
    fault .missingAttribute ("'" ++ v.typeName ++ "' object has no attribute '" ++ name ++ "'")

/-- Put a value into a template, unless its text is empty. -/
def wrap (apply : Value → Value → Act Value) (a : Args) : Act Value := do
  match ← a.parameters "wrap" ["value", "template", "marker"] 2 with
  | [some v, some template, marker] =>
    let text ← asText v
    if text.isEmpty then return .str ""
    match ← attributeOf template "replace" with
    | .bound self name =>
      callMethod apply self name ⟨[marker.getD (.str "\x7b\x7d"), .str text], []⟩
    | w => typeError ("'" ++ w.typeName ++ "' object is not callable")
  | _ => return .none

/-- The text of the second value, unless that of the first is empty. -/
def emptyOr (a : Args) : Act Value := do
  match ← a.parameters "empty_or" ["value", "replacement"] 2 with
  | [some v, some r] =>
    let text ← asText v
    if text.isEmpty then return .str "" else return .str (← asText r)
  | _ => return .none

/-- The text of a value without any occurrence of a piece. -/
def remove (a : Args) : Act Value := do
  match ← a.parameters "rm" ["value", "text"] 2 with
  | [some v, some piece] =>
    let text ← asText v
    callText text.toList "replace" ⟨[piece, .str ""], []⟩
  | _ => return .none

/-! ## Calling -/

/-- The greatest or least of values. -/
def extreme (apply : Value → Value → Act Value) (name : String) (op : Comparison) (a : Args) :
    Act Value := do
  if a.positional.isEmpty then
    typeError (name ++ " expected at least 1 argument, got 0")
  for (n, _) in a.named do
    if n != "key" && n != "default" then
      typeError ("'" ++ n ++ "' is an invalid keyword argument for " ++ name ++ "()")
  let usual := (a.named.find? (·.1 == "default")).map (·.2)
  let key := match (a.named.find? (·.1 == "key")).map (·.2) with
    | some .none => none
    | k => k
  let items ← match a.positional with
    | [v] => do pure (← collect v).toList
    | vs =>
      if usual.isSome then
        typeError ("Cannot specify a default for " ++ name ++
          "() with multiple positional arguments")
      pure vs
  let ranked ← items.mapM fun v => do
    match key with
    | some k => return (⟨← apply k v, v⟩ : Ranked)
    | none => return ⟨v, v⟩
  match ranked, usual with
  | x :: xs, _ => extremeFrom op x xs
  | [], some v => return v
  | [], none => valueError (name ++ "() arg is an empty sequence")

/-- Call a function; `apply` calls what the call calls back. -/
def callFunction (apply : Value → Value → Act Value) (f : Function) (a : Args) : Act Value := do
  match f with
  | .len => do return .int (← sizeOf (← a.one "len"))
  | .abs => do magnitude (← a.one "abs")
  | .sorted => do
    match a.positional with
    | [v] =>
      let xs ← collect v
      let (key, back) ← sortArgs ⟨[], a.named⟩
      let ranked ← xs.mapM fun v => do
        match key with
        | some k => return (⟨← apply k v, v⟩ : Ranked)
        | none => return ⟨v, v⟩
      newList (← sortValues ranked back)
    | vs => typeError ("sorted expected 1 argument, got " ++ toString vs.length)
  | .min => extreme apply "min" .lt a
  | .max => extreme apply "max" .gt a
  | .wrap => wrap apply a
  | .emptyOr => emptyOr a
  | .rm => remove a
  | .rand => do
    a.nothing "random"
    return .float 0
  | .randint => return .int 0

/-- Whether a value can be used where a type asks for one of its own. -/
def belongs (t : TypeTag) (v : Value) : Bool := v.tag == t || (t == .int && v.tag == .bool)

/-- Call a value; `apply` calls what the call calls back. -/
def callWith (apply : Value → Value → Act Value) (f : Value) (a : Args) : Act Value := do
  match f with
  | .function g => callFunction apply g a
  | .type .type => do return .type (← a.one "type").tag
  | .type t => make t a
  | .bound self name => callMethod apply self name a
  | .unbound t name =>
    match a.positional with
    | [] => typeError ("unbound method " ++ t.name ++ "." ++ name ++ "() needs an argument")
    | self :: rest =>
      if belongs t self then callMethod apply self name { a with positional := rest }
      else
        typeError ("descriptor '" ++ name ++ "' for '" ++ t.name ++
          "' objects doesn't apply to a '" ++ self.typeName ++ "' object")
  | _ => typeError ("'" ++ f.typeName ++ "' object is not callable")

/-- Call back: a value is called with one argument. -/
def callBack (f v : Value) : Act Value :=
  callWith (fun g _ => typeError ("'" ++ g.typeName ++ "' object is not callable")) f ⟨[v], []⟩

/-- Call a value. -/
def call (f : Value) (a : Args) : Act Value := callWith callBack f a

/-! ## Names -/

/-- The functions and types that expressions know by name. -/
def knownFunctions : List (String × Value) :=
  [("range", .type .range), ("len", .function .len), ("str", .type .str), ("int", .type .int),
   ("float", .type .float), ("bool", .type .bool), ("list", .type .list), ("tuple", .type .tuple),
   ("sorted", .function .sorted), ("reversed", .type .reversed),
   ("enumerate", .type .enumerate), ("zip", .type .zip), ("min", .function .min),
   ("max", .function .max), ("abs", .function .abs), ("wrap", .function .wrap),
   ("empty_or", .function .emptyOr), ("rm", .function .rm), ("dict", .type .dict),
   ("set", .type .set), ("rand", .function .rand), ("randint", .function .randint)]

/-- The function or type known by a name. -/
def knownFunction? (name : String) : Option Value :=
  (knownFunctions.find? (·.1 == name)).map (·.2)

end Stencil.Expr
