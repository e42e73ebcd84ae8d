import Stencil.Failure
/-!
# Stencil.Expr.Value -- values and keys

Values of the expression language. Numbers, texts, tuples and ranges are plain data. Lists,
dictionaries, sets and iterators change in place and may be reached under several names, so a value
only refers to the cell that holds their contents. Values that never change can be keys.
-/

namespace Stencil.Expr

/-- The address of a cell. -/
abbrev Ref := Nat

/-! ## Types -/

/-- The types of values. -/
inductive TypeTag where
  | none | bool | int | float | complex | str | bytes | tuple | list | dict | set
  | range | slice | ellipsis | type | builtin | function | method
  | enumerate | zip | reversed
  | listIterator | listBackIterator | tupleIterator | strIterator | bytesIterator
  | rangeIterator | dictKeys | dictValues | dictItems
  | dictKeyIterator | dictValueIterator | dictItemIterator
  | dictBackKeyIterator | dictBackValueIterator | dictBackItemIterator | setIterator
  deriving DecidableEq, Repr

/-- The name under which a type is shown. -/
def TypeTag.name : TypeTag → String
  | none => "NoneType"
  | bool => "bool"
  | int => "int"
  | float => "float"
  | complex => "complex"
  | str => "str"
  | bytes => "bytes"
  | tuple => "tuple"
  | list => "list"
  | dict => "dict"
  | set => "set"
  | range => "range"
  | slice => "slice"
  | ellipsis => "ellipsis"
  | type => "type"
  | builtin => "builtin_function_or_method"
  | function => "function"
  | method => "method_descriptor"
  | enumerate => "enumerate"
  | zip => "zip"
  | reversed => "reversed"
  | listIterator => "list_iterator"
  | listBackIterator => "list_reverseiterator"
  | tupleIterator => "tuple_iterator"
  | strIterator => "str_ascii_iterator"
  | bytesIterator => "bytes_iterator"
  | rangeIterator => "range_iterator"
  | dictKeys => "dict_keys"
  | dictValues => "dict_values"
  | dictItems => "dict_items"
  | dictKeyIterator => "dict_keyiterator"
  | dictValueIterator => "dict_valueiterator"
  | dictItemIterator => "dict_itemiterator"
  | dictBackKeyIterator => "dict_reversekeyiterator"
  | dictBackValueIterator => "dict_reversevalueiterator"
  | dictBackItemIterator => "dict_reverseitemiterator"
  | setIterator => "set_iterator"

/-- The functions that expressions may call by name, types apart. -/
inductive Function where
  | len | sorted | min | max | abs | wrap | emptyOr | rm | rand | randint
  deriving DecidableEq, Repr

/-- The name of a function. -/
def Function.name : Function → String
  | len => "len"
  | sorted => "sorted"
  | min => "min"
  | max => "max"
  | abs => "abs"
  | wrap => "wrap"
  | emptyOr => "empty_or"
  | rm => "rm"
  | rand => "rand"
  | randint => "randint"

/-- What a view of a dictionary shows of its entries. -/
inductive ViewKind where
  | keys | values | items
  deriving DecidableEq, Repr

/-! ## Values -/

/-- A value. -/
inductive Value where
  | none
  | ellipsis
  | bool (b : Bool)
  | int (i : Int)
  | float (x : Float)
  | complex (re im : Float)
  | str (s : String)
  | bytes (b : List UInt8)
  | tuple (items : List Value)
  | range (start stop step : Int)
  | slice (lower upper step : Value)
  | type (t : TypeTag)
  | function (f : Function)
  /-- A method together with the value it belongs to. -/
  | bound (self : Value) (name : String)
  /-- A method of a type that still needs its value. -/
  | unbound (t : TypeTag) (name : String)
  | list (r : Ref)
  | dict (r : Ref)
  | set (r : Ref)
  | view (kind : ViewKind) (r : Ref)
  | iterator (kind : TypeTag) (r : Ref)
  deriving Inhabited

/-- The type of a value. -/
def Value.tag : Value → TypeTag
  | none => .none
  | ellipsis => .ellipsis
  | bool _ => .bool
  | int _ => .int
  | float _ => .float
  | complex .. => .complex
  | str _ => .str
  | bytes _ => .bytes
  | tuple _ => .tuple
  | range .. => .range
  | slice .. => .slice
  | type _ => .type
  | function .wrap | function .emptyOr | function .rm | function .randint => .function
  | function _ => .builtin
  | bound .. => .builtin
  | unbound .. => .method
  | list _ => .list
  | dict _ => .dict
  | set _ => .set
  | view .keys _ => .dictKeys
  | view .values _ => .dictValues
  | view .items _ => .dictItems
  | iterator kind _ => kind

/-- The name of the type of a value. -/
def Value.typeName (v : Value) : String := v.tag.name

/-! ## Keys -/

/-- A value that never changes, reduced to what equality looks at: whole numbers are equal whatever
their type, ranges are equal when they run through the same numbers, and iterators and methods only
to themselves. Keys find entries of dictionaries and members of sets. -/
inductive Key where
  | none
  | ellipsis
  | whole (i : Int)
  | fraction (bits : UInt64)
  | complex (re im : UInt64)
  | str (s : String)
  | bytes (b : List UInt8)
  | tuple (ks : List Key)
  | emptyRange
  | oneRange (start : Int)
  | longRange (start step : Int) (count : Nat)
  | type (t : TypeTag)
  | function (f : Function)
  | bound (self : Key) (name : String)
  | unbound (t : TypeTag) (name : String)
  | cell (r : Ref)
  deriving Inhabited, BEq

end Stencil.Expr
