import Stencil.Expr.Machine
/-!
# Stencil.Expr.Bindings -- names and their values

Names are bound in layers. A name means what the innermost layer that binds it says; only the
innermost layer is ever written.
-/

namespace Stencil.Expr

/-- Names with their values; each name stands once. -/
abbrev Layer := List (String × Value)

namespace Layer

/-- The value of a name. -/
def get? (l : Layer) (name : String) : Option Value := l.lookup name

/-- Bind a name. A name that is bound already keeps its place. -/
def put (l : Layer) (name : String) (v : Value) : Layer :=
  match l with
  | [] => [(name, v)]
  | (n, w) :: r => if n == name then (n, v) :: r else (n, w) :: put r name v

/-- A layer from pairs, of which later ones win. -/
def ofPairs (ps : List (String × Value)) : Layer := ps.foldl (fun l p => put l p.1 p.2) []

end Layer

/-- Layers of names, the innermost apart. -/
structure Bindings where
  inner : Layer := []
  outer : List Layer := []
  deriving Inhabited

namespace Bindings

/-- All layers, the innermost first. -/
def layers (b : Bindings) : List Layer := b.inner :: b.outer

/-- The value of a name in the innermost of several layers that binds it. -/
def lookIn : List Layer → String → Option Value
  | [], _ => none
  | l :: ls, name =>
    match l.get? name with
    | some v => some v
    | none => lookIn ls name

/-- The value of a name. -/
def get? (b : Bindings) (name : String) : Option Value := lookIn b.layers name

/-- Bind a name in the innermost layer. -/
def put (b : Bindings) (name : String) (v : Value) : Bindings :=
  { b with inner := b.inner.put name v }

/-- Add a layer. -/
def push (b : Bindings) (l : Layer) : Bindings := ⟨l, b.layers⟩

end Bindings

end Stencil.Expr
