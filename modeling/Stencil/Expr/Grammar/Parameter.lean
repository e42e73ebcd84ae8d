import Stencil.Expr.Grammar.Expression
/-!
# Stencil.Expr.Grammar.Parameter -- the parameters of functions

Functions with a name and functions without one take parameters of the same shape; they differ in
the mark that ends the parameters and in that only the former have annotations. Parameters are read
for their shape alone.
-/

namespace Stencil.Expr.Grammar

/-- How the parameters of a kind of function are written. -/
structure ParameterStyle where
  /-- The mark that ends them. -/
  close : String
  /-- What stands before a default and after the name. -/
  typeMark : Read Unit
  /-- The same for the parameter that takes the remaining arguments. -/
  restTypeMark : Read Unit
  /-- Why parameters in parentheses are refused. -/
  parenthesized : String

namespace ParameterStyle

variable (style : ParameterStyle) (call : Call)

/-- A parameter: the line on which it starts. -/
def one : Read Nat := do
  let t ← nameToken
  style.typeMark
  return t.line

/-- What follows a parameter. -/
def ends : Read Unit := firstOf [discard (mark ","), ahead (mark style.close)]

/-- A parameter without a default. -/
def plain : Read Nat := do
  let n ← style.one
  style.ends
  return n

/-- A default. -/
def usual : Read Unit := do
  discard (mark "=")
  call.skip .expression

/-- A parameter with a default. -/
def withUsual : Read Nat := do
  let n ← style.one
  usual call
  style.ends
  return n

/-- A parameter, maybe with a default. -/
def either : Read Nat := do
  let n ← style.one
  discard (attempt (usual call))
  style.ends
  return n

/-- The parameters that are taken by position only. -/
def byPosition : Read Unit :=
  let slash : Read Unit := do
    discard (mark "/")
    style.ends
  firstOf
    [do discard (many1 style.plain); slash,
     do discard (many style.plain); discard (many1 (style.withUsual call)); slash]

/-- An objection to parameters. -/
def refuse {α : Type} (line : Nat) (reason : String) : Read α :=
  objectAt line (.badParameters reason)

/-- The parameter that takes the remaining named arguments. -/
def spread : Read Unit :=
  firstOf
    [objection (firstOf
      [do discard (mark "**")
          discard style.one
          refuse (← mark "=").line "var-keyword argument cannot have default value",
       do discard (mark "**")
          discard style.one
          discard (mark ",")
          refuse (← style.one) "arguments cannot follow var-keyword argument",
       do discard (mark "**")
          discard style.one
          discard (mark ",")
          let t ← firstOf [mark "*", mark "**", mark "/"]
          refuse t.line "arguments cannot follow var-keyword argument"]),
     do discard (mark "**")
        discard style.plain]

/-- The parameter that takes the remaining arguments, and those after it. -/
def rest : Read Unit :=
  firstOf
    [objection (firstOf
      [do let t ← mark "*"
          firstOf
            [discard (mark style.close),
             do discard (mark ",")
                discard (firstOf [mark style.close, mark "**"])]
          refuse t.line "named arguments must follow bare *",
       do discard (mark "*")
          discard style.one
          refuse (← mark "=").line "var-positional argument cannot have default value",
       do discard (mark "*")
          firstOf [discard style.plain, discard (mark ",")]
          discard (many (style.either call))
          let t ← mark "*"
          firstOf [discard style.plain, discard (mark ",")]
          refuse t.line "* argument may appear only once"]),
     do discard (mark "*")
        discard nameToken
        style.restTypeMark
        style.ends
        discard (many (style.either call))
        discard (attempt style.spread),
     do discard (mark "*")
        discard (mark ",")
        discard (many1 (style.either call))
        discard (attempt style.spread),
     style.spread]

/-- Objections to parameters. -/
def misordered : Read Unit :=
  firstOf
    [do discard (many style.plain)
        firstOf
          [do discard (many style.plain)
              discard (many1 (style.withUsual call))
              discard (mark "/")
              style.ends,
           discard (many1 (style.withUsual call))]
        refuse (← style.plain) "non-default argument follows default argument",
     do discard (many style.plain)
        let t ← mark "("
        discard (separated style.one (mark ","))
        discard (attempt (mark ","))
        discard (mark ")")
        refuse t.line style.parenthesized,
     do let t ← mark "/"
        discard (mark ",")
        refuse t.line "at least one argument must precede /",
     do style.byPosition call
        discard (many (style.either call))
        refuse (← mark "/").line "/ may appear only once",
     do discard (attempt (style.byPosition call))
        discard (many (style.either call))
        discard (mark "*")
        firstOf [discard (mark ","), discard style.plain]
        discard (many (style.either call))
        refuse (← mark "/").line "/ must be ahead of *",
     do discard (many1 (style.either call))
        discard (mark "/")
        refuse (← mark "*").line "expected comma between / and *"]

/-- The parameters of a function; there is at least one. -/
def all : Read Unit :=
  let more : Read Unit := do
    discard (many (style.withUsual call))
    discard (attempt (style.rest call))
  firstOf
    [objection (style.misordered call),
     do discard (many1 style.plain); discard (mark "/"); style.ends
        discard (many style.plain); more,
     do discard (many style.plain); discard (many1 (style.withUsual call))
        discard (mark "/"); style.ends
        more,
     do discard (many1 style.plain); more,
     do discard (many1 (style.withUsual call)); discard (attempt (style.rest call)),
     style.rest call]

end ParameterStyle

/-- The parameters of a function without a name. -/
def lambdaStyle : ParameterStyle :=
  ⟨":", pure (), pure (), "Lambda expression parameters cannot be parenthesized"⟩

/-- The parameters of a function with a name. -/
def functionStyle (call : Call) : ParameterStyle :=
  ⟨")", discard (attempt (do discard (mark ":"); call.skip .expression)),
    discard (attempt (do discard (mark ":"); call.skip .starExpression)),
    "Function parameters cannot be parenthesized"⟩

/-- A function without a name. -/
def lambda (call : Call) : Read Phrase := do
  let t ← word "lambda"
  discard (attempt (lambdaStyle.all call))
  discard (mark ":")
  call.skip .expression
  return .leaf t.line (.absent .lambda)

end Stencil.Expr.Grammar
