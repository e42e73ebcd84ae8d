import Stencil.Expr.Grammar.Expression
/-!
# Stencil.Expr.Grammar.Pattern -- the patterns of case blocks

Patterns are read for their shape alone: literals, names, values, sequences, mappings and classes,
alternatives of these, and names given to what they match.
-/

namespace Stencil.Expr.Grammar

variable (call : Call)

/-- What must not follow a name that stands for a whole pattern. -/
def nameStandsAlone : Read Unit := notAhead (firstOf [mark ".", mark "(", mark "="])

/-- A name that takes what is matched. -/
def captureName : Read Unit := do
  notAhead (word "_")
  discard nameToken
  nameStandsAlone

/-- A name, or an attribute of one. -/
def dottedValue (least : Nat) : Read Unit := do
  discard nameToken
  let more ← many (do discard (mark "."); nameToken)
  guarded (more.length ≥ least) (pure ())

/-- A number with a sign or without. -/
def signedNumber : Read Unit := do
  discard (attempt (mark "-"))
  discard (kind .number)

/-- A literal. -/
def literalPattern : Read Unit :=
  firstOf
    [do signedNumber
        notAhead (firstOf [mark "+", mark "-"]),
     do signedNumber
        discard (firstOf [mark "+", mark "-"])
        discard (kind .number),
     call.skip .texts,
     discard (word "None"), discard (word "True"), discard (word "False")]

/-- A pattern in a sequence, or a starred name. -/
def sequenceItem : Read Unit :=
  firstOf
    [do discard (mark "*")
        firstOf [captureName, discard (word "_")],
     call.skip .pattern]

/-- Patterns with commas between them. -/
def sequenceItems : Read Unit := discard (commaList (sequenceItem call))

/-- Several patterns, or one with a comma after it. -/
def openSequence : Read Unit := do
  sequenceItem call
  discard (mark ",")
  discard (attempt (sequenceItems call))

/-- A mapping from keys to patterns. -/
def mappingPattern : Read Unit := do
  discard (mark "\x7b")
  let item : Read Unit := do
    firstOf [literalPattern call, dottedValue 1]
    discard (mark ":")
    call.skip .pattern
  let spread : Read Unit := do
    discard (mark "**")
    captureName
  let comma : Read Unit := discard (attempt (mark ","))
  firstOf
    [discard (mark "\x7d"),
     do spread; comma; discard (mark "\x7d"),
     do discard (separated item (mark ",")); discard (mark ","); spread; comma
        discard (mark "\x7d"),
     do discard (separated item (mark ",")); comma; discard (mark "\x7d")]

/-- A class with patterns for its attributes. -/
def classPattern : Read Unit := do
  let byPosition : Read Unit := discard (separated (call.skip .pattern) (mark ","))
  let named : Read Unit := discard (separated
    (do discard nameToken; discard (mark "="); call.skip .pattern) (mark ","))
  let comma : Read Unit := discard (attempt (mark ","))
  dottedValue 0
  discard (mark "(")
  firstOf
    [discard (mark ")"),
     do byPosition; comma; discard (mark ")"),
     do named; comma; discard (mark ")"),
     do byPosition; discard (mark ","); named; comma; discard (mark ")"),
     objection do
      discard (attempt (do byPosition; discard (mark ",")))
      named
      discard (mark ",")
      let t ← peek
      byPosition
      objectAt t.line (.badPattern "positional patterns follow keyword patterns")]

/-- A pattern without alternatives. -/
def closedPattern : Read Unit :=
  firstOf
    [literalPattern call, captureName, discard (word "_"),
     do dottedValue 1
        nameStandsAlone,
     do discard (mark "("); call.skip .pattern; discard (mark ")"),
     do discard (mark "["); discard (attempt (sequenceItems call)); discard (mark "]"),
     do discard (mark "("); discard (attempt (openSequence call)); discard (mark ")"),
     mappingPattern call, classPattern call]

/-- Alternatives, maybe with a name for what they match. -/
def pattern : Read Unit :=
  let alternatives : Read Unit := discard (separated (call.skip .closedPattern) (mark "|"))
  firstOf
    [do alternatives; discard (word "as"); captureName,
     objection (firstOf
      [do alternatives
          discard (word "as")
          let t ← word "_"
          objectAt t.line (.badPattern "cannot use '_' as a target"),
       do alternatives
          discard (word "as")
          notAhead nameToken
          let a ← call.phrase .expression
          objectAt a.line (.badPattern "invalid pattern target")]),
     alternatives]

/-- The patterns of a case block. -/
def patterns : Read Unit := firstOf [openSequence call, call.skip .pattern]

end Stencil.Expr.Grammar
