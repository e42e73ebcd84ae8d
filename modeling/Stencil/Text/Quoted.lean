import Stencil.Text.Letter
/-!
# Stencil.Text.Quoted -- quoted texts

The quoted form of a text and of bytes, as it appears inside the text of a list: between single
quotes, or between double quotes when the text holds single quotes but no double ones. Backslash,
the quote itself and everything that is not shown as it stands is escaped.
-/

namespace Stencil.Text

/-- The lower case hexadecimal digits of a number, at least `width` of them. -/
def hexPadded (n width : Nat) : List Char :=
  let ds := Nat.toDigits 16 n
  List.replicate (width - ds.length) '0' ++ ds

/-- The quote put around a text. -/
def quoteFor (hasSingle hasDouble : Bool) : Char :=
  if hasSingle && !hasDouble then '"' else '\x27'

/-- Escape one character of a quoted text. -/
def escapeChar (quote c : Char) : List Char :=
  if c == quote || c == '\\' then ['\\', c]
  else if c == '\t' then ['\\', 't']
  else if c == '\n' then ['\\', 'n']
  else if c == '\r' then ['\\', 'r']
  else if isPrintable c then [c]
  else
    let n := c.toNat
    if n < 0x100 then '\\' :: 'x' :: hexPadded n 2
    else if n < 0x10000 then '\\' :: 'u' :: hexPadded n 4
    else '\\' :: 'U' :: hexPadded n 8

/-- The quoted form of a text. -/
def quoted (s : List Char) : List Char :=
  let quote := quoteFor (s.contains '\x27') (s.contains '"')
  quote :: s.flatMap (escapeChar quote) ++ [quote]

/-- Escape one byte of quoted bytes. -/
def escapeByte (quote : Char) (b : UInt8) : List Char :=
  let c := Char.ofNat b.toNat
  if c == quote || c == '\\' then ['\\', c]
  else if c == '\t' then ['\\', 't']
  else if c == '\n' then ['\\', 'n']
  else if c == '\r' then ['\\', 'r']
  else if 32 ≤ b.toNat && b.toNat < 127 then [c]
  else '\\' :: 'x' :: hexPadded b.toNat 2

/-- The quoted form of bytes. -/
def quotedBytes (b : List UInt8) : List Char :=
  let quote := quoteFor (b.contains 39) (b.contains 34)
  'b' :: quote :: b.flatMap (escapeByte quote) ++ [quote]

end Stencil.Text
