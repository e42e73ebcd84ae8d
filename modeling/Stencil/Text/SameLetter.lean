import Stencil.Text.Case
/-!
# Stencil.Text.SameLetter -- letters that differ in case only

Two characters are the same letter when their lower case forms have one upper case form. Mostly a
letter has two forms, its upper and its lower case; a few have more.
-/

namespace Stencil.Text

/-- What is the same for all forms of a letter. -/
def letterKey (c : Char) : List Char := upperOf (lowerChar c)

/-- Whether two characters are forms of one letter. -/
def sameLetter (a b : Char) : Bool := a == b || letterKey a == letterKey b

/-- The code points of the forms of letters that have more than two of them. -/
def severalForms : List Nat :=
  [0x69, 0x73, 0xB5, 0x130, 0x131, 0x17F, 0x1C5, 0x1C8, 0x1CB, 0x1F2, 0x345, 0x390, 0x3B0, 0x3B2,
   0x3B5, 0x3B8, 0x3B9, 0x3BA, 0x3BC, 0x3C0, 0x3C1, 0x3C2, 0x3C3, 0x3C6, 0x3D0, 0x3D1, 0x3D5, 0x3D6,
   0x3F0, 0x3F1, 0x3F4, 0x3F5, 0x432, 0x434, 0x43E, 0x441, 0x442, 0x44A, 0x463, 0x1C80, 0x1C81,
   0x1C82, 0x1C83, 0x1C84, 0x1C85, 0x1C86, 0x1C87, 0x1C88, 0x1E61, 0x1E9B, 0x1E9E, 0x1F88, 0x1F89,
   0x1F8A, 0x1F8B, 0x1F8C, 0x1F8D, 0x1F8E, 0x1F8F, 0x1F98, 0x1F99, 0x1F9A, 0x1F9B, 0x1F9C, 0x1F9D,
   0x1F9E, 0x1F9F, 0x1FA8, 0x1FA9, 0x1FAA, 0x1FAB, 0x1FAC, 0x1FAD, 0x1FAE, 0x1FAF, 0x1FBC, 0x1FBE,
   0x1FCC, 0x1FD3, 0x1FE3, 0x1FFC, 0x2126, 0x212A, 0x212B, 0xA64B, 0xFB05, 0xFB06]

/-- All forms of a letter. -/
def formsOf (c : Char) : List Char :=
  let l := lowerChar c
  c :: l :: upperChar l :: (severalForms.map Char.ofNat).filter (sameLetter c)

end Stencil.Text
