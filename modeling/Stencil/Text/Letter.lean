import Stencil.Text.Property
/-!
# Stencil.Text.Letter -- letters, digits and printable characters

The character classes on which the predicates of the expression language and the classes of
patterns rest: letters, the three notions of a digit, and the characters that are shown as they
stand in a quoted text.
-/

namespace Stencil.Text

/-- Letters: the general categories `Lu`, `Ll`, `Lt`, `Lm` and `Lo`. -/
def letterText : String :=
  String.join
   ["1t q 6 q 1b 1 a 1 4 1 5 n 1 v 1 cq 4 c e 5 7 1 1 1 3l 5 1 2 2 4 1 1 6 1 1 3 1 1 1 k 1 2b 1 ",
    "3v 8 4m 1 12 2 1 6 15 1z r 4 4 19 17 z 2 1 2r 1 1 f 2 7 2 a 3 2 1 g 1 1 u t 2h b 1 o x 9 2 ",
    "4 1 5 m 4 1 9 1 3 1 n p 7 b 5 o 1 6 h 16 1m 1i 3 1 i 1 7 a f g 4 8 2 2 2 m 1 7 1 1 3 4 3 1 ",
    "g 1 d 2 1 3 e 2 a 1 8 6 4 2 2 m 1 7 1 2 1 2 1 2 v 4 1 1 j 3 g 9 1 3 1 m 1 7 1 2 1 5 3 1 i ",
    "1 f 2 n 1 b 8 2 2 2 m 1 7 1 2 1 5 3 1 u 2 1 3 f 1 h 1 1 6 3 3 1 4 3 2 1 1 1 2 3 2 3 3 3 c ",
    "m 1 1g 8 1 3 1 n 1 g 3 1 q 3 2 1 2 2 u 1 4 8 1 3 1 n 1 a 1 5 3 1 v 2 1 2 f 2 h 9 1 3 1 15 ",
    "2 1 g 1 5 3 8 3 o 6 5 i 3 o 1 9 1 1 2 7 1m 1c 1 2 c 7 1m 2 1 1 1 5 1 o 1 1 1 a 1 2 9 1 2 5 ",
    "1 1 l 4 w 1 1r 8 1 10 r 5 37 17 k 1 g 6 4 4 3 1 3 2 7 3 4 d c 1 h 12 1 1 5 1 2 17 1 99 1 4 ",
    "2 7 1 1 1 4 2 15 1 4 2 x 1 4 2 7 1 1 1 4 2 f 1 1l 1 4 2 1v 11 g g 2e 2 6 3 h8 2 h 1 q 5 23 ",
    "6 8 7 i d j e i e d 1 3 f 1g z 1 4 1 1v 2h 7 5 2 y 1 1 5 1y a v 1d u 2 5 b 18 4 q 1i n 9 ",
    "1h 2a 1 2l 1b h 8 1i u d 2 a 18 q 10 15 3 a 10 2 9 7 17 2 3 15 4 1 6 1 2 3 1 5 5c 1s 7q 2 ",
    "6 2 12 2 6 2 8 1 1 1 1 1 1 1 v 2 1h 1 7 1 1 3 3 1 7 3 4 2 6 4 d 5 3 1 7 38 1 d 1 g d 2t 1 ",
    "4 1 2 a 1 1 3 5 6 1 1 1 1 1 1 4 1 b 2 4 5 5 4 1 1g 2 22j 6d 6 4 3 2 c 12 1 1 5 1 2 1k 7 1 ",
    "g n 9 7 1 7 1 7 1 7 1 7 1 7 1 7 1 7 28 1 d1 2 16 5 5 2 4 2e 6 3 1 2i 1 4 5 17 1 2m h w 1c ",
    "g e8 534 1s h3h 1v 1a 2 7h 3 g a 2 k 1b g v 2 1y 1d 9 2 2v 2 1s 5 2 1 1 1 5 o g 1 3 1 4 1 ",
    "n t 1g e 1e 1q 6 3 1 1 2 b s a n p t 7 1b s 1 g 5 1 a a 5 1 15 n 3 1 8 k n 3 1 3 1e 1 1 3 ",
    "2 2 5 2 1 1 1 o 3 2 b 7 3 c 6 2 6 2 6 9 7 1 7 1 17 1 e 6 37 t 8mc c n 4 1d 6is a6 2 2y 12 ",
    "7 c 5 5 1 1 a 1 d 1 5 1 1 1 2 1 2 1 30 x a3 i 1s 2 1i 14 c 38 5 1 3r 10 q 6 q b 2h 3 6 2 6 ",
    "2 6 2 3 z c 1 q 1 j 1 2 1 f 2 e y 3f at t 3 1d 1b w d k 1 8 6 12 a u 2 10 4 8 1c 4e i 10 4 ",
    "10 4 14 8 1g c b 1 f 1 7 1 2 1 b 1 f 1 7 1 2 1v 8n 9 m a 8 o 6 1 16 1 9 1x 6 2 1 1 18 1 2 ",
    "3 1 2 n a n 9 v 1t j 1 2 a m a q 1y 1k 6 2 1s 1 f 4 1 3 1 t 16 t 3 t z 8 1 s r 1i a m a j ",
    "d i 32 21 1j 1f d 1f d 10 9o 16 6 2 26 t a 1 8 m 16 i 1a l r n c 1h 1l 2 2 1 d 19 w p q 10 ",
    "t 1 2 1 8 z 3 1 c 1c e 4 l 1 1 1 z i 1 p 2c 7 1 1 1 4 1 f 1 a 7 1b 12 8 2 2 2 m 1 7 1 2 1 ",
    "5 3 1 i 1 c 5 4e 1h i 4 k 3 u 1c k 2 1 1 54 1b 15 4 10 1c k 1 1n 17 d 1 1z r 11 7 55 18 38 ",
    "1s v 8 2 1 2 8 1 2 1 o f 1 1 1 2m 8 2 13 g 1 1 1 s 1 a 14 7 1 l 1 b 1a j 1 i 21 7b 9 1 11 ",
    "h 1 1d u 34 7 1 2 1 12 l 1 p 6 1 2 1 w e 1 93 j 59 1 27 pm 6e 5g 218 2p f tr 34h g7 6nt ft ",
    "7 v h 27 h u i 1c g 4 v l 5 j j4 1s 3k 23 5 1 1u d 1s 2 1 1 s 4qg 8 ye 16 9 6w7 4 1 7 1 2 ",
    "1 83 19 3 h 4 8 b0 1s4 2z 5 d 3 9 7 a 4me 2d 1 1z 1 2 2 1 2 2 2 4 1 c 1 1 1 7 1 1t 1 4 2 8 ",
    "1 7 1 s 1 4 1 5 1 1 3 7 1 9g 2 p 1 p 1 v 1 p 1 v 1 p 1 v 1 p 1 v 1 p 1 8 1f8 v dd 19 a 7 g ",
    "1 8x u i 18 z8 7 1 4 1 2 1 f 1 5h 1n 1w 7 1 xg 4 1 r 1 2 1 1 2 1 1 a 1 4 1 1 1 1 6 1 4 1 1 ",
    "1 1 1 1 3 1 2 1 1 2 1 1 1 1 1 1 1 1 1 1 2 1 1 2 4 1 7 1 4 1 4 1 1 1 a 1 h 5 3 1 5 1 h 3es ",
    "wyo w 37d 7 66 2 4g2 e 5rl 2e7 f2 15u 3t7"]

/-- Decimal digits, in blocks of ten from zero up. -/
def decimalText : String :=
  String.join
   ["1c a 17q a 3q a 5i a bg a 3a a 3a a 3a a 3a a 3a a 3a a 3a a 3a a 3a a 2o a 3a a 1y a 7q a ",
    "1y a 1fq a 12 a 8c a 3k a 4m a 6 a 52 a 2e a 3q a 6 a r7q a iu a 12 a 5i a m a 2e a ba a ",
    "geu a 13a a 1om a mk a 3k a 1o a 40 a 7q a 9i a 3a a ae a 2u a 2u a bq a 2u a l2 a 6u a 1y ",
    "a f5i a 2e a 3q a lf8 1e 1ts a bq a 192 a 3o6 a"]

/-- Decimal digits and digits in other positions, such as superscripts. -/
def digitText : String :=
  String.join
   ["1c a 3c 2 5 1 146 a 3q a 5i a bg a 3a a 3a a 3a a 3a a 3a a 3a a 3a a 3a a 3a a 2o a 3a a ",
    "1y a 7q a 1y a jz 9 vi a 12 a 8c a 3k b 4l a 6 a 52 a 2e a 3q a 6 a t2 1 3 6 6 a ra 9 b 9 ",
    "b 9 2h 1 a 9 1 1 hi 9 1 9 1 9 ozx a iu a 12 a 5i a m a 2e a ba a geu a 13a a 13q 4 ks a 86 ",
    "9 dl 9 b a 3k a 1o a 40 a 7q a 9i a 3a a ae a 2u a 2u a bq a 2u a l2 a 6u a 1y a f5i a 2e ",
    "a 3q a lf8 1e 1ts a bq a 192 a 1ie b 25h a"]

/-- Characters with a numeric value. -/
def numericText : String :=
  String.join
   ["1c a 3c 2 5 1 2 3 141 a 3q a 5i a bg a 3a a 4 6 30 a 3a a 3a a 2 6 32 d 37 a 8 7 2v a 2w 7 ",
    "7 j 31 a 2o a 3a a 1y k 7g a 1y a jz k oh 3 6n a 6 a m a 8c a 3k b 4l a 6 a 52 a 2e a 3q a ",
    "6 a t2 1 3 6 6 a 5i 1f 2 5 k6 1o 26 m hi u 12h 1 ll 1 p 9 e 3 9j 4 3u a u 8 1 f w a 13 f ",
    "91 1 3h 1 py 1 ma 1 3oy 1 2 1 3 1 1 1 2b 1 1a 1 7 1 1 1 14 2 u 1 8 1 10 1 2q 1 b7 1 1t 1 y ",
    "1 1 1 1 1 cz 1 1 3 6 1 38 4 ly 1 et 1 7 1 134 1 3n 2 c 3 1 1 rx 1 25 1 w5 1 1f7 1 wf 1 kn ",
    "1 1zb 1 px 1 1oh 1 4 1 3g 1 1rk 1 10 1 5 1 17 1 3h 1 2zt a 58 a 8w 6 4a a 12 a 5i a m a 2e ",
    "a ba a fap 1 7 1 4 1 1l 1 u 1 1 1 15 1 102 a dp 19 c 1l h 2 9h r 10 4 t 1 8 1 3q 5 5m a q6 ",
    "8 p 7 13 9 23 5 m 6 4g 2 2 g 2 1a 1s 9 1g 2 u 3 23 5 2w 8 o 8 15 7 96 6 1c a 86 v 4e a 16 ",
    "4 34 7 3q u 3k a 1o a 40 a 7 k 6z a 9i a 3a a ae a 2u a 2u c bo j 2l a l2 t 6b a 1y a eu l ",
    "tn 33 dtd a 2e a 3q a 1 7 m6 n jt5 k 30 p ut 1e 1ts a bq a 159 9 3k a lz 1n 1 3 1 4 24 19 ",
    "1 f qq d 25f a sn 1 2q 1 3h 1 1q 1 1l4 1 2g 1 8 1 f 1 99 1 i 1 r 1 4ty 1 16v 1 3gi 1 7rl 1 ",
    "tnm 1"]

/-- Characters shown as they stand: none of the separators, but the space, and none of the
others. -/
def printableText : String :=
  String.join
   ["w 2n y c 1 ju 2 6 4 7 1 1 1 k 1 b1 1 12 2 1e 2 3 1 1j 8 r 4 6 h m 1 5c 1 1c 2 1n 2 2t e 1n ",
    "2 1d 2 f 1 s 2 1 1 b 5 v 9 22 1 4h 1 8 2 2 2 m 1 7 1 1 3 4 2 9 2 2 2 4 8 1 4 2 1 5 2 p 2 3 ",
    "1 6 4 2 2 m 1 7 1 2 1 2 1 2 2 1 1 5 4 2 2 3 3 1 7 4 1 1 7 h a 3 1 9 1 3 1 m 1 7 1 2 1 5 2 ",
    "a 1 3 1 3 2 1 f 4 2 c 7 7 1 3 1 8 2 2 2 m 1 7 1 2 1 5 2 9 2 2 2 3 7 3 4 2 1 5 2 i a 2 1 6 ",
    "3 3 1 4 3 2 1 1 1 2 3 2 3 3 3 c 4 5 3 3 1 4 2 1 6 1 e l 5 d 1 3 1 n 1 g 2 9 1 3 1 4 7 2 1 ",
    "3 2 1 2 4 2 a 7 m 1 3 1 n 1 a 1 5 2 9 1 3 1 4 7 2 6 2 1 4 2 a 1 2 d d 1 3 1 1f 1 3 1 6 4 g ",
    "2 q 1 3 1 i 3 o 1 9 1 1 2 7 3 1 4 6 1 1 1 8 6 a 2 3 c 1m 4 t 11 2 1 1 1 5 1 o 1 1 1 n 2 5 ",
    "1 1 1 6 2 a 2 4 w 20 1 10 4 13 1 10 1 f 1 d 11 5i 1 1 5 1 2 ah 1 4 2 7 1 1 1 4 2 15 1 4 2 ",
    "x 1 4 2 7 1 1 1 4 2 f 1 1l 1 4 2 1v 2 w 3 q 6 2e 2 6 2 hs 1 s 3 2h 7 m 9 o 9 k c d 1 3 1 2 ",
    "c 2m 2 a 6 a 6 e 1 b 6 2h 7 17 5 1y a v 1 c 4 c 4 1 3 16 2 5 b 18 4 q 6 b 3 1q 2 1t 1 t 2 ",
    "b 6 a 6 e 2 v 1d 25 3 1b 1 38 8 1o 3 f 3 1o 7 17 2 b 8 17 5 eu 2 6 2 12 2 6 2 8 1 1 1 1 1 ",
    "1 1 v 2 1h 1 f 1 e 2 6 1 j 2 3 1 9 h o 8 1b h 2 2 r 1 d 3 x f x f 3w 4 if p b l 1ec 2 w 1 ",
    "9p 5 19 1 1 5 1 2 1k 7 2 e o 9 7 1 7 1 7 1 7 1 7 1 7 1 7 1 7 1 3i y q 1 2h c 5y q c 5 1r 1 ",
    "2e 2 2v 5 17 1 2m 1 2c c 1b 1 mlp 3 1j 9 9o k 54 8 5n 5 2 1 1 1 5 o 1n 3 a 6 1k 8 1y 8 c 6 ",
    "38 b u 3 26 1 b 4 x 1 1j 9 e 2 a 2 2v o s a 6 2 6 2 6 9 7 1 7 1 1o 4 3i 2 a 6 8mc c n 4 1d ",
    "6is a6 2 2y 12 7 c 5 5 q 1 5 1 1 1 2 1 2 1 3h g cd 2 1i 7 1 w 16 6 1f 1 j 1 4 4 5 1 3r 4 ",
    "5a 3 6 2 6 2 6 2 3 3 7 1 7 d 2 2 c 1 q 1 j 1 2 1 f 2 e y 3f 5 3 4 19 3 2g 1 d 3 1 1b 1a 3m ",
    "t 3 1d f s 4 10 9 u 5 17 5 u 1 11 4 e 16 4e 2 a 6 10 4 10 4 14 8 1g b c 1 f 1 7 1 2 1 b 1 ",
    "f 1 7 1 2 1v 8n 9 m a 8 o 6 1 16 1 9 1x 6 2 1 1 18 1 2 3 1 2 n 1 20 8 9 1c j 1 2 5 x 3 r 5 ",
    "1 1s 1k 4 k 2 1e 1 2 5 8 1 3 1 t 2 3 4 a 7 9 7 1s w 13 4 c 9 1i 3 t 2 r 5 q 7 4 c 7 28 21 ",
    "1j 1f d 1f 7 1a 8 a 86 v 1 16 1 3 2 2 26 14 8 16 m q 12 s k n 9 26 4 10 9 1q 1 5 d p 7 a 6 ",
    "1h 1 i 8 13 9 2o 1 k b i 1 18 1t 7 1 1 1 4 1 f 1 b 6 1n 5 a 6 4 1 8 2 2 2 m 1 7 1 2 1 5 1 ",
    "a 2 2 2 3 2 1 6 1 5 7 2 7 3 5 3v 2k 1 5 u 20 8 a 4m 1i 2 12 y 1x b a 6 d j 1m 6 a 1i r 2 f ",
    "4 n 55 1o 2s 2b c 8 2 1 2 8 1 2 1 u 1 2 2 c 9 a 1y 8 2 1a 2 b r 20 8 2b d 21 7b 9 1 19 1 e ",
    "a t 3 w 2 m 1 e 21 7 1 2 1 18 3 1 1 2 1 9 8 a 6 6 1 2 1 11 1 2 1 6 7 a 8m p 53 1 f 1e d pn ",
    "2u 33 1 5 b 5g 218 2r d tr 34h g7 6nt ft 7 v 1 a 4 29 1 a 6 u 2 6 a 1y a a 1 7 1 l 5 j j4 ",
    "2j 2t 23 4 1l 7 h 1s 5 b 2 e 4qg 8 ye 16 9 6w7 4 1 7 1 2 1 83 19 3 h 4 8 b0 1s4 2z 5 d 3 9 ",
    "7 a 2 4 3mo 1a 2 n 9 38 1o 6u a 13 2 22 8 34 l 1y 4a k c 2f 9 p 3r 2d 1 1z 1 2 2 1 2 2 2 4 ",
    "1 c 1 1 1 7 1 1t 1 4 2 8 1 7 1 s 1 4 1 5 1 1 3 7 1 9g 2 84 2 ji f 5 1 f uo v 69 7 1 h 2 7 ",
    "1 2 1 5 5x 19 3 e 2 a 4 2 8w v h 1m 5 1 yo 7 1 4 1 2 1 f 1 5h 2 g 15 24 4 a 4 2 lt 1w 24 ",
    "1p 5e 4 1 r 1 2 1 1 2 1 1 a 1 4 1 1 1 1 6 1 4 1 1 1 1 1 1 3 1 2 1 1 2 1 1 1 1 1 1 1 1 1 1 ",
    "2 1 1 2 4 1 7 1 4 1 4 1 1 1 a 1 h 5 3 1 5 1 h 1g 2 7i 18 4 2s c f 2 f 1 f 1 11 a 4u 1k t d ",
    "18 4 9 7 2 e 6 4a rc 5 g 3 d 3 38 c 2h 7 c 4 1 f c 4 1k 8 a 6 14 8 u 2 2 26 9g c e 2 5 3 5 ",
    "3 7 9 t 3 b 5 6 a a 6 8 8 7 9 43 1 1j 11 a sm wyo w 37d 7 66 2 4g2 e 5rl 2e7 f2 15u 3t7 ",
    "fcmt 6o"]

/-- Letters. -/
def letters : CharSet := CharSet.ofText letterText

/-- Decimal digits. -/
def decimals : CharSet := CharSet.ofText decimalText

/-- Digits. -/
def digits : CharSet := CharSet.ofText digitText

/-- Characters with a numeric value. -/
def numerics : CharSet := CharSet.ofText numericText

/-- Characters shown as they stand. -/
def printables : CharSet := CharSet.ofText printableText

/-- Whether a character is a letter. -/
def isLetter (c : Char) : Bool :=
  if c.toNat < 128 then c.isAlpha else letters.holds c

/-- Whether a character is a decimal digit. -/
def isDecimal (c : Char) : Bool :=
  if c.toNat < 128 then c.isDigit else decimals.holds c

/-- Whether a character is a digit, in any position. -/
def isDigit (c : Char) : Bool :=
  if c.toNat < 128 then c.isDigit else digits.holds c

/-- Whether a character has a numeric value. -/
def isNumeric (c : Char) : Bool :=
  if c.toNat < 128 then c.isDigit else numerics.holds c

/-- Whether a character is shown as it stands. -/
def isPrintable (c : Char) : Bool :=
  if c.toNat < 128 then 32 ≤ c.toNat && c.toNat < 127 else printables.holds c

/-- Whether a character is a letter or has a numeric value. -/
def isAlphanumeric (c : Char) : Bool := isLetter c || isDecimal c || isDigit c || isNumeric c

/-- Whether a character belongs to a word of a pattern. -/
def isWord (c : Char) : Bool := c == '_' || isAlphanumeric c

/-- The value of a decimal digit: digits come in blocks of ten, and every range of the set starts
with a zero. -/
def decimalValue? (c : Char) : Option Nat :=
  if c.toNat < 128 then
    if c.isDigit then some (c.toNat - 48) else none
  else
    let i := rank decimals.changes c.toNat
    if i % 2 == 1 then some ((c.toNat - decimals.changes.getD (i - 1) 0) % 10) else none

end Stencil.Text
