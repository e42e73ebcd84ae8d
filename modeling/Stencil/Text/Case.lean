import Stencil.Text.Property
/-!
# Stencil.Text.Case -- upper, lower and title case

Case of characters and of texts. Most characters change case one for one; a few become several
characters, and a capital sigma at the end of a word becomes a final small sigma.
-/

namespace Stencil.Text

/-- Upper case characters. -/
def upperSetText : String :=
  String.join
   ["1t q 2t n 1 7 x 1 1 1 1 1 1 1 1 1 1 1 1 1 1 1 1 1 1 1 1 1 1 1 1 1 1 1 1 1 1 1 1 1 1 1 1 1 ",
    "1 1 1 1 1 1 1 1 1 1 1 1 1 1 1 1 1 1 2 1 1 1 1 1 1 1 1 1 1 1 1 1 1 1 2 1 1 1 1 1 1 1 1 1 1 ",
    "1 1 1 1 1 1 1 1 1 1 1 1 1 1 1 1 1 1 1 1 1 1 1 1 1 1 1 1 1 1 1 1 1 1 1 1 2 1 1 1 1 3 2 1 1 ",
    "1 2 1 3 2 4 1 2 1 3 3 2 1 2 1 1 1 1 1 2 1 1 2 1 1 2 1 3 1 1 1 2 3 1 7 1 2 1 2 1 2 1 1 1 1 ",
    "1 1 1 1 1 1 1 1 1 1 1 2 1 1 1 1 1 1 1 1 1 1 1 1 1 1 1 1 1 2 1 2 1 1 3 1 1 1 1 1 1 1 1 1 1 ",
    "1 1 1 1 1 1 1 1 1 1 1 1 1 1 1 1 1 1 1 1 1 1 1 1 1 1 1 1 1 1 1 1 1 1 1 1 1 1 1 1 1 1 1 1 1 ",
    "1 1 1 7 2 1 2 2 1 1 4 1 1 1 1 1 1 1 1 81 1 1 1 3 1 8 1 6 1 1 3 1 1 1 2 1 h 1 9 z 1 2 3 3 1 ",
    "1 1 1 1 1 1 1 1 1 1 1 1 1 1 1 1 1 1 1 1 1 1 5 1 2 1 1 2 2 1f 1c 1 1 1 1 1 1 1 1 1 1 1 1 1 ",
    "1 1 1 1 1 1 1 1 1 1 1 1 1 1 1 1 1 1 1 1 9 1 1 1 1 1 1 1 1 1 1 1 1 1 1 1 1 1 1 1 1 1 1 1 1 ",
    "1 1 1 1 1 1 1 1 1 1 1 1 1 1 1 1 1 1 1 1 1 1 1 1 1 1 1 1 1 1 2 1 1 1 1 1 1 1 1 1 1 1 1 2 1 ",
    "1 1 1 1 1 1 1 1 1 1 1 1 1 1 1 1 1 1 1 1 1 1 1 1 1 1 1 1 1 1 1 1 1 1 1 1 1 1 1 1 1 1 1 1 1 ",
    "1 1 1 1 1 1 1 1 1 1 1 1 1 1 1 1 1 1 1 1 1 1 1 1 1 1 1 1 1 1 1 1 1 1 1 1 1 1 1 1 1 1 1 1 1 ",
    "1 1 1 1 2 12 289 12 1 1 5 1 k2 2e 1p6 17 2 3 8w 1 1 1 1 1 1 1 1 1 1 1 1 1 1 1 1 1 1 1 1 1 ",
    "1 1 1 1 1 1 1 1 1 1 1 1 1 1 1 1 1 1 1 1 1 1 1 1 1 1 1 1 1 1 1 1 1 1 1 1 1 1 1 1 1 1 1 1 1 ",
    "1 1 1 1 1 1 1 1 1 1 1 1 1 1 1 1 1 1 1 1 1 1 1 1 1 1 1 1 1 1 1 1 1 1 1 1 1 1 1 1 1 1 1 1 1 ",
    "1 1 1 1 1 1 1 1 1 1 1 1 1 1 1 1 1 1 1 1 1 1 1 1 1 1 1 1 1 1 1 1 1 1 1 1 1 1 9 1 1 1 1 1 1 ",
    "1 1 1 1 1 1 1 1 1 1 1 1 1 1 1 1 1 1 1 1 1 1 1 1 1 1 1 1 1 1 1 1 1 1 1 1 1 1 1 1 1 1 1 1 1 ",
    "1 1 1 1 1 1 1 1 1 1 1 1 1 1 1 1 1 1 1 1 1 1 1 1 1 1 1 1 1 1 1 1 1 1 1 1 1 1 1 1 1 1 1 1 1 ",
    "1 9 8 8 6 a 8 8 8 8 6 b 1 1 1 1 1 1 1 8 8 20 4 c 4 c 4 c 5 b 4 7a 1 4 1 3 3 2 3 2 1 3 5 6 ",
    "1 1 1 1 1 1 4 2 4 a 2 5 1 q g j 1 mq q 1f4 1c 1c 1 1 3 2 1 1 1 1 1 1 4 1 1 2 1 8 3 1 1 1 1 ",
    "1 1 1 1 1 1 1 1 1 1 1 1 1 1 1 1 1 1 1 1 1 1 1 1 1 1 1 1 1 1 1 1 1 1 1 1 1 1 1 1 1 1 1 1 1 ",
    "1 1 1 1 1 1 1 1 1 1 1 1 1 1 1 1 1 1 1 1 1 1 1 1 1 1 1 1 1 1 1 1 1 1 1 1 1 1 1 1 1 1 1 1 1 ",
    "1 1 1 1 8 1 1 1 4 1 nyl 1 1 1 1 1 1 1 1 1 1 1 1 1 1 1 1 1 1 1 1 1 1 1 1 1 1 1 1 1 1 1 1 1 ",
    "1 1 1 1 1 1 1 1 1 1 1 1 j 1 1 1 1 1 1 1 1 1 1 1 1 1 1 1 1 1 1 1 1 1 1 1 1 1 1 1 3r 1 1 1 1 ",
    "1 1 1 1 1 1 1 1 1 3 1 1 1 1 1 1 1 1 1 1 1 1 1 1 1 1 1 1 1 1 1 1 1 1 1 1 1 1 1 1 1 1 1 1 1 ",
    "1 1 1 1 1 1 1 1 1 1 1 1 1 1 1 1 1 1 1 1 1 1 1 1 1 1 a 1 1 1 1 2 1 1 1 1 1 1 1 1 4 1 1 1 2 ",
    "1 1 1 3 1 1 1 1 1 1 1 1 1 1 1 1 1 1 1 1 1 1 1 1 5 1 5 1 1 1 1 1 1 1 1 1 1 1 1 1 1 1 4 1 1 ",
    "6 1 5 1 1 1 s 1 h7v q xx 14 3s 10 4c b 1 f 1 7 1 2 1d6 1f 2ct w gw0 w k2o q q q q q q 1 1 ",
    "2 2 1 2 2 2 4 1 8 q q q 2 1 4 2 8 1 7 r 2 1 4 1 5 1 1 3 7 r q q q q q q q q q q q u p x p ",
    "x p x p x p x 1 3ed y 1la q 6 q 6 q"]

/-- Lower case characters. -/
def lowerSetText : String :=
  String.join
   ["2p q 1b 1 a 1 4 1 10 o 1 8 1 1 1 1 1 1 1 1 1 1 1 1 1 1 1 1 1 1 1 1 1 1 1 1 1 1 1 1 1 1 1 1 ",
    "1 1 1 1 1 1 1 1 1 1 1 1 1 1 1 1 1 1 1 1 1 1 1 2 1 1 1 1 1 1 1 1 1 1 1 1 1 1 1 2 1 1 1 1 1 ",
    "1 1 1 1 1 1 1 1 1 1 1 1 1 1 1 1 1 1 1 1 1 1 1 1 1 1 1 1 1 1 1 1 1 1 1 1 1 1 1 1 1 2 1 1 1 ",
    "1 3 2 1 1 1 2 1 3 2 4 1 2 1 3 3 2 1 2 1 1 1 1 1 2 1 1 2 1 1 2 1 3 1 1 1 2 2 2 3 6 1 2 1 2 ",
    "1 1 1 1 1 1 1 1 1 1 1 1 1 1 1 1 2 1 1 1 1 1 1 1 1 1 1 1 1 1 1 1 1 1 2 2 1 1 1 3 1 1 1 1 1 ",
    "1 1 1 1 1 1 1 1 1 1 1 1 1 1 1 1 1 1 1 1 1 1 1 1 1 1 1 1 1 1 1 1 1 1 1 1 1 1 1 1 1 1 1 1 1 ",
    "1 1 1 1 1 1 1 1 7 2 1 2 2 1 1 4 1 1 1 1 1 1 1 1 1x 1 10 7 2 u 5 2o 1 17 1 1 1 3 1 2 4 i 1 ",
    "r z 1 2 3 3 1 1 1 1 1 1 1 1 1 1 1 1 1 1 1 1 1 1 1 1 1 1 1 5 1 1 2 1 2 2 1f 1c 1 1 1 1 1 1 ",
    "1 1 1 1 1 1 1 1 1 1 1 1 1 1 1 1 1 1 1 1 1 1 1 1 1 1 1 1 9 1 1 1 1 1 1 1 1 1 1 1 1 1 1 1 1 ",
    "1 1 1 1 1 1 1 1 1 1 1 1 1 1 1 1 1 1 1 1 1 1 1 1 1 1 1 1 1 1 1 1 1 1 1 1 1 2 1 1 1 1 1 1 1 ",
    "1 1 1 1 1 2 1 1 1 1 1 1 1 1 1 1 1 1 1 1 1 1 1 1 1 1 1 1 1 1 1 1 1 1 1 1 1 1 1 1 1 1 1 1 1 ",
    "1 1 1 1 1 1 1 1 1 1 1 1 1 1 1 1 1 1 1 1 1 1 1 1 1 1 1 1 1 1 1 1 1 1 1 1 1 1 1 1 1 1 1 1 1 ",
    "1 1 1 1 1 1 1 1 1 1 1 1 1c 15 287 17 2 3 l4 6 1oi 9 3b 5c 1t 1 1 1 1 1 1 1 1 1 1 1 1 1 1 1 ",
    "1 1 1 1 1 1 1 1 1 1 1 1 1 1 1 1 1 1 1 1 1 1 1 1 1 1 1 1 1 1 1 1 1 1 1 1 1 1 1 1 1 1 1 1 1 ",
    "1 1 1 1 1 1 1 1 1 1 1 1 1 1 1 1 1 1 1 1 1 1 1 1 1 1 1 1 1 1 1 1 1 1 1 1 1 1 1 1 1 1 1 1 1 ",
    "1 1 1 1 1 1 1 1 1 1 1 1 1 1 1 1 1 1 1 1 1 1 1 1 1 1 1 1 1 1 1 1 1 1 1 1 1 1 1 1 1 1 1 9 1 ",
    "1 1 1 1 1 1 1 1 1 1 1 1 1 1 1 1 1 1 1 1 1 1 1 1 1 1 1 1 1 1 1 1 1 1 1 1 1 1 1 1 1 1 1 1 1 ",
    "1 1 1 1 1 1 1 1 1 1 1 1 1 1 1 1 1 1 1 1 1 1 1 1 1 1 1 1 1 1 1 1 1 1 1 1 1 1 1 1 1 1 1 1 1 ",
    "1 1 1 1 1 1 9 8 6 a 8 8 8 8 6 a 8 8 8 8 e 2 8 8 8 8 8 8 5 1 2 6 1 3 3 1 2 8 4 2 2 8 8 a 3 ",
    "1 2 3d 1 d 1 g d 31 1 3 2 3 1 r 1 4 1 4 1 2 2 8 4 4 1 x g 4 1 nf q 1fq 1c 1 1 3 2 1 1 1 1 ",
    "1 1 4 1 1 2 1 8 3 1 1 1 1 1 1 1 1 1 1 1 1 1 1 1 1 1 1 1 1 1 1 1 1 1 1 1 1 1 1 1 1 1 1 1 1 ",
    "1 1 1 1 1 1 1 1 1 1 1 1 1 1 1 1 1 1 1 1 1 1 1 1 1 1 1 1 1 1 1 1 1 1 1 1 1 1 1 1 1 1 1 1 1 ",
    "1 1 1 1 1 1 1 1 1 1 1 1 1 1 1 1 1 2 7 1 1 1 4 1 c 12 1 1 5 1 nwz 1 1 1 1 1 1 1 1 1 1 1 1 1 ",
    "1 1 1 1 1 1 1 1 1 1 1 1 1 1 1 1 1 1 1 1 1 1 1 1 1 1 1 1 1 1 1 1 j 1 1 1 1 1 1 1 1 1 1 1 1 ",
    "1 1 1 1 1 1 1 1 1 1 1 1 1 1 3 3p 1 1 1 1 1 1 1 1 1 1 1 1 3 1 1 1 1 1 1 1 1 1 1 1 1 1 1 1 1 ",
    "1 1 1 1 1 1 1 1 1 1 1 1 1 1 1 1 1 1 1 1 1 1 1 1 1 1 1 1 1 1 1 1 1 1 1 1 1 1 1 1 1 1 1 1 1 ",
    "a 1 1 1 1 2 1 1 1 1 1 1 1 1 1 4 1 1 1 2 1 1 3 1 1 1 1 1 1 1 1 1 1 1 1 1 1 1 1 1 1 1 1 5 1 ",
    "5 1 1 1 1 1 1 1 1 1 1 1 1 1 1 1 4 1 1 1 6 1 1 1 1 1 1 1 1 1 s 1 1 3 mt 17 1 d 7 28 fnk 7 c ",
    "5 tl q y5 14 3s 10 4b b 1 f 1 7 1 2 cj 1 2 3 1 16 1 9 zp 1f 2bx w gw0 w k2i q q 7 1 i q q ",
    "q 4 1 1 1 7 1 b q q q q q q q q q q q q q q q q q s s p 1 6 q p 1 6 q p 1 6 q p 1 6 q p 1 ",
    "6 1 1 1f8 a 1 k 1z7 y"]

/-- Title case characters. -/
def titleSetText : String :=
  "cl 1 2 1 2 1 12 1 5ud 8 8 8 8 8 c 1 f 1 1b 1"

/-- Characters that are passed over when the context of a capital sigma is looked at. -/
def ignorableText : String :=
  String.join
   ["13 1 6 1 b 1 z 1 1 1 1z 1 4 1 1 1 4 1 2 2 dz 5c 4 2 4 1 9 2 1 1 6z 7 5r 1 5 1 1d 19 1 1 1 ",
    "2 1 2 1 1 18 1 b 6 a b 1 1 z 1 a l g 1 2t 8 1 a 1 4 x 1 1 1 u r 2j b 1m b 4 1 2 1 o o 17 3 ",
    "18 1 7 2 6 8 15 1m 1j 1 1 1 4 8 4 1 3 7 a 2 d 1 f 1 1m 1 4 4 8 1 k 2 q 1 2 2 1l 1 4 2 4 2 ",
    "2 3 3 1 u 2 3 1 b 2 1l 1 4 5 1 2 4 1 k 2 m 6 1 1 1m 1 2 1 1 4 8 1 7 2 b 2 u 1 1p 1 c 1 1e ",
    "1 3 1 1j 1 1 3 5 3 1 4 7 2 b 2 t 1 1m 1 2 1 6 1 5 2 k 2 s 2 1l 2 4 4 8 1 k 2 t 1 20 1 7 3 ",
    "1 1 2i 1 2 7 b 9 2q 1 2 9 9 1 1 6 22 2 r 1 1 1 1 1 1j e 1 5 1 2 5 b 1 10 9 1 2u 4 1 6 1 2 ",
    "2 2 p 2 4 3 g 4 d 1 2 2 6 1 f 1 2m 1 gw 3 qa 3 t 2 u 2 u 2 1s 2 1 7 8 1 2 b 3 1 5 1 19 5 ",
    "1f 1 1t 2 y 1 3a 3 4 2 9 1 6 3 63 2 2 1 1m 1 1 7 1 1 1 1 2 8 6 a 2 1 13 1 8 v 1d 4 1c 1 1 ",
    "5 1 1 5 1 14 9 c 2 w 4 2 2 1 3 1k 1 1 2 3 1 1 3 1m 8 2 2 1s 6 2a 3 1 d 1 7 4 1 6 1 3 2 1e ",
    "1r d 1 y 2t cd 1 1 3 b 3 d 3 d 3 d 2 c 5 8 2 a 1 2 1 2 5 1d 5 1 a 1 1 d 1 g d 1f x 2a3 2 ",
    "35 3 3h 1 f 1 2o w 1b 1 d1 1 10 4 3 5 5 1 2l 6 2l 3 lxy 1 yq 6 7i 1 2q 4 1 a 1 1 s 4 28 2 ",
    "e y 26 1 n 3 2v 3 3 2 8 1 3 1 4 1 p 2 5 1 47 2 q i d 1 12 8 p b 1a 3 1c 1 2 4 2 2 h 1 l 2 ",
    "1u 6 2 2 2 2 c 1 8 1 z 1 b 1 1f 1 1 3 2 2 5 2 1 1 r 1 e 2 5 2 1 1 2s 5 9 3 3d 1 2 1 4 1 ",
    "fn4 1 43 h fx g 3 1 c g y 1 2 1 4p 1 7 1 6 1 b 1 z 1 1 1 1b 1 19 2 1v 1 l 3 e9 1 6a 1 45 5 ",
    "sl 6 1 16 1 9 g6 3 1 2 5 4 14 3 4 1 4l 2 fx 4 ar 2 49 b 1d 4 3f 1 1i f 15 1 2 2 a 3 1d 4 2 ",
    "2 2 1 4 1 a 1 1e 3 10 5 1 8 1q 1 c 2 1g 9 a 4 2 1 2n 3 2 1 1 2 6 1 4g 1 3 8 l 2 1l 2 3 1 ",
    "11 7 3 5 5f 8 2 3 1 1 n 1 2c 6 1 1 4 2 1 2 6m 4 6 2 1 2 r 2 2d 8 2 1 1 2 2y 1 1 1 2 6 1 1 ",
    "2t 3 2 4 1 5 77 9 1 2 74 2 1 1 4 1 40 4 2 2 4 1 w a 14 6 2 4 8 1 9 6 2 3 1a d 1 2 ba 7 1 6 ",
    "1 1 2a m 2 7 1 2 1 2 3e 6 3 1 1 2 1 7 1 1 20 2 3 1 1 1 9n 2 46z 9 at3 5 1n 7 9 4 sr 1 1r h ",
    "1s 2 1 2 cnf 4 1 7 1 2 2hq 2 1 4 3mk 1a 2 n f4 3 9 g 2 7 u 4 44 3 1iz 1j 4 1e 8 1 e 1 m 5 ",
    "1 f 11s 7 1 h 2 7 1 2 1 5 79 e a8 1 1p 4 15s 7 31 8 23z 5 gx6p 1 u 2o 3k 6o"]

/-- Characters with another single character as upper case. -/
def upperMapText : String :=
  String.join
   ["2p q 1 1r 2c 1 1 15a 17 n 1 1r o 7 1 1r 7 1 1 6q 2 o 2 1 1c 1 1 cv 2 3 2 1 7 8 2 1 h n 2 1 ",
    "1b 3 2 1 5 1 1 gn 1 1 1 au 3 2 2 1 5 1 1 1 4 1 1 1 6 1 1 1 3 1 1 5e 4 1 1 1 1 1 1 92 4 1 1 ",
    "78 3 3 2 1 7 1 1 1 5 1 1 1 3 1 1 1 4 2 2 1 5 1 1 1 4 1 1 1 2 1 1 34 6 1 1 1 1 1 1 3 2 1 1 ",
    "1 1 1 1 3 2 1 1 1 1 1 1 3 2 8 2 1 f 1 1 4d 2 9 2 1 j 1 1 1 1 1 1 3 2 1 1 1 4 k 2 1 16 9 2 ",
    "1 p 1 1 1 3 2 1 gou 3 1 1 1 5 5 2 1 9 1 1 gn2 1 1 1 gmw 1 1 1 gn0 1 1 1 bn 1 1 1 bf 2 2 1 ",
    "bd 3 1 1 b7 2 1 1 b9 1 1 1 1tb2 4 1 1 bd 1 1 1 1tau 2 1 1 bh 2 1 1 1t8w 1 1 1 1tag 2 1 1 ",
    "bl 1 1 1 bp 1 1 1 1tag 1 1 1 gku 1 1 1 1taa 3 1 1 bp 2 1 1 gl6 1 1 1 bt 3 1 1 bv 8 1 1 gjy ",
    "3 1 1 c3 2 1 1 1tae 1 1 1 c3 4 1 1 1t90 1 1 1 c3 1 1 1 3t 1 2 1 c1 2 1 1 3x 6 1 1 c5 b 1 1 ",
    "1t7u 1 1 1 1t7o 4n 1 1 4o 18 2 2 1 6 1 1 1 4 3 1 78 1d 1 1 23 1 3 1 21 4 h 1 1r h 1 1 1p 1 ",
    "9 1 1r 9 1 1 3j 1 2 1 3h 3 1 1 3f 1 1 1 35 4 1 1 2l 1 1 1 2z 1 1 1 f 2 c 2 1 n 1 1 4r 1 1 ",
    "1 4f 1 1 1 e 1 1 1 6f 2 1 1 5b 3 1 1 1 3 1 1 1 1h w 1 1r w g 1 4f h h 2 1 16 r 2 1 1j 7 2 ",
    "1 d 1 1 t 2 1c 2 1 40 12 1 2n 29b 17 1 4n4 19 3 1 4n4 l7 6 1 f 1oo 1 1 9nf 1 1 1 9nd 1 1 1 ",
    "9mv 1 2 1 9mr 2 1 1 9mt 1 1 1 9mf 1 1 1 9jd 1 1 1 1if8 6p 1 1 1iiw 4 1 1 5vw h 1 1 1ils 37 ",
    "23 2 1 4a 1 1 39 6 1c 2 1 2n 8 1 g g 6 1 g g 8 1 g g 8 1 g g 6 1 g h 4 2 g f 8 1 g g 2 1 ",
    "44 2 4 1 4s 4 2 1 5k 2 2 1 74 2 2 1 68 2 2 1 70 1g 2 1 g e 1 1 b49 i 2 1 g g 2 1 g 5 1 1 e ",
    "a1 1 1 1j y g 1 v k 1 1 1 ng q 1 1f 1gg 1c 1 2n 1d 1 1 1 4 1 1 gnp 1 1 1 gnj 2 3 2 1 b 1 1 ",
    "1 3 1 1 1 b 1e 2 1 2z 2 2 1 7 1 1 1 d 12 1 b7j 13 1 1 b7j 6 1 1 b7j nx0 n 2 1 1s e 2 1 4i ",
    "7 2 1 g v 2 1 1z 2 2 1 5 5 2 1 d 1 1 1 5 2 2 1 3 1 1 2o 3 a 2 1 u 8 2 1 j 2 2 1 9 1 1 1 6 ",
    "2 2 1 v 1 1 1 nx 1 1 1fj t 28 1 1nz3 gk1 q 1 1r yv 14 1 27 4w 10 1 27 5b b 1 25 c f 1 25 g ",
    "7 1 25 8 2 1 25 1dx 1f 1 3j 2dc w 1 1r gww w 1 1r o8y y 1 1v"]

/-- Characters with several characters as upper case. -/
def upperTextsText : String :=
  String.join
   ["67 2 2b 2b 95 2 jg 26 ds 2 22 lo pc 3 pl lk ld q8 3 px lk ld 13b 2 111 11u 61i 2 20 mp 61j ",
    "2 2c lk 61k 2 2f lm 61l 2 2h lm 61m 2 1t ji 66o 2 px lv 66q 3 px lv lc 66s 3 px lv ld 66u ",
    "3 px lv n6 680 2 64o pl 681 2 64p pl 682 2 64q pl 683 2 64r pl 684 2 64s pl 685 2 64t pl ",
    "686 2 64u pl 687 2 64v pl 688 2 64o pl 689 2 64p pl 68a 2 64q pl 68b 2 64r pl 68c 2 64s pl ",
    "68d 2 64t pl 68e 2 64u pl 68f 2 64v pl 68g 2 65k pl 68h 2 65l pl 68i 2 65m pl 68j 2 65n pl ",
    "68k 2 65o pl 68l 2 65p pl 68m 2 65q pl 68n 2 65r pl 68o 2 65k pl 68p 2 65l pl 68q 2 65m pl ",
    "68r 2 65n pl 68s 2 65o pl 68t 2 65p pl 68u 2 65q pl 68v 2 65r pl 68w 2 67c pl 68x 2 67d pl ",
    "68y 2 67e pl 68z 2 67f pl 690 2 67g pl 691 2 67h pl 692 2 67i pl 693 2 67j pl 694 2 67c pl ",
    "695 2 67d pl 696 2 67e pl 697 2 67f pl 698 2 67g pl 699 2 67h pl 69a 2 67i pl 69b 2 67j pl ",
    "69e 2 69m pl 69f 2 pd pl 69g 2 p2 pl 69i 2 pd n6 69j 3 pd n6 pl 69o 2 pd pl 69u 2 6a2 pl ",
    "69v 2 pj pl 69w 2 p5 pl 69y 2 pj n6 69z 3 pj n6 pl 6a4 2 pj pl 6aa 3 pl lk lc 6ab 3 pl lk ",
    "ld 6ae 2 pl n6 6af 3 pl lk n6 6aq 3 px lk lc 6ar 3 px lk ld 6as 2 pt lv 6au 2 px n6 6av 3 ",
    "px lk n6 6b6 2 6be pl 6b7 2 q1 pl 6b8 2 pb pl 6ba 2 q1 n6 6bb 3 q1 n6 pl 6bg 2 q1 pl 1dkw ",
    "2 1y 1y 1dkx 2 1y 21 1dky 2 1y 24 1dkz 3 1y 1y 21 1dl0 3 1y 1y 24 1dl1 2 2b 2c 1dl2 2 2b ",
    "2c 1dlf 2 11g 11i 1dlg 2 11g 111 1dlh 2 11g 117 1dli 2 11q 11i 1dlj 2 11g 119"]

/-- Characters with another single character as lower case. -/
def lowerMapText : String :=
  String.join
   ["1t q 1 1s 3j n 1 1s o 7 1 1s 14 o 2 2 1e 3 2 2 7 8 2 2 h n 2 2 1a 1 1 6p 1 3 2 2 8 1 1 bo ",
    "1 2 2 2 4 1 1 bg 1 1 1 2 2 2 1 be 2 1 1 2 3 1 1 4e 1 1 1 b8 1 1 1 ba 1 1 1 2 2 1 1 be 1 1 ",
    "1 bi 2 1 1 bq 1 1 1 bm 1 1 1 2 4 1 1 bq 1 1 1 bu 2 1 1 bw 1 3 2 2 6 1 1 c4 1 1 1 2 2 1 1 ",
    "c4 3 1 1 2 2 1 1 c4 1 1 1 2 2 2 1 c2 2 2 2 2 4 1 1 c6 1 1 1 2 4 1 1 2 8 1 1 4 1 1 1 2 2 1 ",
    "1 4 1 1 1 2 2 1 1 4 1 9 2 2 j 9 2 2 j 1 1 4 1 2 2 2 4 1 1 5d 1 1 1 33 1 k 2 2 14 1 1 77 2 ",
    "9 2 2 o 1 1 gnq 1 1 1 2 2 1 1 91 1 1 1 gnk 3 1 1 2 2 1 1 at 1 1 1 3u 1 1 1 3y 1 5 2 2 8a 2 ",
    "2 2 6 1 1 2 9 1 1 6g 7 1 1 24 2 3 1 22 4 1 1 3k 2 2 1 3i 3 h 1 1s i 9 1 1s 18 1 1 g 9 c 2 ",
    "2 s 1 1 3b 3 1 1 2 2 1 1 d 1 1 1 2 3 3 1 77 3 g 1 4g g w 1 1s 28 h 2 2 16 r 2 2 1i 1 1 u 1 ",
    "7 2 2 f 1c 2 2 2p 12 1 2o 29b 12 1 b7k 13 1 1 b7k 6 1 1 b7k k3 28 1 1nz4 28 6 1 g 1pc 17 1 ",
    "4n3 19 3 1 4n3 8z 23 2 2 4e 1 1 br1 2 1c 2 2 2w 8 1 f g 6 1 f g 8 1 f g 8 1 f g 6 1 f h 4 ",
    "2 f f 8 1 f w 8 1 f g 8 1 f g 8 1 f g 2 1 f 2 2 1 43 2 1 1 h c 4 1 4r 4 1 1 h c 2 1 f 2 2 ",
    "1 5j e 2 1 f 2 2 1 67 2 1 1 d c 2 1 73 2 2 1 6z 2 1 1 h 8a 1 1 bll 4 1 1 cxp 1 1 1 cqz 7 1 ",
    "1 1k 1a g 1 w z 1 1 2 mr q 1 1g 1fu 1c 1 2o 2o 1 1 2 2 1 1 gkt 1 1 1 5vv 1 1 1 gjx 3 3 2 2 ",
    "6 1 1 gmv 1 1 1 gl5 1 1 1 gn1 1 1 1 gmz 2 1 1 2 3 1 1 2 9 2 1 got 2 1e 2 2 2z 2 2 2 7 1 1 ",
    "2 nym n 2 2 1s e 2 2 4i 7 2 2 g v 2 2 1z 2 2 2 4 1 1 1iiv 1 5 2 2 d 1 1 2 2 1 1 1t8v 3 2 2 ",
    "2 6 a 2 2 k 1 1 1taf 1 1 1 1tb1 1 1 1 1tat 1 1 1 1ta9 1 1 1 1taf 2 1 1 1t7n 1 1 1 1t8z 1 1 ",
    "1 1t7t 1 1 1 1fk 1 8 2 2 g 1 1 2n 1 1 1 1tad 1 1 1 1ilr 1 2 2 2 9 1 1 2 6 2 2 2 v 1 1 2 ",
    "h7w q 1 1s yn 14 1 28 4w 10 1 28 5c b 1 26 c f 1 26 g 7 1 26 8 2 1 26 1d8 1f 1 3k 2e8 w 1 ",
    "1s gww w 1 1s o8w y 1 1w"]

/-- Characters with several characters as lower case. -/
def lowerTextsText : String :=
  "8g 2 2x lj"

/-- Characters with another single character as title case. -/
def titleMapText : String :=
  String.join
   ["2p q 1 1r 2c 1 1 15a 17 n 1 1r o 7 1 1r 7 1 1 6q 2 o 2 1 1c 1 1 cv 2 3 2 1 7 8 2 1 h n 2 1 ",
    "1b 3 2 1 5 1 1 gn 1 1 1 au 3 2 2 1 5 1 1 1 4 1 1 1 6 1 1 1 3 1 1 5e 4 1 1 1 1 1 1 92 4 1 1 ",
    "78 3 3 2 1 7 1 1 1 5 1 1 1 3 1 1 1 4 2 2 1 5 1 1 1 4 1 1 1 2 1 1 34 5 1 1 2 2 1 1 1 1 1 1 ",
    "2 2 1 1 1 1 1 1 2 2 9 2 1 h 1 1 4d 2 9 2 1 i 1 1 2 2 2 2 1 6 k 2 1 16 9 2 1 p 1 1 1 3 2 1 ",
    "gou 3 1 1 1 5 5 2 1 9 1 1 gn2 1 1 1 gmw 1 1 1 gn0 1 1 1 bn 1 1 1 bf 2 2 1 bd 3 1 1 b7 2 1 ",
    "1 b9 1 1 1 1tb2 4 1 1 bd 1 1 1 1tau 2 1 1 bh 2 1 1 1t8w 1 1 1 1tag 2 1 1 bl 1 1 1 bp 1 1 1 ",
    "1tag 1 1 1 gku 1 1 1 1taa 3 1 1 bp 2 1 1 gl6 1 1 1 bt 3 1 1 bv 8 1 1 gjy 3 1 1 c3 2 1 1 ",
    "1tae 1 1 1 c3 4 1 1 1t90 1 1 1 c3 1 1 1 3t 1 2 1 c1 2 1 1 3x 6 1 1 c5 b 1 1 1t7u 1 1 1 ",
    "1t7o 4n 1 1 4o 18 2 2 1 6 1 1 1 4 3 1 78 1d 1 1 23 1 3 1 21 4 h 1 1r h 1 1 1p 1 9 1 1r 9 1 ",
    "1 3j 1 2 1 3h 3 1 1 3f 1 1 1 35 4 1 1 2l 1 1 1 2z 1 1 1 f 2 c 2 1 n 1 1 4r 1 1 1 4f 1 1 1 ",
    "e 1 1 1 6f 2 1 1 5b 3 1 1 1 3 1 1 1 1h w 1 1r w g 1 4f h h 2 1 16 r 2 1 1j 7 2 1 d 1 1 t 2 ",
    "1c 2 1 40 12 1 2n 2vr 6 1 f 1oo 1 1 9nf 1 1 1 9nd 1 1 1 9mv 1 2 1 9mr 2 1 1 9mt 1 1 1 9mf ",
    "1 1 1 9jd 1 1 1 1if8 6p 1 1 1iiw 4 1 1 5vw h 1 1 1ils 37 23 2 1 4a 1 1 39 6 1c 2 1 2n 8 1 ",
    "g g 6 1 g g 8 1 g g 8 1 g g 6 1 g h 4 2 g f 8 1 g g 2 1 44 2 4 1 4s 4 2 1 5k 2 2 1 74 2 2 ",
    "1 68 2 2 1 70 4 8 1 g g 8 1 g g 8 1 g g 2 1 g 3 1 1 i b 1 1 b49 5 1 1 i d 2 1 g g 2 1 g 5 ",
    "1 1 e e 1 1 i 9n 1 1 1j y g 1 v k 1 1 1 ng q 1 1f 1gg 1c 1 2n 1d 1 1 1 4 1 1 gnp 1 1 1 gnj ",
    "2 3 2 1 b 1 1 1 3 1 1 1 b 1e 2 1 2z 2 2 1 7 1 1 1 d 12 1 b7j 13 1 1 b7j 6 1 1 b7j nx0 n 2 ",
    "1 1s e 2 1 4i 7 2 1 g v 2 1 1z 2 2 1 5 5 2 1 d 1 1 1 5 2 2 1 3 1 1 2o 3 a 2 1 u 8 2 1 j 2 ",
    "2 1 9 1 1 1 6 2 2 1 v 1 1 1 nx 1 1 1fj t 28 1 1nz3 gk1 q 1 1r yv 14 1 27 4w 10 1 27 5b b 1 ",
    "25 c f 1 25 g 7 1 25 8 2 1 25 1dx 1f 1 3j 2dc w 1 1r gww w 1 1r o8y y 1 1v"]

/-- Characters with several characters as title case. -/
def titleTextsText : String :=
  String.join
   ["67 2 2b 37 95 2 jg 26 ds 2 22 lo pc 3 pl lk ld q8 3 px lk ld 13b 2 111 136 61i 2 20 mp 61j ",
    "2 2c lk 61k 2 2f lm 61l 2 2h lm 61m 2 1t ji 66o 2 px lv 66q 3 px lv lc 66s 3 px lv ld 66u ",
    "3 px lv n6 69e 2 69m n9 69g 2 p2 n9 69i 2 pd n6 69j 3 pd n6 n9 69u 2 6a2 n9 69w 2 p5 n9 ",
    "69y 2 pj n6 69z 3 pj n6 n9 6aa 3 pl lk lc 6ab 3 pl lk ld 6ae 2 pl n6 6af 3 pl lk n6 6aq 3 ",
    "px lk lc 6ar 3 px lk ld 6as 2 pt lv 6au 2 px n6 6av 3 px lk n6 6b6 2 6be n9 6b8 2 pb n9 ",
    "6ba 2 q1 n6 6bb 3 q1 n6 n9 1dkw 2 1y 2u 1dkx 2 1y 2x 1dky 2 1y 30 1dkz 3 1y 2u 2x 1dl0 3 ",
    "1y 2u 30 1dl1 2 2b 38 1dl2 2 2b 38 1dlf 2 11g 12u 1dlg 2 11g 12d 1dlh 2 11g 12j 1dli 2 11q ",
    "12u 1dlj 2 11g 12l"]

/-- Characters with another single character as folded case. -/
def foldMapText : String :=
  String.join
   ["1t q 1 1s 38 1 1 172 b n 1 1s o 7 1 1s 14 o 2 2 1e 3 2 2 7 8 2 2 h n 2 2 1a 1 1 6p 1 3 2 2 ",
    "6 1 1 ev 2 1 1 bo 1 2 2 2 4 1 1 bg 1 1 1 2 2 2 1 be 2 1 1 2 3 1 1 4e 1 1 1 b8 1 1 1 ba 1 1 ",
    "1 2 2 1 1 be 1 1 1 bi 2 1 1 bq 1 1 1 bm 1 1 1 2 4 1 1 bq 1 1 1 bu 2 1 1 bw 1 3 2 2 6 1 1 ",
    "c4 1 1 1 2 2 1 1 c4 3 1 1 2 2 1 1 c4 1 1 1 2 2 2 1 c2 2 2 2 2 4 1 1 c6 1 1 1 2 4 1 1 2 8 1 ",
    "1 4 1 1 1 2 2 1 1 4 1 1 1 2 2 1 1 4 1 9 2 2 j 9 2 2 j 1 1 4 1 2 2 2 4 1 1 5d 1 1 1 33 1 k ",
    "2 2 14 1 1 77 2 9 2 2 o 1 1 gnq 1 1 1 2 2 1 1 91 1 1 1 gnk 3 1 1 2 2 1 1 at 1 1 1 3u 1 1 1 ",
    "3y 1 5 2 2 73 1 1 6g 17 2 2 2 6 1 1 2 9 1 1 6g 7 1 1 24 2 3 1 22 4 1 1 3k 2 2 1 3i 3 h 1 ",
    "1s i 9 1 1s v 1 1 2 d 1 1 g 1 1 1 1n 1 1 1 1d 4 1 1 t 1 1 1 17 2 c 2 2 o 1 1 2z 1 1 1 2n 3 ",
    "1 1 3b 1 1 1 3j 2 1 1 2 2 1 1 d 1 1 1 2 3 3 1 77 3 g 1 4g g w 1 1s 28 h 2 2 16 r 2 2 1i 1 ",
    "1 u 1 7 2 2 f 1c 2 2 2p 12 1 2o 29b 12 1 b7k 13 1 1 b7k 6 1 1 b7k mj 6 1 f 1oo 1 1 9ln 1 1 ",
    "1 9ll 1 1 1 9l3 1 2 1 9kz 2 1 1 9l1 1 1 1 9kn 1 1 1 9jb 1 1 1 1ifa 8 17 1 4n3 19 3 1 4n3 ",
    "8z 23 2 2 4b 1 1 37 5 1c 2 2 2w 8 1 f g 6 1 f g 8 1 f g 8 1 f g 6 1 f h 4 2 f f 8 1 f 28 2 ",
    "1 f 2 2 1 43 4 1 1 b2h a 4 1 4r g 2 1 f 2 2 1 5j e 2 1 f 2 2 1 67 2 1 1 d c 2 1 73 2 2 1 ",
    "6z 8c 1 1 bll 4 1 1 cxp 1 1 1 cqz 7 1 1 1k 1a g 1 w z 1 1 2 mr q 1 1g 1fu 1c 1 2o 2o 1 1 2 ",
    "2 1 1 gkt 1 1 1 5vv 1 1 1 gjx 3 3 2 2 6 1 1 gmv 1 1 1 gl5 1 1 1 gn1 1 1 1 gmz 2 1 1 2 3 1 ",
    "1 2 9 2 1 got 2 1e 2 2 2z 2 2 2 7 1 1 2 nym n 2 2 1s e 2 2 4i 7 2 2 g v 2 2 1z 2 2 2 4 1 1 ",
    "1iiv 1 5 2 2 d 1 1 2 2 1 1 1t8v 3 2 2 2 6 a 2 2 k 1 1 1taf 1 1 1 1tb1 1 1 1 1tat 1 1 1 ",
    "1ta9 1 1 1 1taf 2 1 1 1t7n 1 1 1 1t8z 1 1 1 1t7t 1 1 1 1fk 1 8 2 2 g 1 1 2n 1 1 1 1tad 1 1 ",
    "1 1ilr 1 2 2 2 9 1 1 2 6 2 2 2 v 1 1 2 or 28 1 1nz3 gj5 q 1 1s yn 14 1 28 4w 10 1 28 5c b ",
    "1 26 c f 1 26 g 7 1 26 8 2 1 26 1d8 1f 1 3k 2e8 w 1 1s gww w 1 1s o8w y 1 1w"]

/-- Characters with several characters as folded case. -/
def foldTextsText : String :=
  String.join
   ["67 2 37 37 8g 2 2x lj 95 2 jg 32 ds 2 2y lo pc 3 qh lk ld q8 3 qt lk ld 13b 2 12d 136 61i ",
    "2 2w mp 61j 2 38 lk 61k 2 3b lm 61l 2 3d lm 61m 2 2p ji 61q 2 37 37 66o 2 qt lv 66q 3 qt ",
    "lv lc 66s 3 qt lv ld 66u 3 qt lv n6 680 2 64g qh 681 2 64h qh 682 2 64i qh 683 2 64j qh ",
    "684 2 64k qh 685 2 64l qh 686 2 64m qh 687 2 64n qh 688 2 64g qh 689 2 64h qh 68a 2 64i qh ",
    "68b 2 64j qh 68c 2 64k qh 68d 2 64l qh 68e 2 64m qh 68f 2 64n qh 68g 2 65c qh 68h 2 65d qh ",
    "68i 2 65e qh 68j 2 65f qh 68k 2 65g qh 68l 2 65h qh 68m 2 65i qh 68n 2 65j qh 68o 2 65c qh ",
    "68p 2 65d qh 68q 2 65e qh 68r 2 65f qh 68s 2 65g qh 68t 2 65h qh 68u 2 65i qh 68v 2 65j qh ",
    "68w 2 674 qh 68x 2 675 qh 68y 2 676 qh 68z 2 677 qh 690 2 678 qh 691 2 679 qh 692 2 67a qh ",
    "693 2 67b qh 694 2 674 qh 695 2 675 qh 696 2 676 qh 697 2 677 qh 698 2 678 qh 699 2 679 qh ",
    "69a 2 67a qh 69b 2 67b qh 69e 2 67k qh 69f 2 q9 qh 69g 2 q4 qh 69i 2 q9 n6 69j 3 q9 n6 qh ",
    "69o 2 q9 qh 69u 2 67o qh 69v 2 qf qh 69w 2 q6 qh 69y 2 qf n6 69z 3 qf n6 qh 6a4 2 qf qh ",
    "6aa 3 qh lk lc 6ab 3 qh lk ld 6ae 2 qh n6 6af 3 qh lk n6 6aq 3 qt lk lc 6ar 3 qt lk ld 6as ",
    "2 qp lv 6au 2 qt n6 6av 3 qt lk n6 6b6 2 67w qh 6b7 2 qx qh 6b8 2 r2 qh 6ba 2 qx n6 6bb 3 ",
    "qx n6 qh 6bg 2 qx qh 1dkw 2 2u 2u 1dkx 2 2u 2x 1dky 2 2u 30 1dkz 3 2u 2u 2x 1dl0 3 2u 2u ",
    "30 1dl1 2 37 38 1dl2 2 37 38 1dlf 2 12s 12u 1dlg 2 12s 12d 1dlh 2 12s 12j 1dli 2 132 12u ",
    "1dlj 2 12s 12l"]

/-- Upper case characters. -/
def uppers : CharSet := CharSet.ofText upperSetText

/-- Lower case characters. -/
def lowers : CharSet := CharSet.ofText lowerSetText

/-- Title case characters. -/
def titles : CharSet := CharSet.ofText titleSetText

/-- Characters passed over in the context of a capital sigma. -/
def ignorables : CharSet := CharSet.ofText ignorableText

/-- The map to upper case. -/
def upperMap : CharMap := CharMap.ofText upperMapText

/-- The map to lower case. -/
def lowerMap : CharMap := CharMap.ofText lowerMapText

/-- The map to title case. -/
def titleMap : CharMap := CharMap.ofText titleMapText

/-- The map to folded case. -/
def foldMap : CharMap := CharMap.ofText foldMapText

/-- Upper case texts of characters that become several. -/
def upperTexts : CharTexts := CharTexts.ofText upperTextsText

/-- Lower case texts of characters that become several. -/
def lowerTexts : CharTexts := CharTexts.ofText lowerTextsText

/-- Title case texts of characters that become several. -/
def titleTexts : CharTexts := CharTexts.ofText titleTextsText

/-- Folded texts of characters that become several. -/
def foldTexts : CharTexts := CharTexts.ofText foldTextsText

/-- Whether a character is upper case. -/
def isUpper (c : Char) : Bool :=
  if c.toNat < 128 then c.isUpper else uppers.holds c

/-- Whether a character is lower case. -/
def isLower (c : Char) : Bool :=
  if c.toNat < 128 then c.isLower else lowers.holds c

/-- Whether a character is title case. -/
def isTitle (c : Char) : Bool :=
  if c.toNat < 128 then false else titles.holds c

/-- Whether a character has a case. -/
def isCased (c : Char) : Bool := isUpper c || isLower c || isTitle c

/-- Whether a character is passed over in the context of a capital sigma. -/
def isCaseIgnorable (c : Char) : Bool := ignorables.holds c

/-- The upper case of a character, when that is a single character. -/
def upperChar (c : Char) : Char :=
  if c.toNat < 128 then c.toUpper else upperMap.char c

/-- The lower case of a character, when that is a single character. -/
def lowerChar (c : Char) : Char :=
  if c.toNat < 128 then c.toLower else lowerMap.char c

/-- The upper case of a character. -/
def upperOf (c : Char) : List Char :=
  if c.toNat < 128 then [c.toUpper] else (upperTexts.text? c).getD [upperMap.char c]

/-- The lower case of a character, apart from its context. -/
def lowerOf (c : Char) : List Char :=
  if c.toNat < 128 then [c.toLower] else (lowerTexts.text? c).getD [lowerMap.char c]

/-- The title case of a character. -/
def titleOf (c : Char) : List Char :=
  if c.toNat < 128 then [c.toUpper] else (titleTexts.text? c).getD [titleMap.char c]

/-- The folded case of a character. -/
def foldOf (c : Char) : List Char :=
  if c.toNat < 128 then [c.toLower] else (foldTexts.text? c).getD [foldMap.char c]

/-! ## Texts -/

/-- The lower case of a character between the reversed text before it and the text after it. A
capital sigma that ends a word, case-ignorable characters passed over, becomes a final sigma. -/
def lowerIn (before : List Char) (c : Char) (after : List Char) : List Char :=
  if c.toNat == 0x3a3 then
    let precedes := ((before.dropWhile isCaseIgnorable).head?.map isCased).getD false
    let follows := ((after.dropWhile isCaseIgnorable).head?.map isCased).getD false
    if precedes && !follows then [Char.ofNat 0x3c2] else [Char.ofNat 0x3c3]
  else lowerOf c

/-- Upper case. -/
def upper (s : List Char) : List Char := s.flatMap upperOf

/-- Lower case of the rest of a text, given the reversed text before it. -/
def lowerFrom (before : List Char) : List Char → List Char
  | [] => []
  | c :: r => lowerIn before c r ++ lowerFrom (c :: before) r

/-- Lower case. -/
def lower (s : List Char) : List Char := lowerFrom [] s

/-- Folded case, for comparison without regard to case. -/
def fold (s : List Char) : List Char := s.flatMap foldOf

/-- The first character in title case and the rest in lower case. -/
def capitalize : List Char → List Char
  | [] => []
  | c :: r => titleOf c ++ lowerFrom [c] r

/-- Upper and lower case exchanged, given the reversed text before. -/
def swapFrom (before : List Char) : List Char → List Char
  | [] => []
  | c :: r =>
    (if isUpper c then lowerIn before c r else if isLower c then upperOf c else [c]) ++
      swapFrom (c :: before) r

/-- Upper and lower case exchanged. -/
def swapCase (s : List Char) : List Char := swapFrom [] s

/-- Every run of cased characters in title case, given the reversed text before. -/
def titleFrom (before : List Char) : List Char → List Char
  | [] => []
  | c :: r =>
    let inWord := (before.head?.map isCased).getD false
    (if inWord then lowerIn before c r else titleOf c) ++ titleFrom (c :: before) r

/-- Every run of cased characters in title case. -/
def titleCase (s : List Char) : List Char := titleFrom [] s

/-- Some character is upper case, and none is lower or title case. -/
def allUpper (s : List Char) : Bool :=
  s.any isUpper && !s.any (fun c => isLower c || isTitle c)

/-- Some character is lower case, and none is upper or title case. -/
def allLower (s : List Char) : Bool :=
  s.any isLower && !s.any (fun c => isUpper c || isTitle c)

/-- Upper and title case characters only after uncased ones, lower case ones only after cased
ones. `inWord` tells whether the character before is cased. -/
def titledFrom (inWord : Bool) : List Char → Bool
  | [] => true
  | c :: r =>
    if isUpper c || isTitle c then !inWord && titledFrom true r
    else if isLower c then inWord && titledFrom true r
    else titledFrom false r

/-- Some character is cased, and every word is in title case. -/
def allTitle (s : List Char) : Bool := s.any isCased && titledFrom false s

end Stencil.Text
