import Stencil.Text.Property
/-!
# Stencil.Text.Identifier -- identifiers

An identifier is a character of the class `XID_Start` or an underscore, followed by characters of
the class `XID_Continue`. Two spellings of an identifier are the same when their compatibility
normal forms are: characters are decomposed, marks are put in canonical order, and characters are
composed again.
-/

namespace Stencil.Text

/-- Characters that may start an identifier. -/
def startText : String :=
  String.join
   ["1t q 4 1 1 q 1b 1 a 1 4 1 5 n 1 v 1 cq 4 c e 5 7 1 1 1 3l 5 1 2 3 3 1 1 6 1 1 3 1 1 1 k 1 ",
    "2b 1 3v 8 4m 1 12 2 1 6 15 1z r 4 4 19 17 z 2 1 2r 1 1 f 2 7 2 a 3 2 1 g 1 1 u t 2h b 1 o ",
    "x 9 2 4 1 5 m 4 1 9 1 3 1 n p 7 b 5 o 1 6 h 16 1m 1i 3 1 i 1 7 a f g 4 8 2 2 2 m 1 7 1 1 3 ",
    "4 3 1 g 1 d 2 1 3 e 2 a 1 8 6 4 2 2 m 1 7 1 2 1 2 1 2 v 4 1 1 j 3 g 9 1 3 1 m 1 7 1 2 1 5 ",
    "3 1 i 1 f 2 n 1 b 8 2 2 2 m 1 7 1 2 1 5 3 1 u 2 1 3 f 1 h 1 1 6 3 3 1 4 3 2 1 1 1 2 3 2 3 ",
    "3 3 c m 1 1g 8 1 3 1 n 1 g 3 1 q 3 2 1 2 2 u 1 4 8 1 3 1 n 1 a 1 5 3 1 v 2 1 2 f 2 h 9 1 3 ",
    "1 15 2 1 g 1 5 3 8 3 o 6 5 i 3 o 1 9 1 1 2 7 1m 1c 1 1 d 7 1m 2 1 1 1 5 1 o 1 1 1 a 1 1 a ",
    "1 2 5 1 1 l 4 w 1 1r 8 1 10 r 5 37 17 k 1 g 6 4 4 3 1 3 2 7 3 4 d c 1 h 12 1 1 5 1 2 17 1 ",
    "99 1 4 2 7 1 1 1 4 2 15 1 4 2 x 1 4 2 7 1 1 1 4 2 f 1 1l 1 4 2 1v 11 g g 2e 2 6 3 h8 2 h 1 ",
    "q 5 23 3 b 7 i d j e i e d 1 3 f 1g z 1 4 1 1v 2h 7 15 1 1 5 1y a v 1d u 2 5 b 18 4 q 1i n ",
    "9 1h 2a 1 2l 1b h 8 1i u d 2 a 18 q 10 15 3 a 10 2 9 7 17 2 3 15 4 1 6 1 2 3 1 5 5c 1s 7q ",
    "2 6 2 12 2 6 2 8 1 1 1 1 1 1 1 v 2 1h 1 7 1 1 3 3 1 7 3 4 2 6 4 d 5 3 1 7 38 1 d 1 g d 2t ",
    "1 4 1 2 a 1 1 2 6 6 1 1 1 1 1 1 g 2 4 5 5 4 1 h 15 22f 6d 6 4 3 2 c 12 1 1 5 1 2 1k 7 1 g ",
    "n 9 7 1 7 1 7 1 7 1 7 1 7 1 7 1 7 fa 3 p 9 7 5 2 5 4 2e 6 3 1 2i 1 4 5 17 1 2m h w 1c g e8 ",
    "534 1s h3h 1v 1a 2 7h 3 g a 2 k 1b g v 2 28 13 9 2 2v 2 1s 5 2 1 1 1 5 o g 1 3 1 4 1 n t ",
    "1g e 1e 1q 6 3 1 1 2 b s a n p t 7 1b s 1 g 5 1 a a 5 1 15 n 3 1 8 k n 3 1 3 1e 1 1 3 2 2 ",
    "5 2 1 1 1 o 3 2 b 7 3 c 6 2 6 2 6 9 7 1 7 1 17 1 e 6 37 t 8mc c n 4 1d 6is a6 2 2y 12 7 c ",
    "5 5 1 1 a 1 d 1 5 1 1 1 2 1 2 1 30 x 3v 6 62 i 1s 2 1i 14 a 3b 1 1 1 3 1 1 1 1 1 1 1 1 3i ",
    "10 q 6 q b 1k 2 v 3 6 2 6 2 6 2 3 z c 1 q 1 j 1 2 1 f 2 e y 3f 1x 1h 7f t 3 1d 1b w d u 5 ",
    "12 a u 2 10 4 8 1 5 16 4e i 10 4 10 4 14 8 1g c b 1 f 1 7 1 2 1 b 1 f 1 7 1 2 1v 8n 9 m a ",
    "8 o 6 1 16 1 9 1x 6 2 1 1 18 1 2 3 1 2 n a n 9 v 1t j 1 2 a m a q 1y 1k 6 2 1s 1 f 4 1 3 1 ",
    "t 16 t 3 t z 8 1 s r 1i a m a j d i 32 21 1j 1f d 1f d 10 9o 16 6 2 26 t a 1 8 m 16 i 1a l ",
    "r n c 1h 1l 2 2 1 d 19 w p q 10 t 1 2 1 8 z 3 1 c 1c e 4 l 1 1 1 z i 1 p 2c 7 1 1 1 4 1 f ",
    "1 a 7 1b 12 8 2 2 2 m 1 7 1 2 1 5 3 1 i 1 c 5 4e 1h i 4 k 3 u 1c k 2 1 1 54 1b 15 4 10 1c ",
    "k 1 1n 17 d 1 1z r 11 7 55 18 38 1s v 8 2 1 2 8 1 2 1 o f 1 1 1 2m 8 2 13 g 1 1 1 s 1 a 14 ",
    "7 1 l 1 b 1a j 1 i 21 7b 9 1 11 h 1 1d u 34 7 1 2 1 12 l 1 p 6 1 2 1 w e 1 93 j 59 1 27 pm ",
    "2u 33 h 5g 218 2p f tr 34h g7 6nt ft 7 v h 27 h u i 1c g 4 v l 5 j j4 1s 3k 23 5 1 1u d 1s ",
    "2 1 1 s 4qg 8 ye 16 9 6w7 4 1 7 1 2 1 83 19 3 h 4 8 b0 1s4 2z 5 d 3 9 7 a 4me 2d 1 1z 1 2 ",
    "2 1 2 2 2 4 1 c 1 1 1 7 1 1t 1 4 2 8 1 7 1 s 1 4 1 5 1 1 3 7 1 9g 2 p 1 p 1 v 1 p 1 v 1 p ",
    "1 v 1 p 1 v 1 p 1 8 1f8 v dd 19 a 7 g 1 8x u i 18 z8 7 1 4 1 2 1 f 1 5h 1n 1w 7 1 xg 4 1 r ",
    "1 2 1 1 2 1 1 a 1 4 1 1 1 1 6 1 4 1 1 1 1 1 1 3 1 2 1 1 2 1 1 1 1 1 1 1 1 1 1 2 1 1 2 4 1 ",
    "7 1 4 1 4 1 1 1 a 1 h 5 3 1 5 1 h 3es wyo w 37d 7 66 2 4g2 e 5rl 2e7 f2 15u 3t7"]

/-- Characters that may continue an identifier. -/
def continueText : String :=
  String.join
   ["1c a 7 q 4 1 1 q 1b 1 a 1 1 1 2 1 5 n 1 v 1 cq 4 c e 5 7 1 1 1 h 39 1 2 3 3 1 1 6 5 1 1 1 ",
    "k 1 2b 1 3v 1 5 2 4m 1 12 2 1 6 15 8 19 1 1 1 2 1 2 1 1 8 r 4 4 t b 5 22 4 2u 1 8 2 a 1 j ",
    "2 1 g 1n 2 2t e 1i 4 1 2 1 2 1a i s 4 b 5 o 1 6 9 22 1 3l 2 a 1 j 1 8 2 2 2 m 1 7 1 1 3 4 ",
    "2 9 2 2 2 4 8 1 4 2 1 5 2 c a 1 1 1 2 3 1 6 4 2 2 m 1 7 1 2 1 2 1 2 2 1 1 5 4 2 2 3 3 1 7 ",
    "4 1 1 7 g b 3 1 9 1 3 1 m 1 7 1 2 1 5 2 a 1 3 1 3 2 1 f 4 2 a 9 7 1 3 1 8 2 2 2 m 1 7 1 2 ",
    "1 5 2 9 2 2 2 3 7 3 4 2 1 5 2 a 1 1 g 2 1 6 3 3 1 4 3 2 1 1 1 2 3 2 3 3 3 c 4 5 3 3 1 4 2 ",
    "1 6 1 e a g d 1 3 1 n 1 g 2 9 1 3 1 4 7 2 1 3 2 1 2 4 2 a g 4 1 8 1 3 1 n 1 a 1 5 2 9 1 3 ",
    "1 4 7 2 6 2 1 4 2 a 1 2 d d 1 3 1 1f 1 3 1 5 5 4 7 5 2 a a 6 1 3 1 i 3 o 1 9 1 1 2 7 3 1 4 ",
    "6 1 1 1 8 6 a 2 2 d 1m 5 f 1 a 13 2 1 1 1 5 1 o 1 1 1 n 2 5 1 1 1 6 2 a 2 4 w 1 n 2 6 a b ",
    "1 1 1 1 1 4 a 1 10 4 k 1 i 1 10 9 1 1l 22 6 26 2 12 1 1 5 1 2 17 1 99 1 4 2 7 1 1 1 4 2 15 ",
    "1 4 2 x 1 4 2 7 1 1 1 4 2 f 1 1l 1 4 2 1v 2 3 9 9 e g g 2e 2 6 3 h8 2 h 1 q 5 23 3 b 7 m 9 ",
    "m b k c d 1 3 1 2 c 2c 3 1 4 2 2 a x 3 1 b 6 2h 7 17 5 1y a v 1 c 4 c a 14 2 5 b 18 4 q 6 ",
    "b 11 s 4 1r 1 t 2 b 6 a d 1 8 e 1 g 1d 25 3 a h 9 c 38 c 1k 8 a 3 1d 2 9 7 17 2 3 g 3 1 13 ",
    "5 eu 2 6 2 12 2 6 2 8 1 1 1 1 1 1 1 v 2 1h 1 7 1 1 3 3 1 7 3 4 2 6 4 d 5 3 1 7 1u 2 j 1 s ",
    "1 d 1 g d 1f d 4 1 3 c h 1 4 1 2 a 1 1 2 6 6 1 1 1 1 1 1 g 2 4 5 5 4 1 h 15 22f 6d 6 9 c ",
    "12 1 1 5 1 2 1k 7 1 f o 9 7 1 7 1 7 1 7 1 7 1 7 1 7 1 7 1 w ed 3 p f 1 5 2 5 4 2e 2 2 2 3 ",
    "1 2i 1 4 5 17 1 2m h w 1c g e8 534 1s h3h 1v 1a 2 7h 3 s k 1c 4 a 1 37 11 9 2 2v 2 1s 5 2 ",
    "1 1 1 5 o 1i 4 1 j 1g c 1y a a 6 o 3 1 1 1d 2 10 c t 3 1t e b 6 v 1 1j 9 e 2 a 6 n 3 21 o ",
    "3 2 g 2 5 a 6 2 6 2 6 9 7 1 7 1 17 1 e 6 3f 1 2 2 a 6 8mc c n 4 1d 6is a6 2 2y 12 7 c 5 5 ",
    "c 1 d 1 5 1 1 1 2 1 2 1 30 x 3v 6 62 i 1s 2 1i 14 a 6 g g g 3 2 o 3 x 1 1 1 3 1 1 1 1 1 1 ",
    "1 1 3i j a 7 q 4 1 1 q b 2h 3 6 2 6 2 6 2 3 z c 1 q 1 j 1 2 1 f 2 e y 3f 1x 1h 3s 1 3m t 3 ",
    "1d f 1 v w d u 5 17 5 u 2 10 4 8 1 5 16 4e 2 a 6 10 4 10 4 14 8 1g c b 1 f 1 7 1 2 1 b 1 f ",
    "1 7 1 2 1v 8n 9 m a 8 o 6 1 16 1 9 1x 6 2 1 1 18 1 2 3 1 2 n a n 9 v 1t j 1 2 a m a q 1y ",
    "1k 6 2 1s 4 1 2 5 8 1 3 1 t 2 3 4 1 w t 3 t z 8 1 u p 1i a m a j d i 32 21 1j 1f d 1f d 14 ",
    "8 a 92 16 1 2 3 2 26 t a 1 8 x v m 16 l r n 9 1z v g 9 1o 7 1 d p 7 a 6 1h 1 a 4 4 8 10 2 ",
    "1 9 1x 4 4 1 d 1 1 z i 1 11 6 1 1t 7 1 1 1 4 1 f 1 a 7 1n 5 a 6 4 1 8 2 2 2 m 1 7 1 2 1 5 ",
    "1 a 2 2 2 3 2 1 6 1 5 7 2 7 3 5 3v 23 5 a 4 4 u 1y 1 1 8 a 4m 1i 2 9 n 6 y 1t 3 1 b a 12 ",
    "1l 7 a 1i r 2 f 4 a 6 7 55 1n 2t 22 l 8 2 1 2 8 1 2 1 u 1 2 2 9 c a 1y 8 2 1a 2 8 1 2 r 1r ",
    "8 1 8 22 3 1 i 21 7b 9 1 19 1 9 f a o u 2 m 1 e 21 7 1 2 1 18 3 1 1 2 1 9 8 a 6 6 1 2 1 11 ",
    "1 2 1 6 7 a 8m n 55 1 27 pm 2u 33 h 5g 218 2p f tr 34h g7 6nt ft 7 v 1 a 6 27 1 a 6 u 2 5 ",
    "b 1j 9 4 c a 9 l 5 j j4 1s 3k 23 4 1l 7 h 1s 2 1 2 b 2 e 4qg 8 ye 16 9 6w7 4 1 7 1 2 1 83 ",
    "19 3 h 4 8 b0 1s4 2z 5 d 3 9 7 a 3 2 3mp 1a 2 n f2 5 3 6 8 8 2 7 u 4 44 3 cb 2d 1 1z 1 2 2 ",
    "1 2 2 2 4 1 c 1 1 1 7 1 1t 1 4 2 8 1 7 1 s 1 4 1 5 1 1 3 7 1 9g 2 p 1 p 1 v 1 p 1 v 1 p 1 ",
    "v 1 p 1 v 1 p 1 8 2 1e e8 1j 4 1e 8 1 e 1 m 5 1 f uo v 69 7 1 h 2 7 1 2 1 5 5x 19 3 e 2 a ",
    "4 1 8x v h 1m yu 7 1 4 1 2 1 f 1 5h b 7 15 24 4 a x2 4 1 r 1 2 1 1 2 1 1 a 1 4 1 1 1 1 6 1 ",
    "4 1 1 1 1 1 1 3 1 2 1 1 2 1 1 1 1 1 1 1 1 1 1 2 1 1 2 4 1 7 1 4 1 4 1 1 1 a 1 h 5 3 1 5 1 ",
    "h 2lw a sm wyo w 37d 7 66 2 4g2 e 5rl 2e7 f2 15u 3t7 fcmt 6o"]

/-- Identifier characters whose decomposition is a single character. -/
def singleText : String :=
  String.join
   ["4q 1 1 41 b 1 1 172 5 1 1 45 5h 1 1 ev 8h 1 1 wf 1 1 1 45 1 1 1 wf 1 1 1 w1 1 1 1 39 1 1 1 ",
    "37 1 1 1 2x 1 1 1 vz 1 1 1 vx 14 1 1 6x 1 1 1 yx 1 1 1 yl 1 1 1 yd 1 1 1 4d 2k 2 1 3j 3 1 ",
    "1 2n 1d 1 1 ad j 1 1 13z 21 1 1 1n 1 1 1 1d 1 1 1 2h 3 1 1 t 1 1 1 17 q 1 1 2z 1 2 1 2n 3 ",
    "1 1 53 1 1 1 3j 4 1 1 4r 2kj 1 1 1r 2eo 1 1 bf9 1 1 1 b7x 1 2 2 bfb 3 1 1 bfb 1 1 1 ax3 1 ",
    "8 1 bfb 9 1 1 bfd 1 1 1 aph 1 1 1 bff 1 1 1 bfd 1 2 1 bfb 2 1 1 bf9 1 1 1 ber 1 2 1 anb 2 ",
    "1 1 3r 1 1 1 bex 1 2 1 bev 2 1 1 an5 1 2 1 an3 2 1 1 bez 2 1 1 bev 1 1 1 bet 1 1 1 b2j 1 1 ",
    "1 bet 1 1 1 anx 1 2 1 3f 2 1 1 bez 1 2 1 bet 2 1 1 3b 1 1 1 amt 1 1 1 bex 1 1 1 31 1 3 1 ",
    "a51 3 2 1 a43 2 1 1 bg1 1 1 1 bfl 1 2 1 bfh 2 2 1 a5j 2 1 1 a4t 1 2 1 a4l f 1 1 9yt z 1 1 ",
    "as1 1 1 1 bjl 1 1 1 arz 1 1 1 bbv 1 1 1 arp 1 1 1 bjn 1 1 1 arn 1 1 1 arl 1 1 1 arf 1 3 1 ",
    "arb 3 1 1 2f 1 1 1 aol 1 1 1 arb 1 1 1 21 1 1 1 aon 1 1 1 ar9 1 1 1 ard 1 4 1 arb 4 1 1 ",
    "ar7 1 2 1 aqp 2 1 1 b2r 1 2 1 aqh 2 1 1 8n 1 2 1 aqj 2 1 1 bk1 1 3 1 aqf 3 1 1 aa5 e7 1 1 ",
    "b2h 4z 1 1 cnj e 1 1 co1 h 1 1 cpp 1 1 1 cpj 1 1 1 cp1 1 1 1 col 1 1 1 bxx 1 1 1 cpl 1 4 1 ",
    "cph 4 1 1 cpf 1 2 1 cpb 2v 1 1 cxp 5 1 1 cfh 3 1 1 cw5 1 1 1 cxx 1 1 1 cxz 1 1 1 cy1 1 1 1 ",
    "cwb 1 1 1 clr 1 1 1 cy5 1 1 1 cy7 1 1 1 cy3 1 1 1 cwd 2 1 1 cy5 4 3 1 cy9 3 1 1 cyb 1 1 1 ",
    "cyd 7 1 1 cyb 2 1 1 bnd 2 1 1 cyj 2 1 1 czh 2 2 1 d03 3 1 1 cyb 1 2 1 d05 3 1 1 czv 1 1 1 ",
    "cy1 1 4 1 atl 4 1 1 cyn 3 1 1 bnb 1 1 1 bo3 1 1 1 bpx 1 1 1 bp9 6 1 1 d1d 1 2 1 czn 2 2 1 ",
    "czh o 1 1 d2l 4 1 1 d23 5 1 1 d29 3 1 1 d33 1 2 1 d3n 2 1 1 d37 1 1 1 d1p 4 1 1 d17 5 1 1 ",
    "d1d 3 1 1 d27 1 2 1 d2r 2 1 1 d2b 265 1 1 her 1 1 1 hfx 6q 1 1 r jt 1 1 dua 1 2 1 due 6w 2 ",
    "1 cpt 2 1 1 cgh 1 1 1 cpv 1 2 1 cgh 2 3 1 cpz 3 6 1 cgj 6 1 1 cp7 1 3 1 cqd 3 1 1 cp1 1 a ",
    "1 cqf a l 1 cm3 l 1 1 cnb 1 2 1 crl 2 2 1 chr 2 1 1 chl 1 1 1 chj 1 1 1 chb 1 1 1 ch5 1 1 ",
    "1 ch3 1 1 1 crn 1 1 1 cgz 1 1 1 cgx 1 2 1 crr 2 1 1 crp 1 2 1 crn 2 1 1 crh 1 1 1 crf 1 5 ",
    "1 crd 5 1 1 cr9 1 1 1 cr3 1 1 1 cql 1 1 1 cq9 1 1 1 cq1 1 2 1 cgx 2 3 1 cpl 3 2 1 cn9 2 1 ",
    "1 cn5 1 2 1 cmp 2 1 1 cmn 1 1 1 cm5 1 1 1 cm1 n4e 1 1 1s4j 1 1 1 1s4h 5v 1 1 1 3m 1 1 1u8t ",
    "1 1 1 1u8p 1 1 1 1u85 4 1 1 1twj 1 1 1 1tu3 o3 1 1 1nt 1 1 1 23 1 1 1 1uqt 1 1 1 p a 1 1 ",
    "1upj fbr 1 1 16y7 1 1 1 1lp5 1 1 1 15yn 1 1 1 16r9 1 1 1 1ilh 1 1 1 1vhh 1 1 1 1t8h 1 1 1 ",
    "zbp 1 1 1 zbr 1 1 1 1r3j 1 1 1 14s1 1 1 1 1slj 1 1 1 1r47 1 1 1 1not 1 1 1 1fm1 1 1 1 1c0j ",
    "1 1 1 19cx 1 1 1 18rx 1 1 1 18ab 1 1 1 15af 1 1 1 1kir 1 1 1 1jar 1 1 1 1htl 1 1 1 1gmp 1 ",
    "1 1 1a5x 1 1 1 14yl 1 1 1 11ld 1 1 1 1ve9 1 1 1 1tfx 1 1 1 1k4x 1 1 1 1hc5 1 1 1 19er 1 1 ",
    "1 zyb 1 1 1 1pk1 1 1 1 1i7h 1 1 1 19kb 1 1 1 185b 1 1 1 1nef 1 1 1 1b4r 1 1 1 18nj 1 1 1 ",
    "1ozf 1 1 1 1lpf 1 1 1 1j7j 1 1 1 1h0d 1 1 1 158b 1 1 1 1v0t 1 1 1 1u5p 1 1 1 1tpd 1 1 1 ",
    "1mmv 1 1 1 1k8r 1 1 1 1hdv 1 1 1 1fh3 1 1 1 1bvp 1 1 1 19i5 1 1 1 19df 1 1 1 16dr 1 1 1 ",
    "12q3 1 1 1 111v 1 1 1 101r 1 1 1 1eu5 1 1 1 1egp 1 1 1 1cu1 1 1 1 1aeh 1 1 1 14dx 1 1 1 ",
    "zup 1 1 1 17md 1 1 1 1rd1 1 1 1 1oxp 1 1 1 1dc7 1 1 1 1bpp 1 1 1 1haf 1 1 1 1erd 1 1 1 ",
    "16vf 1 1 1 12ub 1 1 1 1rdv 1 1 1 1pzl 1 1 1 1kkx 1 1 1 1j39 1 1 1 1im5 1 1 1 1d1b 1 1 1 ",
    "1cmp 1 1 1 134b 1 1 1 1trz 1 1 1 1bpr 1 1 1 1u5r 1 1 1 1u6p 1 1 1 1e9f 1 1 1 1ctt 1 1 1 ",
    "1adp 1 1 1 132f 1 1 1 17eb 1 1 1 1nh3 1 1 1 1kmr 1 1 1 17lp 1 1 1 1vm1 1 1 1 1q7j 1 1 1 ",
    "1okb 1 1 1 1gvn 1 1 1 1g4j 1 1 1 1tp3 1 1 1 1eq9 1 1 1 1v0r 1 1 1 1oqh 1 1 1 1voz 1 1 1 ",
    "1jjr 1 1 1 1mg1 1 1 1 1d3j 1 1 1 1tfz 1 1 1 1rmj 1 1 1 1fiv 1 1 1 1aa1 1 1 1 17rd 1 1 1 ",
    "1jzf 1 1 1 15s1 1 1 1 1jo3 1 1 1 1nft 1 1 1 1au5 1 1 1 1n6x 1 1 1 1g69 1 1 1 1vgx 1 1 1 ",
    "1ue5 1 1 1 1u8v 1 1 1 1l9t 1 1 1 1d7r 1 1 1 1b15 1 1 1 17px 1 1 1 14yl 1 1 1 1tsj 1 1 1 ",
    "1ta3 1 1 1 1r8b 1 1 1 1p2j 1 1 1 1md7 1 1 1 1ibv 1 1 1 1eph 1 1 1 13g1 1 1 1 11kp 1 1 1 ",
    "zxd 1 1 1 zud 1 1 1 1ty5 1 1 1 1lzd 1 1 1 1k4p 1 1 1 15xx 1 1 1 1p9v 1 1 1 1o1p 1 1 1 1nvj ",
    "1 1 1 1mul 1 1 1 1iot 1 1 1 1hub 1 1 1 1gk5 1 1 1 1ehh 1 1 1 1cub 1 1 1 1bv3 1 1 1 161v 1 ",
    "1 1 1a39 1 1 1 15nx 1 1 1 14f5 1 1 1 1u6h 1 1 1 1tyr 1 1 1 1t4x 1 1 1 1i25 1 1 1 18l7 1 1 ",
    "1 17u5 1 1 1 1p69 1 1 1 1opn 1 1 1 1nbl 1 1 1 1k31 1 1 1 1djj 1 1 1 1h0j 1 1 1 1vgn 1 1 1 ",
    "1s9r 1 1 1 1qbp 1 1 1 1plt 1 1 1 1onz 1 1 1 1gxh 1 1 1 1gnd 1 1 1 1c89 1 1 1 1byr 1 1 1 ",
    "14vt 1 1 1 1307 1 1 1 12vp 1 1 1 12k7 1 1 1 1v83 1 1 1 1ekv 1 1 1 1539 1 1 1 133z 1 1 1 ",
    "1odr 1 1 1 1vmv 1 1 1 1upt 1 1 1 1qcb 1 1 1 1q7v 1 1 1 1mix 1 1 1 1ks9 1 1 1 1hpf 1 1 1 ",
    "1fy5 1 1 1 1a4r 1 1 1 15l9 1 1 1 zn1 1 1 1 1m61 1 1 1 13cf 1 1 1 1u2j 1 1 1 1lsp 1 1 1 ",
    "1lm3 1 1 1 1jip 1 1 1 1izh 1 1 1 1gud 1 1 1 1gbr 1 1 1 1f45 1 1 1 1da5 1 1 1 12hv 1 1 1 ",
    "1uiv 1 1 1 1nwn 1 1 1 1391 1 1 1 1v0x 1 1 1 1px3 1 1 1 1j9z 1 1 1 1655 1 1 1 1oyh 1 1 1 ",
    "1oa1 1 1 1 1ll1 1 1 1 1h2f 1 1 1 138r 1 1 1 1u93 1 1 1 1ti5 1 1 1 1q7n 1 1 1 1me1 1 1 1 ",
    "1lwl 1 1 1 1ldf 1 1 1 1jp7 1 1 1 1gvv 1 1 1 1g5h 1 1 1 1cd5 1 1 1 18of 1 1 1 18nh 1 1 1 ",
    "154p 1 1 1 134f 1 1 1 1tuf 1 1 1 1izn 1 1 1 1ti7 1 1 1 1hrv 1 1 1 1god 1 1 1 19t7 1 1 1 ",
    "138b 1 1 1 10z9 1 1 1 102v 1 1 1 1ltl 1 1 1 1jdf 1 1 1 1bff 1 1 1 1e8n 1 1 1 1e3z 1 1 1 ",
    "1djh 1 1 1 1hf7 1 1 1 1i9v 1 1 1 17pj 1 1 1 1vnd 1 1 1 1axb 1 1 1 1ua1 1 1 1 1ucx 1 1 1 ",
    "1pdh 1 1 1 1nq5 1 1 1 1dg9 1 1 1 1qm5 1 1 1 1jnx 1 1 1 1m77 1 1 1 166v 1 1 1 18xj 1 1 1 ",
    "13ef 1 1 1 18fx 1 1 1 1pbj 1 1 1 1uon 1 1 1 1swp 3 1 1 1rvv 2 1 1 1mbf 3 1 1 1ugd 1 1 1 ",
    "1hav 1 1 1 1fvd 1 1 1 1ewn 1 1 1 1eut 1 1 1 1euh 1 1 1 1es7 1 1 1 130r 1 1 1 1dj1 1 1 1 ",
    "1cch 2 1 1 19uj 2 1 1 17wz 3 1 1 15uh 1 1 1 15jl 4 1 1 12et 1 1 1 12e5 1 1 1 12br 1 1 1 ",
    "10j5 1 1 1 15lr 1 1 1 13an 1 1 1 1vcz 1 1 1 1uvn 1 1 1 1uq1 1 1 1 1u4z 1 1 1 1u3j 1 1 1 ",
    "1txj 1 1 1 1t0x 1 1 1 1sv5 1 1 1 1spr 1 1 1 1rzl 1 1 1 1rtv 1 1 1 1qct 1 1 1 1qcb 1 1 1 ",
    "1opd 1 1 1 1odn 1 1 1 1obl 1 1 1 1o63 1 1 1 1mub 1 1 1 1mm7 1 1 1 1mcj 1 1 1 1lkt 1 1 1 ",
    "1jmj 1 1 1 1jdj 1 1 1 1iyx 1 1 1 1i2b 1 1 1 1hrv 1 1 1 1gzz 1 1 1 1f8z 1 1 1 1ezf 1 1 1 ",
    "1eyv 1 1 1 1eyz 1 1 1 1eyl 1 1 1 1eyb 1 1 1 1exz 1 2 1 1evd 2 1 1 1elj 1 1 1 1ehz 1 1 1 ",
    "1e0b 1 1 1 1d51 1 1 1 1d3x 1 1 1 1d0v 1 1 1 1cjz 1 1 1 1cbv 1 1 1 1bkt 1 1 1 1bd3 1 1 1 ",
    "1bd5 1 1 1 1amn 1 1 1 18rj 1 1 1 18k5 1 1 1 1801 1 1 1 17wz 1 1 1 17a9 1 1 1 177d 1 1 1 ",
    "165b 1 1 1 15y5 1 1 1 13bd 1 1 1 12vn 1 1 1 12sd 1 1 1 1otn 1 1 1 3ls4 1 1 1 1bjd 3 1 1 ",
    "1w2b 1 1 1 1unr 1 1 1 1us3 1 1 1 1vj9 1 1 1 1uu5 1 1 1 1uqx 1 1 1 1u8t 1 1 1 1u61 1 1 1 ",
    "1t4l 1 1 1 1t8n 1 1 1 1t4x 1 1 1 1t0x 1 1 1 1s1v 1 1 1 1rwz 1 1 1 1roz 1 1 1 1ro5 1 1 1 ",
    "1r97 1 1 1 1qy9 1 1 1 1pi7 1 1 1 1phv 1 1 1 1p9x 1 1 1 1p67 1 1 1 1opn 1 1 1 1oj5 1 1 1 ",
    "1on3 1 1 1 1ofp 1 1 1 1oib 1 1 1 1oa9 1 1 1 1o6n 1 1 1 1nkh 1 1 1 1nfn 1 1 1 1ncp 1 1 1 ",
    "1myb 1 1 1 1mih 1 1 1 1m9h 1 1 1 1m9b 1 1 1 1m63 1 1 1 1kjb 1 1 1 1kfr 1 1 1 1ju3 1 1 1 ",
    "1j7d 1 1 1 1j8b 1 1 1 1j3j 1 1 1 1ipl 1 1 1 1i6z 1 1 1 1fqj 1 1 1 1hw1 1 1 1 1hpb 1 1 1 ",
    "1hij 1 1 1 1h0f 1 1 1 1gs7 1 1 1 1gpb 1 1 1 1gct 1 1 1 1gcr 1 1 1 1g3b 1 1 1 1g2f 1 1 1 ",
    "1g13 1 1 1 1fwd 1 1 1 1fwz 1 1 1 1fb1 1 1 1 1ek5 1 1 1 1e55 1 1 1 1dut 1 1 1 1dif 1 1 1 ",
    "1d9z 1 1 1 1crp 1 1 1 1cgp 1 1 1 1b5t 1 1 1 1ax5 1 1 1 19iv 1 1 1 18tl 1 1 1 18pt 1 1 1 ",
    "18oz 1 1 1 188j 1 1 1 185f 1 1 1 187z 1 1 1 1851 1 1 1 1859 1 1 1 1869 1 1 1 1823 1 1 1 ",
    "17xn 1 1 1 17ch 1 1 1 16hf 1 1 1 1601 1 1 1 15jp 1 1 1 157h 1 1 1 13mb 1 1 1 13gn 1 1 1 ",
    "13ab 1 1 1 132z 1 1 1 1311 1 1 1 130f 1 1 1 12xt 1 1 1 11th 1 1 1 100z 1 1 1 3b3q 1 1 1 ",
    "3b3c 1 1 1 3fns 1 1 1 23jd 1 1 1 21rp 1 1 1 21px 1 1 1 3roo 1 1 1 3vuc 1 1 1 49a0 1 1 1 ",
    "106h 1 1 1 102d 1z 1 1 2ovv 1 1 1 2owx 1 2 1 2owt 2 3 1 2owh 3 1 1 2ovx 1 1 1 2ovv 14 1 1 ",
    "2oql 1 1 1 2oqn 1 1 1 2oq5 1 1 1 2oq7 1 1 1 2oq9 1 1 1 2oqb 1 1 1 2oq7 1 1 1 2oq9 1 1 1 ",
    "2oqb 1 1 1 2oqd 1 1 1 2oqb 1 1 1 2oqd 1 1 1 2oqf 1 1 1 2oqh 1 1 1 2oqv 1 1 1 2oqx 1 1 1 ",
    "2oqz 1 1 1 2or1 1 1 1 2oqt 1 1 1 2oqv 1 1 1 2oqx 1 1 1 2oqz 1 1 1 2ord 1 1 1 2orf 1 1 1 ",
    "2orh 1 1 1 2orj 1 1 1 2op7 1 1 1 2op9 1 1 1 2opb 1 1 1 2opd 1 1 1 2opb 1 1 1 2opd 1 1 1 ",
    "2opf 1 1 1 2oph 1 1 1 2orf 1 1 1 2orh 1 1 1 2orj 1 1 1 2orl 1 1 1 2orp 1 1 1 2orr 1 1 1 ",
    "2ort 1 1 1 2orv 1 1 1 2orr 1 1 1 2ort 1 1 1 2orv 1 2 1 2orx 2 1 1 2orz 1 1 1 2os1 1 1 1 ",
    "2os3 1 1 1 2ort 1 1 1 2orv 1 1 1 2orz 1 1 1 2os1 1 1 1 2orz 1 1 1 2os1 1 1 1 2osf 1 1 1 ",
    "2osh 1 1 1 2orn 1 1 1 2orp 1 1 1 2os5 1 1 1 2os7 1 1 1 2oqx 1 1 1 2oqz 1 1 1 2or1 1 1 1 ",
    "2or3 1 1 1 2oqt 1 1 1 2oqv 1 1 1 2oqx 1 1 1 2oqz 1 1 1 2oqt 1 1 1 2oqv 1 1 1 2oqx 1 1 1 ",
    "2oqz 1 1 1 2or5 1 1 1 2or7 1 1 1 2or9 1 1 1 2orb 1 1 1 2oqv 1 2 1 2oqx 2 1 1 2oqz 1 1 1 ",
    "2or1 1 1 1 2or3 3 1 1 2oqx 1 1 1 2oqz 1 1 1 2or1 1 1 1 2or3 1 1 1 2orb 1 1 1 2ord 1 1 1 ",
    "2orf 1 1 1 2orh 1 1 1 2oqf 1 1 1 2oqh 10 1 1 2ouj 1 1 1 2oul 1 1 1 2oun 1 1 1 2oup 1 1 1 ",
    "2otb 1 1 1 2otd 1 1 1 2oth 1 1 1 2otj 1 1 1 2oth 1 1 1 2otj 2 1 1 2oth 1 1 1 2otj 1 1 1 ",
    "2otx 1 1 1 2otz 1 1 1 2ott 1 1 1 2otv 1 1 1 2otj 1 1 1 2otl 1 1 1 2otn 1 1 1 2otp 1 1 1 ",
    "2p19 1 1 1 2p1b j 1 1 2ov3 1 1 1 2ov5 1 1 1 2ov7 1 1 1 2ov9 fo 1 1 2s9z 1 1 1 2sa1 p 1 1 ",
    "2sbf 1 1 1 2sbh 1 1 1 2sbj 1d 1 1 2q4d d 1 1 2q4r 1 2 1 2q4t 2 1 1 2q4v 1 1 1 2q4x 1 2 1 ",
    "2q4z 2 2 1 2q51 2 1 1 2q53 1 1 1 2q55 1 2 1 2q57 2 1 1 2q59 1 1 1 2q5b 1 2 1 2q5d 2 1 1 ",
    "2q5f 1 1 1 2q5h 1 2 1 2q5j 2 1 1 2q5l 1 1 1 2q5n 1 2 1 2q5p 2 1 1 2q5r 1 1 1 2q5t 1 2 1 ",
    "2q5v 2 2 1 2q5x 2 2 1 2q5z 2 2 1 2q61 2 2 1 2q63 2 1 1 2q65 1 1 1 2q67 1 2 1 2q69 2 1 1 ",
    "2q6b 1 1 1 2q6d 1 2 1 2q6f 2 1 1 2q6h 1 1 1 2q6j 1 2 1 2q6l 2 1 1 2q6n 1 1 1 2q6p 1 2 1 ",
    "2q6r 2 1 1 2q6t 1 1 1 2q6v 1 2 1 2q6x 2 1 1 2q6z 1 1 1 2q71 1 2 1 2q73 2 1 1 2q75 1 1 1 ",
    "2q77 1 2 1 2q79 2 1 1 2q7b 1 1 1 2q7d 1 1 1 2q7f 1 1 1 2q73 1 1 1 2q75 1 1 1 2q77 1 2 1 ",
    "2q79 2 1 1 2q7b 1 1 1 2q7d 1 2 1 2q7f 2 1 1 2q7h 1 1 1 2q7j 1 2 1 2q7l 2 1 1 2q7n 1 1 1 ",
    "2q7p 1 2 1 2q7r 2 1 1 2q7t 1 1 1 2q7v 1 2 1 2q7x 2 1 1 2q7z 1 1 1 2q81 1 2 1 2q83 2 1 1 ",
    "2q85 1 1 1 2q87 1 2 1 2q89 2 2 1 2q8b 2 2 1 2q8d 2 1 1 2q8f 1 1 1 2q8h 1 1 1 2q8j s a 1 ",
    "2sov h q 1 2sov u 2 2 2sov 3 p 1 2sov 10 1 1 29k7 1 1 1 29or 1 1 1 29op 1 1 1 29on 1 1 1 ",
    "29ol 1 1 1 29oj 1 1 1 29ld 1 1 1 29lb 1 1 1 29l9 1 1 1 29nb 1 1 1 29k7 1 1 1 29p9 1 1 1 ",
    "29p7 1 1 1 29p5 1 1 1 29p3 1 2 1 29p1 2 1 1 29oz 1 1 1 29ox 1 1 1 29ov 1 1 1 29ot 1 1 1 ",
    "29or 1 1 1 29op 1 1 1 29on 1 1 1 29ol 1 1 1 29oj 1 1 1 29oh 1 1 1 29of 1 1 1 29ob 1 1 1 ",
    "29o9 1 1 1 29o7 1 6 1 29o5 6 1 1 29o1 1 1 1 29nx 1 1 1 29nt 1 1 1 29np 1 5 1 29nl 5 1 1 ",
    "29nj 1 1 1 29nh 1 6 1 29nf 6 1 1 29nd 1 1 1 29n7 1 2 1 29s9 2 1 1 2m4f 1 2 1 2m9t 2 1 1 ",
    "2m0h 1 1 1 2m9v 1 2 1 2m0h 2 3 1 2m9z 3 6 1 2m0j 6 1 1 2m97 1 3 1 2mad 3 1 1 2m91 1 a 1 ",
    "2maf d 6 1 2m69 8 6 1 2m6d 8 6 1 2m6h 8 3 1 2m6l 1if 2 1 2uzl 2 1 1 2vqx 1 1 1 2v2t 1 1 1 ",
    "2v6r 2 1 1 2v2f 1 1 1 10eb 1 1 1 2v2f 1 1 1 2v2j 1 2 1 2v6x 2 1 1 2kfr 1 1 1 2v6z 1 1 1 ",
    "2v6p 1 1 1 2v2l 1 1 1 2v6h 1 1 1 2v6n 1 1 1 2v6t 1 1 1 2v3l 1 1 1 2vob 1 1 1 2v3n 1 1 1 ",
    "2v6n 1 1 1 2v53 1 2 1 2v31 2 1 1 2v6l 1 1 1 2d3k 1 1 1 11y5 1 1 1 2v6n 1 1 1 2d3g 1 1 1 ",
    "2v4z 1 1 1 2d3e 1 1 1 2vrn 1 2 1 2v6h 2 1 1 2vzb 1 1 1 2v6f 1 1 1 2d36 1 2 1 2v6d 2 1 1 ",
    "2v6b 1 1 1 2v45 1 1 1 2v4b 1 1 1 10gb 1 1 1 2v4d 1 1 1 2v65 1 1 1 2em5 2 1 1 2v5x 1 2 1 ",
    "2v4z 2 1 1 2v5l 1 3 1 2vhn 3 1 1 2d2a 1 1 1 2d3c 14cm q 1 54sd q q 1 54s1 q q 1 54v9 q 7 1 ",
    "54ux 8 i 1 54ux i q 1 54y5 q q 1 54xt q 2 2 5511 3 1 1 5511 3 1 1 5511 3 2 1 5511 4 4 1 ",
    "5511 5 8 1 5511 8 4 1 550p 5 2 2 550p 3 6 1 550p 7 b 1 550p b q 1 553x q q 1 553l q 2 1 ",
    "556t 3 4 1 556t 6 8 1 556t 9 7 1 556t 8 q 1 556h q 2 1 559p 3 4 1 559p 5 5 1 559p 6 1 1 ",
    "559p 4 7 1 559p 8 q 1 559d q q 1 55cl q q 1 55c9 q q 1 55fh q q 1 55f5 q q 1 55id q q 1 ",
    "55i1 q q 1 55l9 q q 1 55kx q q 1 55o5 q q 1 55nt q q 1 55r1 q q 1 55qp q 1 1 55gl 1 1 1 ",
    "5523 3 h 1 54j1 h 1 1 54jl 1 7 1 54j1 8 p 1 54ip q 1 1 54jx 1 1 1 54jt 1 1 1 54jr 1 1 1 ",
    "54j5 1 1 1 54jh 1 1 1 54jl 1 h 1 54m9 h 1 1 54mt 1 7 1 54m9 8 p 1 54lx q 1 1 54n5 1 1 1 ",
    "54n1 1 1 1 54mz 1 1 1 54md 1 1 1 54mp 1 1 1 54mt 1 h 1 54ph h 1 1 54q1 1 7 1 54ph 8 p 1 ",
    "54p5 q 1 1 54qd 1 1 1 54q9 1 1 1 54q7 1 1 1 54pl 1 1 1 54px 1 1 1 54q1 1 h 1 54sp h 1 1 ",
    "54t9 1 7 1 54sp 8 p 1 54sd q 1 1 54tl 1 1 1 54th 1 1 1 54tf 1 1 1 54st 1 1 1 54t5 1 1 1 ",
    "54t9 1 h 1 54vx h 1 1 54wh 1 7 1 54vx 8 p 1 54vl q 1 1 54wt 1 1 1 54wp 1 1 1 54wn 1 1 1 ",
    "54w1 1 1 1 54wd 1 1 1 54wh 1 2 1 54uz 4 a 1 56bf a a 1 56bz a a 1 56cj a a 1 56d3 a a 1 ",
    "56dn 4cq 2 1 5cq9 2 1 1 5cq3 1 1 1 5cpz 2 1 1 5cop 1 1 1 5cpz 1 1 1 5cqb 1 1 1 5cpt 1 1 1 ",
    "5cot 1 4 1 5cp9 4 1 1 5cqd 1 1 1 5cq3 1 1 1 5cpp 1 1 1 5cqf 1 1 1 5cpr 1 1 1 5cqr 1 1 1 ",
    "5cqn 1 2 1 5cr9 2 1 1 5cr5 1 1 1 5cr3 1 1 1 5cqt 1 1 1 5cqr 1 1 1 5cqp 1 1 1 5cnv 1 1 1 ",
    "5cjp 1 1 1 5cl5 1 1 1 5cnz 2 1 1 5cs1 1 1 1 5crv 2 1 1 5cqh 3 1 1 5cs3 2 1 1 5cql 1 4 1 ",
    "5cr1 4 1 1 5cs5 1 1 1 5crv 1 1 1 5crh 1 1 1 5cs7 1 1 1 5crj 2 1 1 5csf 1 2 1 5ct1 2 1 1 ",
    "5csx 2 1 1 5csl 2 1 1 5csh 7 1 1 5ctn 5 1 1 5ctv 2 1 1 5csd 2 2 2 5cst 3 1 1 5ctx 1 1 1 ",
    "5ctn 2 1 1 5ctz 1 1 1 5ctb 2 1 1 5cu7 3 1 1 5cup 2 1 1 5cud 2 1 1 5cu9 2 1 1 5cn9 2 1 1 ",
    "5crj 2 1 1 5cvl 1 1 1 5cvf 2 1 1 5cu1 3 1 1 5cvn 1 1 1 5cv5 1 1 1 5cu5 1 2 2 5cul 3 1 1 ",
    "5cul 1 1 1 5cvp 1 1 1 5cvf 1 1 1 5cv1 1 1 1 5cvr 1 1 1 5cv3 2 1 1 5cvz 1 2 1 5cwl 2 1 1 ",
    "5cwh 2 1 1 5cw5 1 1 1 5cw3 1 1 1 5cw1 1 1 1 5ct7 2 1 1 5cqh 2 2 1 5cxd 2 1 1 5cx7 1 1 1 ",
    "5cx3 1 2 1 5cvt 2 1 1 5cx3 1 1 1 5cxf 1 1 1 5cwx 1 1 1 5cvx 2 3 1 5cwd 3 1 1 5cxh 1 1 1 ",
    "5cx7 1 1 1 5cwt 1 1 1 5cxj 1 1 1 5cwv 1 1 1 5cxv 1 1 1 5cxr 1 2 1 5cyd 2 1 1 5cy9 1 1 1 ",
    "5cy7 1 1 1 5cxx 1 1 1 5cxv 1 1 1 5cxt 6 1 1 5cz5 1 1 1 5cyz 1 1 1 5cyv 2 1 1 5cxl 1 1 1 ",
    "5cyv 1 1 1 5cz7 1 1 1 5cyp 1 1 1 5cxp 2 3 1 5cy5 3 1 1 5cz9 1 1 1 5cyz 1 1 1 5cyl 1 1 1 ",
    "5czb 1 1 1 5cyn 1 1 1 5czn 1 1 1 5czj 1 2 1 5d05 2 1 1 5d01 1 1 1 5czz 1 1 1 5czp 1 1 1 ",
    "5czn 1 1 1 5czl 2lx a 1 5klb 1dsg 1 1 7hc5 1 1 1 7hch 1 1 1 7hc1 1 1 1 2pj5 1 1 1 7gw7 1 1 ",
    "1 7grx 1 1 1 7gr9 1 1 1 7gnd 1 1 1 7ggr 1 1 1 7gf3 1 1 1 7gat 1 1 1 7gc7 1 1 1 7rh7 1 1 1 ",
    "2nj9 1 1 1 7g5d 1 1 1 7g51 1 1 1 7g47 1 1 1 7g37 1 1 1 2nzf 1 1 1 7rg3 1 1 1 7g49 1 1 1 ",
    "7g27 1 1 1 2nx1 1 1 1 7g1r 1 1 1 7g13 1 1 1 7h5l 1 1 1 7g0r 1 1 1 7g0b 1 1 1 14e1 1 1 1 ",
    "7fwv 1 1 1 7fw5 1 1 1 7ren 1 1 1 7ft5 1 1 1 7fsl 1 1 1 7fq7 1 1 1 7fpz 1 1 1 7rbx 1 1 1 ",
    "7fln 1 1 1 7fll 1 1 1 7fk5 1 1 1 7fiz 1 2 1 7fif 2 1 1 7fhj 1 1 1 7fet 1 1 1 7fef 1 1 1 ",
    "7fdz 1 1 1 7fcn 1 1 1 7fc5 1 1 1 7fc3 1 1 1 7fc5 1 1 1 7fc7 1 1 1 2m1b 1 1 1 73wp 1 1 1 ",
    "7f87 1 1 1 7f73 1 1 1 2lk9 1 1 1 7f6j 1 1 1 7f69 1 1 1 7f55 1 1 1 7ewr 1 1 1 7f2h 1 1 1 ",
    "7f1n 1 1 1 7ezx 1 1 1 7ewr 1 1 1 7es5 1 1 1 7eqr 1 1 1 7en3 1 1 1 7em9 1 1 1 7ekh 1 1 1 ",
    "7ekj 1 1 1 7ejf 1 1 1 7eih 1 1 1 7ei3 1 1 1 7ehb 1 1 1 7dyh 1 1 1 7edn 1 1 1 7dyj 1 1 1 ",
    "7e9l 1 1 1 7e7p 1 1 1 7fyp 1 1 1 7d8l 1 1 1 7don 1 1 1 7dml 1 1 1 7dl9 1 1 1 7dsj 1 1 1 ",
    "7djb 1 1 1 7djf 1 1 1 7dcn 1 1 1 2hux 1 1 1 7d8v 1 1 1 7d8n 1 1 1 7d7v 1 1 1 7d6t 1 1 1 ",
    "7d6f 1 1 1 7d2x 1 1 1 2h67 1 1 1 2h2l 1 1 1 7cvf 1 1 1 7csv 1 1 1 7cs9 1 1 1 7cwp 1 1 1 ",
    "7cov 1 1 1 7qpd 1 1 1 7qon 1 1 1 7cg1 1 1 1 7cd3 1 1 1 7cd5 1 1 1 2fyf 1 1 1 7c5v 1 1 1 ",
    "7c4r 1 1 1 7c3z 1 1 1 7c3d 1 1 1 2fg1 1 1 1 7c2t 1 1 1 7c2h 1 1 1 7arl 1 1 1 7c11 1 1 1 ",
    "7qi1 1 1 1 7bxp 1 1 1 7bwz 1 1 1 7bsh 1 1 1 7bvd 1 1 1 2ect 1 1 1 7bld 1 1 1 2ect 1 1 1 ",
    "7bj3 1 1 1 7bjb 1 1 1 7bif 1 2 1 7bcv 2 1 1 7q93 1 1 1 7bbh 1 1 1 7b95 1 1 1 7b81 1 1 1 ",
    "7b5n 1 1 1 7q6j 1 1 1 2cy3 1 1 1 7q57 1 1 1 7b1x 1 1 1 7b1t 1 1 1 7b1p 1 1 1 7b0n 1 1 1 ",
    "xkp 1 1 1 7axv 1 1 1 2can 1 1 1 2cap 1 1 1 6x43 1 1 1 7aw3 1 1 1 7aw5 1 1 1 7q1p 1 1 1 ",
    "2665 1 1 1 1njv 1 1 1 7ast 1 1 1 7asd 1 1 1 7q0f 1 1 1 7apv 1 1 1 7an3 1 1 1 7aml 1 1 1 ",
    "7akr 1 1 1 7ad9 1 1 1 7pvx 1 1 1 7pxn 1 1 1 7acd 1 1 1 2avz 1 1 1 7a9n 1 1 1 7a2j 1 1 1 ",
    "7a2d 1 1 1 7a2b 1 1 1 7a2h 1 1 1 79zz 1 1 1 79yx 1 1 1 79wz 1 1 1 79xt 1 1 1 79x9 1 1 1 ",
    "79up 1 1 1 79tn 1 1 1 79th 1 1 1 79s3 1 1 1 79rj 1 1 1 79nx 1 1 1 79jb 1 1 1 79hf 1 1 1 ",
    "79al 1 1 1 2993 1 1 1 79br 1 1 1 79ff 1 1 1 799h 1 1 1 7981 1 1 1 792p 1 1 1 28wp 1 1 1 ",
    "78zd 1 1 1 794l 1 1 1 7967 1 1 1 7pk7 1 1 1 78vn 1 1 1 78uj 1 1 1 78sv 1 1 1 78v1 1 1 1 ",
    "7ph1 1 1 1 78j5 1 1 1 78hl 1 1 1 27b3 1 1 1 78b3 1 1 1 77vr 1 1 1 785j 1 1 1 7p7t 1 1 1 ",
    "781n 1 1 1 7p8v 1 1 1 7pax 1 1 1 7gcf 1 1 1 7gcb 1 1 1 77vr 1 1 1 781d 1 1 1 6xqp 1 1 1 ",
    "7lrv 1 1 1 77up 1 1 1 77uj 1 1 1 77u9 1 1 1 77qx 1 1 1 77rl 1 1 1 25v7 1 1 1 7p61 1 1 1 ",
    "77ih 1 1 1 77p1 1 1 1 77dp 1 1 1 77ax 1 1 1 25m3 1 1 1 77aj 1 1 1 77gr 1 1 1 7737 1 1 1 ",
    "7p1v 1 1 1 770r 1 1 1 76vf 1 1 1 76rj 1 1 1 76h1 1 1 1 24r5 1 1 1 76eb 1 1 1 7ovf 1 1 1 ",
    "76aj 1 1 1 23yp 1 1 1 767t 1 1 1 7osn 1 1 1 7669 1 1 1 763t 1 2 1 762d 2 1 1 2383 1 1 1 ",
    "2evt 1 1 1 2325 1 1 1 75uf 1 1 1 22d9 1 1 1 75o9 1 1 1 75nj 1 1 1 75t9 1 1 1 75jl 1 1 1 ",
    "75hf 1 1 1 75eb 1 1 1 75hd 1 1 1 75f7 1 1 1 75ef 1 1 1 75dr 1 1 1 228f 1 1 1 75id 1 1 1 ",
    "754h 1 1 1 7511 1 1 1 7oh9 1 1 1 74vz 1 1 1 74w9 1 1 1 21kn 1 1 1 757t 1 1 1 74n5 1 1 1 ",
    "21cz 1 1 1 21ad 1 1 1 74if 1 1 1 74c3 1 1 1 74dn 1 1 1 74dv 1 1 1 7ocf 1 1 1 74bd 1 1 1 ",
    "748l 1 1 1 748z 1 1 1 7461 1 1 1 2odn 1 1 1 73xp 1 1 1 206r 1 1 1 73sz 1 1 1 1zon 1 1 1 ",
    "73lb 1 1 1 73kn 1 1 1 73j7 1 1 1 1yr9 1 1 1 73gn 1 1 1 73fj 1 1 1 1yap 1 1 1 1xyd 1 1 1 ",
    "732z 1 1 1 7323 1 1 1 7ny3 1 1 1 730r 1 1 1 7nxj 1 1 1 7nxl 1 1 1 72rx 1 1 1 72qt 1 1 1 ",
    "72pp 1 1 1 72on 1 1 1 72kv 1 1 1 7nsf 1 1 1 72fz 1 1 1 1wcd 1 1 1 72en 1 1 1 1w7d 1 1 1 ",
    "72bz 1 1 1 2d6b 1 1 1 7237 1 1 1 1v03 1 1 1 1uyv 1 1 1 1ur5 1 1 1 7ngj 1 1 1 7nfx 1 1 1 ",
    "71qv 1 1 1 1uhn 1 1 1 1uhr 1 1 1 1ufn 1 1 1 1ue9 1 2 1 71ot 2 1 1 71ov 1 1 1 71mj 1 1 1 ",
    "7ndr 1 1 1 71j1 1 1 1 7nd5 1 1 1 7n8r 1 1 1 1t9b 1 1 1 718f 1 1 1 7151 1 1 1 711j 1 1 1 ",
    "7n4r 1 1 1 1sgn 1 1 1 70u1 1 1 1 1sab 1 1 1 1s7z 1 1 1 70r1 1 1 1 70lz 1 1 1 7n0x 1 1 1 ",
    "70hd 1 1 1 70gv 1 1 1 70gn 1 1 1 1r5r 1 1 1 1qp7 1 1 1 1qp9 1 1 1 7081 1 1 1 7mpn 1 1 1 ",
    "1qaz 1 1 1 6zw7 1 1 1 6zw3 1 1 1 7mnt 1 1 1 1pzd 1 1 1 6zhj 1 1 1 7mh9 1 1 1 6zgf 1 1 1 ",
    "6zgr 1 1 1 6zf7 1 1 1 1osp 1 1 1 6z9t 1 1 1 7mc7 1 1 1 6z4d 1 1 1 6z15 1 1 1 6yxh 1 1 1 ",
    "7m9l 1 1 1 1nrn 1 1 1 1npz 1 1 1 7m7p 1 1 1 1nhz 1 1 1 6ygn 1 1 1 1nch 1 1 1 6yf9 1 1 1 ",
    "6y9p 1 1 1 6y95 1 1 1 1mpt 1 1 1 1mlt 1 1 1 6y49 1 1 1 1mej 1 1 1 6y3h 1 1 1 269t 1 1 1 ",
    "7m1j 1 1 1 6xzz 1 1 1 6xvj 1 1 1 7lyp 1 1 1 6xsd 1 1 1 7d0h 1 1 1 1lmn 1 1 1 1llx 1 1 1 ",
    "267f 1 1 1 266z 1 1 1 6xhv 1 1 1 6xhr 1 1 1 6s4d 1 1 1 7ltx 1 1 1 6xa3 1 1 1 6xah 1 1 1 ",
    "6x9j 1 1 1 7g71 1 1 1 6x8j 1 1 1 6x8h 1 1 1 6x7z 1 1 1 6x5r 1 1 1 1k8l 1 1 1 6x5x 1 1 1 ",
    "6x2v 1 1 1 6wz1 1 1 1 6wuz 1 1 1 6x2p 1 1 1 6wu7 1 1 1 6wrx 1 1 1 6wlr 1 1 1 6x09 1 1 1 ",
    "6wtp 1 1 1 6wtn 1 1 1 6wst 1 1 1 1jvf 1 1 1 1jeb 1 1 1 1jmp 1 1 1 7lkn 1 1 1 6wdp 1 1 1 ",
    "6wdn 1 1 1 6wbr 1 1 1 1gw1 1 1 1 6w7j 1 1 1 1ipt 1 1 1 7li9 1 1 1 7li3 1 1 1 1iil 1 1 1 ",
    "1i2l 1 1 1 7lhp 1 1 1 6vut 1 1 1 6vu7 1 1 1 6vtn 1 1 1 6vtl 1 1 1 6vq3 1 1 1 6vrz 1 1 1 ",
    "6vkl 1 1 1 6vn3 1 1 1 6ver 1 1 1 6vjb 1 1 1 6vfn 1 1 1 6ve7 1 1 1 7lcf 1 1 1 6v99 1 1 1 ",
    "6v7j 1 1 1 7lap 1 1 1 6v2d 1 1 1 6v29 1 1 1 1fwb 1 1 1 6uvx 1 1 1 6uvl 1 1 1 7l7p 1 1 1 ",
    "6uu5 1 1 1 7s4d 1 1 1 1f09 1 1 1 1eq3 1 1 1 7l0d 1 1 1 7kzx 1 1 1 6u71 1 1 1 6u2t 1 1 1 ",
    "6tu5 1 1 1 6tix 1 1 1 1dg5 1 1 1 6te9 1 1 1 6td3 1 1 1 6t85 1 1 1 6t33 1 1 1 1cgh 1 1 1 ",
    "2njd 1 1 1 6syl 1 1 1 6szh 1 1 1 6swn 1 1 1 2n7h 1 1 1 6sk3 1 1 1 6sel 1 1 1 19uj 1 1 1 ",
    "19t3 1 1 1 6rvf 1 1 1 6rqb 1 1 1 6rol 1 1 1 19bh 1 1 1 6ro5 1 1 1 6r8d 1 2 1 6qzl 2 1 1 ",
    "6r4r 1 1 1 6qjn 1 1 1 6qi5 1 1 1 17fp 1 1 1 6pxh 1 1 1 7jxv 1 1 1 6pv5 1 1 1 16ur 1 1 1 ",
    "7jtj 1 1 1 6pgf 1 1 1 7c03 1 1 1 6pb7 1 1 1 15cx 1 1 1 1515 1 1 1 7jmb 1 1 1 7jlx 1 1 1 ",
    "6p0z 1 1 1 149t 1 1 1 7jir 1 1 1 1425 1 1 1 6oyt 1 1 1 6oyv 1 1 1 6ox9 1 1 1 13md 1 1 1 ",
    "6on3 1 1 1 7jbz 1 1 1 6oj9 1 1 1 6ocb 1 1 1 6oav 1 1 1 6o7l 1 1 1 7j3n 1 1 1 11gx 1 1 1 ",
    "6nsf 1 1 1 6nbp 1 1 1 6n19 1 1 1 7ipp 1 1 1 7io1 1 1 1 6mvj 1 1 1 z9f 1 1 1 7inl 1 1 1 z6h ",
    "1 1 1 yrt 1 1 1 ykl 1 1 1 6mcz 1 1 1 7iin 1 1 1 6m9n 1 1 1 6m9f 1 1 1 6m93 1 1 1 6m8l 1 1 ",
    "1 6m89 1 1 1 6m69 1 1 1 x89"]

/-- Identifier characters whose decomposition is several characters. -/
def severalText : String :=
  String.join
   ["5c 2 1t lc 5d 2 1t ld 5e 2 1t le 5f 2 1t lf 5g 2 1t lk 5h 2 1t lm 5j 2 1v mf 5k 2 1x lc 5l ",
    "2 1x ld 5m 2 1x le 5n 2 1x lk 5o 2 21 lc 5p 2 21 ld 5q 2 21 le 5r 2 21 lk 5t 2 26 lf 5u 2 ",
    "27 lc 5v 2 27 ld 5w 2 27 le 5x 2 27 lf 5y 2 27 lk 61 2 2d lc 62 2 2d ld 63 2 2d le 64 2 2d ",
    "lk 65 2 2h ld 68 2 2p lc 69 2 2p ld 6a 2 2p le 6b 2 2p lf 6c 2 2p lk 6d 2 2p lm 6f 2 2r mf ",
    "6g 2 2t lc 6h 2 2t ld 6i 2 2t le 6j 2 2t lk 6k 2 2x lc 6l 2 2x ld 6m 2 2x le 6n 2 2x lk 6p ",
    "2 32 lf 6q 2 33 lc 6r 2 33 ld 6s 2 33 le 6t 2 33 lf 6u 2 33 lk 6x 2 39 lc 6y 2 39 ld 6z 2 ",
    "39 le 70 2 39 lk 71 2 3d ld 73 2 3d lk 74 2 1t lg 75 2 2p lg 76 2 1t li 77 2 2p li 78 2 1t ",
    "mg 79 2 2p mg 7a 2 1v ld 7b 2 2r ld 7c 2 1v le 7d 2 2r le 7e 2 1v lj 7f 2 2r lj 7g 2 1v lo ",
    "7h 2 2r lo 7i 2 1w lo 7j 2 2s lo 7m 2 1x lg 7n 2 2t lg 7o 2 1x li 7p 2 2t li 7q 2 1x lj 7r ",
    "2 2t lj 7s 2 1x mg 7t 2 2t mg 7u 2 1x lo 7v 2 2t lo 7w 2 1z le 7x 2 2v le 7y 2 1z li 7z 2 ",
    "2v li 80 2 1z lj 81 2 2v lj 82 2 1z mf 83 2 2v mf 84 2 20 le 85 2 2w le 88 2 21 lf 89 2 2x ",
    "lf 8a 2 21 lg 8b 2 2x lg 8c 2 21 li 8d 2 2x li 8e 2 21 mg 8f 2 2x mg 8g 2 21 lj 8i 2 21 22 ",
    "8j 2 2x 2y 8k 2 22 le 8l 2 2y le 8m 2 23 mf 8n 2 2z mf 8p 2 24 ld 8q 2 30 ld 8r 2 24 mf 8s ",
    "2 30 mf 8t 2 24 lo 8u 2 30 lo 8v 2 24 53 8w 2 30 53 8z 2 26 ld 90 2 32 ld 91 2 26 mf 92 2 ",
    "32 mf 93 2 26 lo 94 2 32 lo 95 2 jg 32 98 2 27 lg 99 2 33 lg 9a 2 27 li 9b 2 33 li 9c 2 27 ",
    "ln 9d 2 33 ln 9g 2 2a ld 9h 2 36 ld 9i 2 2a mf 9j 2 36 mf 9k 2 2a lo 9l 2 36 lo 9m 2 2b ld ",
    "9n 2 37 ld 9o 2 2b le 9p 2 37 le 9q 2 2b mf 9r 2 37 mf 9s 2 2b lo 9t 2 37 lo 9u 2 2c mf 9v ",
    "2 38 mf 9w 2 2c lo 9x 2 38 lo a0 2 2d lf a1 2 39 lf a2 2 2d lg a3 2 39 lg a4 2 2d li a5 2 ",
    "39 li a6 2 2d lm a7 2 39 lm a8 2 2d ln a9 2 39 ln aa 2 2d mg ab 2 39 mg ac 2 2f le ad 2 3b ",
    "le ae 2 2h le af 2 3d le ag 2 2h lk ah 2 2i ld ai 2 3e ld aj 2 2i lj ak 2 3e lj al 2 2i lo ",
    "am 2 3e lo bk 2 27 m3 bl 2 33 m3 bz 2 2d m3 c0 2 39 m3 ck 3 1w 2i lo cl 3 1w 3e lo cm 3 2s ",
    "3e lo cn 2 24 22 co 2 24 2y cp 2 30 2y cq 2 26 22 cr 2 26 2y cs 2 32 2y ct 2 1t lo cu 2 2p ",
    "lo cv 2 21 lo cw 2 2x lo cx 2 27 lo cy 2 33 lo cz 2 2d lo d0 2 39 lo d1 3 2d lk lg d2 3 39 ",
    "lk lg d3 3 2d lk ld d4 3 39 lk ld d5 3 2d lk lo d6 3 39 lk lo d7 3 2d lk lc d8 3 39 lk lc ",
    "da 3 1t lk lg db 3 2p lk lg dc 3 1t lj lg dd 3 2p lj lg de 2 5i lg df 2 6e lg di 2 1z lo ",
    "dj 2 2v lo dk 2 23 lo dl 2 2z lo dm 2 27 mg dn 2 33 mg do 3 27 mg lg dp 3 33 mg lg dq 2 c7 ",
    "lo dr 2 ia lo ds 2 2y lo dt 2 1w 2i du 2 1w 3e dv 2 2s 3e dw 2 1z ld dx 2 2v ld e0 2 26 lc ",
    "e1 2 32 lc e2 3 1t lm ld e3 3 2p lm ld e4 2 5i ld e5 2 6e ld e6 2 60 ld e7 2 6w ld e8 2 1t ",
    "lr e9 2 2p lr ea 2 1t lt eb 2 2p lt ec 2 1x lr ed 2 2t lr ee 2 1x lt ef 2 2t lt eg 2 21 lr ",
    "eh 2 2x lr ei 2 21 lt ej 2 2x lt ek 2 27 lr el 2 33 lr em 2 27 lt en 2 33 lt eo 2 2a lr ep ",
    "2 36 lr eq 2 2a lt er 2 36 lt es 2 2d lr et 2 39 lr eu 2 2d lt ev 2 39 lt ew 2 2b me ex 2 ",
    "37 me ey 2 2c me ez 2 38 me f2 2 20 lo f3 2 2w lo fa 2 1t lj fb 2 2p lj fc 2 1x mf fd 2 2t ",
    "mf fe 3 27 lk lg ff 3 33 lk lg fg 3 27 lf lg fh 3 33 lf lg fi 2 27 lj fj 2 33 lj fk 3 27 ",
    "lj lg fl 3 33 lj lg fm 2 2h lg fn 2 3d lg n8 2 lk ld p2 2 pd ld p4 2 ph ld p5 2 pj ld p6 2 ",
    "pl ld p8 2 pr ld pa 2 px ld pb 2 q1 ld pc 3 qh lk ld q2 2 pl lk q3 2 px lk q4 2 q9 ld q5 2 ",
    "qd ld q6 2 qf ld q7 2 qh ld q8 3 qt lk ld qy 2 qh lk qz 2 qt lk r0 2 qn ld r1 2 qt ld r2 2 ",
    "qx ld r7 2 px ld r8 2 px lk sg 2 t1 lc sh 2 t1 lk sj 2 sz ld sn 2 sm lk ss 2 t6 ld st 2 t4 ",
    "lc su 2 tf li t5 2 t4 li u1 2 u0 li uo 2 tx lc up 2 tx lk ur 2 tv ld uv 2 uu lk v0 2 u2 ld ",
    "v1 2 u0 lc v2 2 ub li vq 2 vo lr vr 2 vp lr xt 2 t2 li xu 2 ty li y8 2 sw li y9 2 ts li ya ",
    "2 sw lk yb 2 ts lk ye 2 t1 li yf 2 tx li yi 2 yg lk yj 2 yh lk yk 2 t2 lk yl 2 ty lk ym 2 ",
    "t3 lk yn 2 tz lk yq 2 t4 lg yr 2 u0 lg ys 2 t4 lk yt 2 u0 lk yu 2 ta lk yv 2 u6 lk yy 2 yw ",
    "lk yz 2 yx lk z0 2 tp lk z1 2 ul lk z2 2 tf lg z3 2 ub lg z4 2 tf lk z5 2 ub lk z6 2 tf ln ",
    "z7 2 ub ln z8 2 tj lk z9 2 uf lk zc 2 tn lk zd 2 uj lk 13b 2 12d 136 17m 2 17r 18z 17n 2 ",
    "17r 190 17o 2 18o 190 17p 2 17r 191 17q 2 18q 190 19x 2 17r 19w 19y 2 18o 19w 19z 2 1c7 ",
    "19w 1a0 2 18q 19w 1c0 2 1cl 190 1c2 2 1c1 190 1cj 2 1ci 190 1t5 2 1t4 1to 1td 2 1tc 1to ",
    "1tg 2 1tf 1to 1ug 2 1sl 1to 1uh 2 1sm 1to 1ui 2 1sn 1to 1uj 2 1ss 1to 1uk 2 1sx 1to 1ul 2 ",
    "1sy 1to 1um 2 1t7 1to 1un 2 1tb 1to 1xn 2 1xj 1xa 1xo 2 1xj 1xz 1y4 2 1wh 1x8 1y5 2 1wi ",
    "1x8 1y7 2 1wv 1x8 20j 2 20i 20s 20m 2 20o 20s 21l 2 1zq 20s 21m 2 1zr 20s 21n 2 1zw 20s ",
    "21q 2 20b 20s 288 2 287 28m 28b 2 287 27y 28c 2 287 28n 28s 2 275 27w 28t 2 276 27w 2ac 2 ",
    "2aa 2c7 2bu 2 2bq 2bi 2bv 2 2br 2bi 2bw 2 2bq 2c7 2fc 2 2fa 2fq 2io 2 2in 2j9 2iv 2 2iu ",
    "2j9 2iw 2 2iu 2ja 2iy 2 2iu 2iq 2iz 3 2iu 2iq 2j9 2mi 2 2me 2m6 2mj 2 2mf 2m6 2mk 2 2me ",
    "2mv 2qi 2 2qh 2q2 2qk 2 2qh 2q7 2ql 3 2qh 2q7 2q2 2qm 2 2qh 2qn 2sz 2 2tp 2sy 2wj 2 2x9 ",
    "2wi 2xo 2 2wb 2vt 2xp 2 2wb 2w1 30j 2 30i 33r 30t 2 30s 33r 30y 2 30x 33r 313 2 312 33r ",
    "318 2 317 33r 31l 2 30g 33p 31v 2 31t 31u 31x 2 31t 31w 31y 2 33m 328 31z 3 33m 31t 328 ",
    "320 2 33n 328 321 3 33n 31t 328 329 2 31t 328 32r 2 32q 33r 331 2 330 33r 336 2 335 33r ",
    "33b 2 33a 33r 33g 2 33f 33r 33t 2 32o 33p 36u 2 36t 372 5c6 2 5c5 5dh 5c8 2 5c7 5dh 5ca 2 ",
    "5c9 5dh 5cc 2 5cb 5dh 5ce 2 5cd 5dh 5ci 2 5ch 5dh 5dn 2 5dm 5dh 5dp 2 5do 5dh 5ds 2 5dq ",
    "5dh 5dt 2 5dr 5dh 5dv 2 5du 5dh 5xc 2 1t md 5xd 2 2p md 5xe 2 1u lj 5xf 2 2q lj 5xg 2 1u ",
    "mb 5xh 2 2q mb 5xi 2 1u mp 5xj 2 2q mp 5xk 3 1v mf ld 5xl 3 2r mf ld 5xm 2 1w lj 5xn 2 2s ",
    "lj 5xo 2 1w mb 5xp 2 2s mb 5xq 2 1w mp 5xr 2 2s mp 5xs 2 1w mf 5xt 2 2s mf 5xu 2 1w ml 5xv ",
    "2 2s ml 5xw 3 1x lg lc 5xx 3 2t lg lc 5xy 3 1x lg ld 5xz 3 2t lg ld 5y0 2 1x ml 5y1 2 2t ",
    "ml 5y2 2 1x mo 5y3 2 2t mo 5y4 3 1x mf li 5y5 3 2t mf li 5y6 2 1y lj 5y7 2 2u lj 5y8 2 1z ",
    "lg 5y9 2 2v lg 5ya 2 20 lj 5yb 2 2w lj 5yc 2 20 mb 5yd 2 2w mb 5ye 2 20 lk 5yf 2 2w lk 5yg ",
    "2 20 mf 5yh 2 2w mf 5yi 2 20 mm 5yj 2 2w mm 5yk 2 21 mo 5yl 2 2x mo 5ym 3 21 lk ld 5yn 3 ",
    "2x lk ld 5yo 2 23 ld 5yp 2 2z ld 5yq 2 23 mb 5yr 2 2z mb 5ys 2 23 mp 5yt 2 2z mp 5yu 2 24 ",
    "mb 5yv 2 30 mb 5yw 3 24 mb lg 5yx 3 30 mb lg 5yy 2 24 mp 5yz 2 30 mp 5z0 2 24 ml 5z1 2 30 ",
    "ml 5z2 2 25 ld 5z3 2 31 ld 5z4 2 25 lj 5z5 2 31 lj 5z6 2 25 mb 5z7 2 31 mb 5z8 2 26 lj 5z9 ",
    "2 32 lj 5za 2 26 mb 5zb 2 32 mb 5zc 2 26 mp 5zd 2 32 mp 5ze 2 26 ml 5zf 2 32 ml 5zg 3 27 ",
    "lf ld 5zh 3 33 lf ld 5zi 3 27 lf lk 5zj 3 33 lf lk 5zk 3 27 lg lc 5zl 3 33 lg lc 5zm 3 27 ",
    "lg ld 5zn 3 33 lg ld 5zo 2 28 ld 5zp 2 34 ld 5zq 2 28 lj 5zr 2 34 lj 5zs 2 2a lj 5zt 2 36 ",
    "lj 5zu 2 2a mb 5zv 2 36 mb 5zw 3 2a mb lg 5zx 3 36 mb lg 5zy 2 2a mp 5zz 2 36 mp 600 2 2b ",
    "lj 601 2 37 lj 602 2 2b mb 603 2 37 mb 604 3 2b ld lj 605 3 37 ld lj 606 3 2b lo lj 607 3 ",
    "37 lo lj 608 3 2b mb lj 609 3 37 mb lj 60a 2 2c lj 60b 2 38 lj 60c 2 2c mb 60d 2 38 mb 60e ",
    "2 2c mp 60f 2 38 mp 60g 2 2c ml 60h 2 38 ml 60i 2 2d mc 60j 2 39 mc 60k 2 2d mo 60l 2 39 ",
    "mo 60m 2 2d ml 60n 2 39 ml 60o 3 2d lf ld 60p 3 39 lf ld 60q 3 2d lg lk 60r 3 39 lg lk 60s ",
    "2 2e lf 60t 2 3a lf 60u 2 2e mb 60v 2 3a mb 60w 2 2f lc 60x 2 3b lc 60y 2 2f ld 60z 2 3b ",
    "ld 610 2 2f lk 611 2 3b lk 612 2 2f lj 613 2 3b lj 614 2 2f mb 615 2 3b mb 616 2 2g lj 617 ",
    "2 3c lj 618 2 2g lk 619 2 3c lk 61a 2 2h lj 61b 2 3d lj 61c 2 2i le 61d 2 3e le 61e 2 2i ",
    "mb 61f 2 3e mb 61g 2 2i mp 61h 2 3e mp 61i 2 2w mp 61j 2 38 lk 61k 2 3b lm 61l 2 3d lm 61m ",
    "2 2p ji 61n 2 37 lj 61s 2 1t mb 61t 2 2p mb 61u 2 1t ll 61v 2 2p ll 61w 3 1t le ld 61x 3 ",
    "2p le ld 61y 3 1t le lc 61z 3 2p le lc 620 3 1t le ll 621 3 2p le ll 622 3 1t le lf 623 3 ",
    "2p le lf 624 3 1t mb le 625 3 2p mb le 626 3 1t li ld 627 3 2p li ld 628 3 1t li lc 629 3 ",
    "2p li lc 62a 3 1t li ll 62b 3 2p li ll 62c 3 1t li lf 62d 3 2p li lf 62e 3 1t mb li 62f 3 ",
    "2p mb li 62g 2 1x mb 62h 2 2t mb 62i 2 1x ll 62j 2 2t ll 62k 2 1x lf 62l 2 2t lf 62m 3 1x ",
    "le ld 62n 3 2t le ld 62o 3 1x le lc 62p 3 2t le lc 62q 3 1x le ll 62r 3 2t le ll 62s 3 1x ",
    "le lf 62t 3 2t le lf 62u 3 1x mb le 62v 3 2t mb le 62w 2 21 ll 62x 2 2x ll 62y 2 21 mb 62z ",
    "2 2x mb 630 2 27 mb 631 2 33 mb 632 2 27 ll 633 2 33 ll 634 3 27 le ld 635 3 33 le ld 636 ",
    "3 27 le lc 637 3 33 le lc 638 3 27 le ll 639 3 33 le ll 63a 3 27 le lf 63b 3 33 le lf 63c ",
    "3 27 mb le 63d 3 33 mb le 63e 3 27 m3 ld 63f 3 33 m3 ld 63g 3 27 m3 lc 63h 3 33 m3 lc 63i ",
    "3 27 m3 ll 63j 3 33 m3 ll 63k 3 27 m3 lf 63l 3 33 m3 lf 63m 3 27 m3 mb 63n 3 33 m3 mb 63o ",
    "2 2d mb 63p 2 39 mb 63q 2 2d ll 63r 2 39 ll 63s 3 2d m3 ld 63t 3 39 m3 ld 63u 3 2d m3 lc ",
    "63v 3 39 m3 lc 63w 3 2d m3 ll 63x 3 39 m3 ll 63y 3 2d m3 lf 63z 3 39 m3 lf 640 3 2d m3 mb ",
    "641 3 39 m3 mb 642 2 2h lc 643 2 3d lc 644 2 2h mb 645 2 3d mb 646 2 2h ll 647 2 3d ll 648 ",
    "2 2h lf 649 2 3d lf 64g 2 q9 lv 64h 2 q9 lw 64i 3 q9 lv lc 64j 3 q9 lw lc 64k 3 q9 lv ld ",
    "64l 3 q9 lw ld 64m 3 q9 lv n6 64n 3 q9 lw n6 64o 2 pd lv 64p 2 pd lw 64q 3 pd lv lc 64r 3 ",
    "pd lw lc 64s 3 pd lv ld 64t 3 pd lw ld 64u 3 pd lv n6 64v 3 pd lw n6 64w 2 qd lv 64x 2 qd ",
    "lw 64y 3 qd lv lc 64z 3 qd lw lc 650 3 qd lv ld 651 3 qd lw ld 654 2 ph lv 655 2 ph lw 656 ",
    "3 ph lv lc 657 3 ph lw lc 658 3 ph lv ld 659 3 ph lw ld 65c 2 qf lv 65d 2 qf lw 65e 3 qf ",
    "lv lc 65f 3 qf lw lc 65g 3 qf lv ld 65h 3 qf lw ld 65i 3 qf lv n6 65j 3 qf lw n6 65k 2 pj ",
    "lv 65l 2 pj lw 65m 3 pj lv lc 65n 3 pj lw lc 65o 3 pj lv ld 65p 3 pj lw ld 65q 3 pj lv n6 ",
    "65r 3 pj lw n6 65s 2 qh lv 65t 2 qh lw 65u 3 qh lv lc 65v 3 qh lw lc 65w 3 qh lv ld 65x 3 ",
    "qh lw ld 65y 3 qh lv n6 65z 3 qh lw n6 660 2 pl lv 661 2 pl lw 662 3 pl lv lc 663 3 pl lw ",
    "lc 664 3 pl lv ld 665 3 pl lw ld 666 3 pl lv n6 667 3 pl lw n6 668 2 qn lv 669 2 qn lw 66a ",
    "3 qn lv lc 66b 3 qn lw lc 66c 3 qn lv ld 66d 3 qn lw ld 66g 2 pr lv 66h 2 pr lw 66i 3 pr ",
    "lv lc 66j 3 pr lw lc 66k 3 pr lv ld 66l 3 pr lw ld 66o 2 qt lv 66p 2 qt lw 66q 3 qt lv lc ",
    "66r 3 qt lw lc 66s 3 qt lv ld 66t 3 qt lw ld 66u 3 qt lv n6 66v 3 qt lw n6 66x 2 px lw 66z ",
    "3 px lw lc 671 3 px lw ld 673 3 px lw n6 674 2 qx lv 675 2 qx lw 676 3 qx lv lc 677 3 qx ",
    "lw lc 678 3 qx lv ld 679 3 qx lw ld 67a 3 qx lv n6 67b 3 qx lw n6 67c 2 q1 lv 67d 2 q1 lw ",
    "67e 3 q1 lv lc 67f 3 q1 lw lc 67g 3 q1 lv ld 67h 3 q1 lw ld 67i 3 q1 lv n6 67j 3 q1 lw n6 ",
    "67k 2 q9 lc 67l 2 q9 ld 67m 2 qd lc 67n 2 qd ld 67o 2 qf lc 67p 2 qf ld 67q 2 qh lc 67r 2 ",
    "qh ld 67s 2 qn lc 67t 2 qn ld 67u 2 qt lc 67v 2 qt ld 67w 2 qx lc 67x 2 qx ld 680 3 q9 lv ",
    "n9 681 3 q9 lw n9 682 4 q9 lv lc n9 683 4 q9 lw lc n9 684 4 q9 lv ld n9 685 4 q9 lw ld n9 ",
    "686 4 q9 lv n6 n9 687 4 q9 lw n6 n9 688 3 pd lv n9 689 3 pd lw n9 68a 4 pd lv lc n9 68b 4 ",
    "pd lw lc n9 68c 4 pd lv ld n9 68d 4 pd lw ld n9 68e 4 pd lv n6 n9 68f 4 pd lw n6 n9 68g 3 ",
    "qf lv n9 68h 3 qf lw n9 68i 4 qf lv lc n9 68j 4 qf lw lc n9 68k 4 qf lv ld n9 68l 4 qf lw ",
    "ld n9 68m 4 qf lv n6 n9 68n 4 qf lw n6 n9 68o 3 pj lv n9 68p 3 pj lw n9 68q 4 pj lv lc n9 ",
    "68r 4 pj lw lc n9 68s 4 pj lv ld n9 68t 4 pj lw ld n9 68u 4 pj lv n6 n9 68v 4 pj lw n6 n9 ",
    "68w 3 qx lv n9 68x 3 qx lw n9 68y 4 qx lv lc n9 68z 4 qx lw lc n9 690 4 qx lv ld n9 691 4 ",
    "qx lw ld n9 692 4 qx lv n6 n9 693 4 qx lw n6 n9 694 3 q1 lv n9 695 3 q1 lw n9 696 4 q1 lv ",
    "lc n9 697 4 q1 lw lc n9 698 4 q1 lv ld n9 699 4 q1 lw ld n9 69a 4 q1 lv n6 n9 69b 4 q1 lw ",
    "n6 n9 69c 2 q9 li 69d 2 q9 lg 69e 3 q9 lc n9 69f 2 q9 n9 69g 3 q9 ld n9 69i 2 q9 n6 69j 3 ",
    "q9 n6 n9 69k 2 pd li 69l 2 pd lg 69m 2 pd lc 69n 2 pd ld 69o 2 pd n9 69u 3 qf lc n9 69v 2 ",
    "qf n9 69w 3 qf ld n9 69y 2 qf n6 69z 3 qf n6 n9 6a0 2 ph lc 6a1 2 ph ld 6a2 2 pj lc 6a3 2 ",
    "pj ld 6a4 2 pj n9 6a8 2 qh li 6a9 2 qh lg 6aa 3 qh lk lc 6ab 3 qh lk ld 6ae 2 qh n6 6af 3 ",
    "qh lk n6 6ag 2 pl li 6ah 2 pl lg 6ai 2 pl lc 6aj 2 pl ld 6ao 2 qt li 6ap 2 qt lg 6aq 3 qt ",
    "lk lc 6ar 3 qt lk ld 6as 2 qp lv 6at 2 qp lw 6au 2 qt n6 6av 3 qt lk n6 6aw 2 px li 6ax 2 ",
    "px lg 6ay 2 px lc 6az 2 px ld 6b0 2 pt lw 6b6 3 qx lc n9 6b7 2 qx n9 6b8 3 qx ld n9 6ba 2 ",
    "qx n6 6bb 3 qx n6 n9 6bc 2 pr lc 6bd 2 pr ld 6be 2 q1 lc 6bf 2 q1 ld 6bg 2 q1 n9 6jv 2 1t ",
    "lm 6ld 2 21 21 6le 3 21 21 21 6lf 2 21 2e 6lh 2 2e 21 6li 3 2e 21 21 6lj 4 2e 21 21 21 6lk ",
    "2 21 2g 6lm 2 2g 21 6ln 3 2g 21 21 6lt 2 2x 2x 6lu 3 2x 2x 2x 6lv 2 2x 3a 6lx 2 3a 2x 6ly ",
    "3 3a 2x 2x 6lz 4 3a 2x 2x 2x 6m0 2 2x 3c 6m2 2 3c 2x 6m3 3 3c 2x 2x 9jg 2 9jf 9ll 9ji 2 ",
    "9jh 9ll 9jk 2 9jj 9ll 9jm 2 9jl 9ll 9jo 2 9jn 9ll 9jq 2 9jp 9ll 9js 2 9jr 9ll 9ju 2 9jt ",
    "9ll 9jw 2 9jv 9ll 9jy 2 9jx 9ll 9k0 2 9jz 9ll 9k2 2 9k1 9ll 9k5 2 9k4 9ll 9k7 2 9k6 9ll ",
    "9k9 2 9k8 9ll 9kg 2 9kf 9ll 9kh 2 9kf 9lm 9kj 2 9ki 9ll 9kk 2 9ki 9lm 9km 2 9kl 9ll 9kn 2 ",
    "9kl 9lm 9kp 2 9ko 9ll 9kq 2 9ko 9lm 9ks 2 9kr 9ll 9kt 2 9kr 9lm 9lg 2 9ja 9ll 9lq 2 9lp ",
    "9ll 9lr 2 9l4 9l6 9m4 2 9m3 9ll 9m6 2 9m5 9ll 9m8 2 9m7 9ll 9ma 2 9m9 9ll 9mc 2 9mb 9ll ",
    "9me 2 9md 9ll 9mg 2 9mf 9ll 9mi 2 9mh 9ll 9mk 2 9mj 9ll 9mm 2 9ml 9ll 9mo 2 9mn 9ll 9mq 2 ",
    "9mp 9ll 9mt 2 9ms 9ll 9mv 2 9mu 9ll 9mx 2 9mw 9ll 9n4 2 9n3 9ll 9n5 2 9n3 9lm 9n7 2 9n6 ",
    "9ll 9n8 2 9n6 9lm 9na 2 9n9 9ll 9nb 2 9n9 9lm 9nd 2 9nc 9ll 9ne 2 9nc 9lm 9ng 2 9nf 9ll ",
    "9nh 2 9nf 9lm 9o4 2 9ly 9ll 9o7 2 9nz 9ll 9o8 2 9o0 9ll 9o9 2 9o1 9ll 9oa 2 9o2 9ll 9oe 2 ",
    "9od 9ll 9of 2 9mb 9mw 1dkw 2 2u 2u 1dkx 2 2u 2x 1dky 2 2u 30 1dkz 3 2u 2u 2x 1dl0 3 2u 2u ",
    "30 1dl1 2 37 38 1dl2 2 37 38 1dlf 2 12s 12u 1dlg 2 12s 12d 1dlh 2 12s 12j 1dli 2 132 12u ",
    "1dlj 2 12s 12l 1dlp 2 15l 14k 1dlr 2 16a 14n 1dm2 2 161 14x 1dm3 2 161 14y 1dm4 3 161 14s ",
    "14x 1dm5 3 161 14s 14y 1dm6 2 15c 14n 1dm7 2 15c 14o 1dm8 2 15c 14s 1dm9 2 15d 14s 1dma 2 ",
    "15e 14s 1dmb 2 15f 14s 1dmc 2 15g 14s 1dmd 2 15h 14s 1dme 2 15i 14s 1dmg 2 15k 14s 1dmh 2 ",
    "15l 14s 1dmi 2 15m 14s 1dmj 2 15n 14s 1dmk 2 15o 14s 1dmm 2 15q 14s 1dmo 2 15s 14s 1dmp 2 ",
    "15t 14s 1dmr 2 15v 14s 1dms 2 15w 14s 1dmu 2 15y 14s 1dmv 2 15z 14s 1dmw 2 160 14s 1dmx 2 ",
    "161 14s 1dmy 2 162 14s 1dmz 2 15h 14p 1dn0 2 15d 14v 1dn1 2 15n 14v 1dn2 2 15w 14v 1dn3 2 ",
    "15c 15o 1dpg 2 1cl 190 1dph 2 1cl 190 1dps 2 1ci 190 1dpt 2 1ci 190 1dr1 2 1c7 19w 1dre 3 ",
    "18q 190 17r 1drf 3 18q 190 17r 1drg 3 18q 190 1cl 1drh 3 18q 190 1cl 1dri 3 18q 190 18o ",
    "1drj 3 18q 190 18o 1drk 3 18q 190 1c7 1drl 3 18q 190 1c7 1drm 3 18q 190 1c6 1drn 3 18q 190 ",
    "1c6 1dro 3 18q 190 1c8 1drp 3 18q 190 1c8 1drq 3 18q 190 1cg 1drr 3 18q 190 1cg 1drs 3 18q ",
    "190 1cg 1drt 3 18q 190 18p 1dru 3 18q 190 18p 1drv 3 18q 190 18p 1ds0 3 18q 190 17w 1ds1 3 ",
    "18q 190 17x 1ds2 3 18q 190 18l 1ds3 3 18q 190 18p 1ds4 3 18q 190 18q 1ds5 2 17s 17w 1ds6 2 ",
    "17s 17x 1ds7 2 17s 17y 1ds8 2 17s 18l 1ds9 2 17s 18p 1dsa 2 17s 18q 1dsb 2 17u 17w 1dsc 2 ",
    "17u 17x 1dsd 2 17u 17y 1dse 2 17u 18l 1dsf 2 17u 18p 1dsg 2 17u 18q 1dsh 2 17v 17w 1dsi 2 ",
    "17v 18l 1dsj 2 17v 18p 1dsk 2 17v 18q 1dsl 2 17w 17x 1dsm 2 17w 18l 1dsn 2 17x 17w 1dso 2 ",
    "17x 18l 1dsp 2 17y 17w 1dsq 2 17y 17x 1dsr 2 17y 18l 1dss 2 183 17w 1dst 2 183 17x 1dsu 2 ",
    "183 17y 1dsv 2 183 18l 1dsw 2 185 17x 1dsx 2 185 18l 1dsy 2 186 17w 1dsz 2 186 17x 1dt0 2 ",
    "186 17y 1dt1 2 186 18l 1dt2 2 187 17x 1dt3 2 187 18l 1dt4 2 188 18l 1dt5 2 189 17w 1dt6 2 ",
    "189 18l 1dt7 2 18a 17w 1dt8 2 18a 18l 1dt9 2 18h 17w 1dta 2 18h 17x 1dtb 2 18h 17y 1dtc 2 ",
    "18h 18l 1dtd 2 18h 18p 1dte 2 18h 18q 1dtf 2 18i 17x 1dtg 2 18i 18l 1dth 2 18i 18p 1dti 2 ",
    "18i 18q 1dtj 2 18j 17r 1dtk 2 18j 17w 1dtl 2 18j 17x 1dtm 2 18j 17y 1dtn 2 18j 18k 1dto 2 ",
    "18j 18l 1dtp 2 18j 18p 1dtq 2 18j 18q 1dtr 2 18k 17w 1dts 2 18k 17x 1dtt 2 18k 17y 1dtu 2 ",
    "18k 18l 1dtv 2 18k 18p 1dtw 2 18k 18q 1dtx 2 18l 17w 1dty 2 18l 17x 1dtz 2 18l 17y 1du0 2 ",
    "18l 18l 1du1 2 18l 18p 1du2 2 18l 18q 1du3 2 18m 17w 1du4 2 18m 17x 1du5 2 18m 17y 1du6 2 ",
    "18m 18l 1du7 2 18m 18p 1du8 2 18m 18q 1du9 2 18n 17w 1dua 2 18n 18l 1dub 2 18n 18p 1duc 2 ",
    "18n 18q 1dud 2 18q 17w 1due 2 18q 17x 1duf 2 18q 17y 1dug 2 18q 18l 1duh 2 18q 18p 1dui 2 ",
    "18q 18q 1duj 2 180 19s 1duk 2 181 19s 1dul 2 18p 19s 1dus 3 18q 190 181 1dut 3 18q 190 182 ",
    "1duu 3 18q 190 18l 1duv 3 18q 190 18m 1duw 3 18q 190 18p 1dux 3 18q 190 18q 1duy 2 17s 181 ",
    "1duz 2 17s 182 1dv0 2 17s 18l 1dv1 2 17s 18m 1dv2 2 17s 18p 1dv3 2 17s 18q 1dv4 2 17u 181 ",
    "1dv5 2 17u 182 1dv6 2 17u 18l 1dv7 2 17u 18m 1dv8 2 17u 18p 1dv9 2 17u 18q 1dva 2 17v 181 ",
    "1dvb 2 17v 182 1dvc 2 17v 18l 1dvd 2 17v 18m 1dve 2 17v 18p 1dvf 2 17v 18q 1dvg 2 18h 18p ",
    "1dvh 2 18h 18q 1dvi 2 18i 18p 1dvj 2 18i 18q 1dvk 2 18j 17r 1dvl 2 18j 18k 1dvm 2 18j 18l ",
    "1dvn 2 18j 18p 1dvo 2 18j 18q 1dvp 2 18k 18l 1dvq 2 18k 18p 1dvr 2 18k 18q 1dvs 2 18l 17r ",
    "1dvt 2 18l 18l 1dvu 2 18m 181 1dvv 2 18m 182 1dvw 2 18m 18l 1dvx 2 18m 18m 1dvy 2 18m 18p ",
    "1dvz 2 18m 18q 1dw0 2 18p 19s 1dw1 2 18q 181 1dw2 2 18q 182 1dw3 2 18q 18l 1dw4 2 18q 18m ",
    "1dw5 2 18q 18p 1dw6 2 18q 18q 1dw7 3 18q 190 17w 1dw8 3 18q 190 17x 1dw9 3 18q 190 17y ",
    "1dwa 3 18q 190 18l 1dwb 3 18q 190 18n 1dwc 2 17s 17w 1dwd 2 17s 17x 1dwe 2 17s 17y 1dwf 2 ",
    "17s 18l 1dwg 2 17s 18n 1dwh 2 17u 17w 1dwi 2 17u 17x 1dwj 2 17u 17y 1dwk 2 17u 18l 1dwl 2 ",
    "17u 18n 1dwm 2 17v 18l 1dwn 2 17w 17x 1dwo 2 17w 18l 1dwp 2 17x 17w 1dwq 2 17x 18l 1dwr 2 ",
    "17y 17w 1dws 2 17y 18l 1dwt 2 183 17w 1dwu 2 183 17x 1dwv 2 183 17y 1dww 2 183 18l 1dwx 2 ",
    "185 17x 1dwy 2 185 17y 1dwz 2 185 18l 1dx0 2 186 17w 1dx1 2 186 17x 1dx2 2 186 17y 1dx3 2 ",
    "186 18l 1dx4 2 187 17x 1dx5 2 188 18l 1dx6 2 189 17w 1dx7 2 189 18l 1dx8 2 18a 17w 1dx9 2 ",
    "18a 18l 1dxa 2 18h 17w 1dxb 2 18h 17x 1dxc 2 18h 17y 1dxd 2 18h 18l 1dxe 2 18i 17x 1dxf 2 ",
    "18i 18l 1dxg 2 18j 17w 1dxh 2 18j 17x 1dxi 2 18j 17y 1dxj 2 18j 18k 1dxk 2 18j 18l 1dxl 2 ",
    "18k 17w 1dxm 2 18k 17x 1dxn 2 18k 17y 1dxo 2 18k 18l 1dxp 2 18k 18n 1dxq 2 18l 17w 1dxr 2 ",
    "18l 17x 1dxs 2 18l 17y 1dxt 2 18l 18l 1dxu 2 18m 17w 1dxv 2 18m 17x 1dxw 2 18m 17y 1dxx 2 ",
    "18m 18l 1dxy 2 18m 18n 1dxz 2 18n 17w 1dy0 2 18n 18l 1dy1 2 18n 19s 1dy2 2 18q 17w 1dy3 2 ",
    "18q 17x 1dy4 2 18q 17y 1dy5 2 18q 18l 1dy6 2 18q 18n 1dy7 3 18q 190 18l 1dy8 3 18q 190 18n ",
    "1dy9 2 17s 18l 1dya 2 17s 18n 1dyb 2 17u 18l 1dyc 2 17u 18n 1dyd 2 17v 18l 1dye 2 17v 18n ",
    "1dyf 2 183 18l 1dyg 2 183 18n 1dyh 2 184 18l 1dyi 2 184 18n 1dyj 2 18j 18k 1dyk 2 18j 18l ",
    "1dyl 2 18k 18l 1dym 2 18m 18l 1dyn 2 18m 18n 1dyo 2 18q 18l 1dyp 2 18q 18n 1dyq 3 18g 18u ",
    "18x 1dyr 3 18g 18v 18x 1dys 3 18g 18w 18x 1dyt 2 187 18p 1dyu 2 187 18q 1dyv 2 189 18p ",
    "1dyw 2 189 18q 1dyx 2 18a 18p 1dyy 2 18a 18q 1dyz 2 183 18p 1dz0 2 183 18q 1dz1 2 184 18p ",
    "1dz2 2 184 18q 1dz3 2 17x 18p 1dz4 2 17x 18q 1dz5 2 17w 18p 1dz6 2 17w 18q 1dz7 2 17y 18p ",
    "1dz8 2 17y 18q 1dz9 2 185 18p 1dza 2 185 18q 1dzb 2 186 18p 1dzc 2 186 18q 1dzd 2 184 17w ",
    "1dze 2 184 17x 1dzf 2 184 17y 1dzg 2 184 18l 1dzh 2 184 181 1dzi 2 183 181 1dzj 2 185 181 ",
    "1dzk 2 186 181 1dzl 2 187 18p 1dzm 2 187 18q 1dzn 2 189 18p 1dzo 2 189 18q 1dzp 2 18a 18p ",
    "1dzq 2 18a 18q 1dzr 2 183 18p 1dzs 2 183 18q 1dzt 2 184 18p 1dzu 2 184 18q 1dzv 2 17x 18p ",
    "1dzw 2 17x 18q 1dzx 2 17w 18p 1dzy 2 17w 18q 1dzz 2 17y 18p 1e00 2 17y 18q 1e01 2 185 18p ",
    "1e02 2 185 18q 1e03 2 186 18p 1e04 2 186 18q 1e05 2 184 17w 1e06 2 184 17x 1e07 2 184 17y ",
    "1e08 2 184 18l 1e09 2 184 181 1e0a 2 183 181 1e0b 2 185 181 1e0c 2 186 181 1e0d 2 184 17w ",
    "1e0e 2 184 17x 1e0f 2 184 17y 1e0g 2 184 18l 1e0h 2 183 18n 1e0i 2 184 18n 1e0j 2 187 18l ",
    "1e0k 2 183 17w 1e0l 2 183 17x 1e0m 2 183 17y 1e0n 2 184 17w 1e0o 2 184 17x 1e0p 2 184 17y ",
    "1e0q 2 187 18l 1e0r 2 188 18l 1e0s 2 17r 18r 1e0t 2 17r 18r 1e1c 3 17u 17w 18l 1e1d 3 17u ",
    "17x 17w 1e1e 3 17u 17x 17w 1e1f 3 17u 17x 18l 1e1g 3 17u 17y 18l 1e1h 3 17u 18l 17w 1e1i 3 ",
    "17u 18l 17x 1e1j 3 17u 18l 17y 1e1k 3 17w 18l 17x 1e1l 3 17w 18l 17x 1e1m 3 17x 18l 18q ",
    "1e1n 3 17x 18l 18p 1e1o 3 183 17x 17w 1e1p 3 183 17w 17x 1e1q 3 183 17w 18p 1e1r 3 183 18l ",
    "17x 1e1s 3 183 18l 17x 1e1t 3 183 18l 17w 1e1u 3 183 18l 18l 1e1v 3 183 18l 18l 1e1w 3 185 ",
    "17x 17x 1e1x 3 185 17x 17x 1e1y 3 185 18l 18l 1e1z 3 184 17x 18l 1e20 3 184 17x 18l 1e21 3 ",
    "184 17w 18q 1e22 3 184 18l 17y 1e23 3 184 18l 17y 1e24 3 184 18l 18l 1e25 3 184 18l 18l ",
    "1e26 3 186 17x 18p 1e27 3 186 17y 18l 1e28 3 186 17y 18l 1e29 3 187 18l 17x 1e2a 3 187 18l ",
    "17x 1e2b 3 187 18l 18l 1e2c 3 187 18l 18q 1e2d 3 189 17w 18l 1e2e 3 189 18l 18l 1e2f 3 189 ",
    "18l 18l 1e2g 3 189 18l 18p 1e2h 3 18a 18l 18l 1e2i 3 18a 18l 18q 1e2j 3 18a 18l 18p 1e2k 3 ",
    "18h 17y 18l 1e2l 3 18h 17y 18l 1e2m 3 18i 18l 17x 1e2n 3 18i 18l 18l 1e2o 3 18k 17x 18l ",
    "1e2p 3 18k 17x 18q 1e2q 3 18k 17x 18p 1e2r 3 18k 17w 17w 1e2s 3 18k 17w 17w 1e2t 3 18k 17y ",
    "18l 1e2u 3 18k 17y 18l 1e2v 3 18k 18l 17x 1e2w 3 18k 18l 17x 1e2x 3 18l 17x 17w 1e2y 3 18l ",
    "17x 18l 1e2z 3 18l 17x 18q 1e30 3 18l 17w 17x 1e31 3 18l 17w 18l 1e32 3 18l 17y 17w 1e33 3 ",
    "18l 17y 18l 1e36 3 18l 17w 17y 1e37 3 18n 18l 17w 1e38 3 18n 18l 18l 1e39 3 18m 17x 18l ",
    "1e3a 3 18m 17x 18p 1e3b 3 18m 17w 18l 1e3c 3 18m 17w 18l 1e3d 3 18m 17w 18p 1e3e 3 18m 18l ",
    "18q 1e3f 3 18m 18l 18p 1e3g 3 18q 18l 18l 1e3h 3 18q 18l 18l 1e3i 3 17s 17y 18q 1e3j 3 17u ",
    "17w 18q 1e3k 3 17u 17w 18p 1e3l 3 17u 17y 18q 1e3m 3 17u 17y 18p 1e3n 3 17u 18l 18q 1e3o 3 ",
    "17u 18l 18p 1e3p 3 17w 18l 18q 1e3q 3 17w 17x 18p 1e3r 3 17w 18l 18p 1e3s 3 183 17y 18p ",
    "1e3t 3 185 17x 18q 1e3u 3 184 17x 18q 1e3v 3 186 17x 18q 1e3w 3 18k 17w 18q 1e3x 3 18k 18l ",
    "18q 1e3y 3 18q 17x 18q 1e3z 3 18q 17w 18q 1e40 3 18q 18l 18q 1e41 3 18l 18l 18q 1e42 3 18i ",
    "18l 18q 1e43 3 18m 17x 18q 1e44 3 18i 18l 17x 1e45 3 18k 17x 18l 1e46 3 189 18l 18q 1e47 3 ",
    "18j 18l 18q 1e48 3 18m 17w 17x 1e49 3 18l 17y 18q 1e4a 3 18k 17w 18l 1e4b 3 18j 18l 18l ",
    "1e4c 3 18k 17w 18l 1e4d 3 18m 17w 17x 1e4e 3 17w 17x 18q 1e4f 3 17x 17w 18q 1e4g 3 18l 17w ",
    "18q 1e4h 3 18h 18l 18q 1e4i 3 17s 17x 18q 1e4j 3 18j 18l 18l 1e4k 3 189 17w 18l 1e4l 3 185 ",
    "18l 18l 1e4m 3 183 17y 18q 1e4n 3 18m 17w 18q 1e5s 3 185 18k 1ci 1e5t 3 18i 18k 1ci 1e5u 4 ",
    "17r 18k 18k 18n 1e5v 4 17r 18j 17s 181 1e5w 4 18l 17x 18l 17z 1e5x 4 185 18k 189 18l 1e5y ",
    "4 181 183 18o 18k 1e5z 4 189 18k 18q 18n 1e60 4 18o 183 18k 18l 1e61 3 185 18k 18p 1e9d 2 ",
    "18g 18r 1e9j 2 18g 18u 1e9l 2 18g 18v 1e9n 2 18g 18w 1e9p 2 18g 18x 1e9r 2 18g 18y 1e9t 2 ",
    "17r 18z 1e9u 2 17r 18z 1e9v 2 17r 190 1e9w 2 17r 190 1e9x 2 18o 190 1e9y 2 18o 190 1e9z 2 ",
    "17r 191 1ea0 2 17r 191 1ea1 2 18q 190 1ea2 2 18q 190 1ea3 2 18q 190 1ea4 2 18q 190 1ed1 3 ",
    "18k 17r 18z 1ed2 3 18k 17r 18z 1ed3 3 18k 17r 190 1ed4 3 18k 17r 190 1ed5 3 18k 17r 191 ",
    "1ed6 3 18k 17r 191 1ed7 2 18k 17r 1ed8 2 18k 17r 1hui 2 1huh 1hve 1huk 2 1huj 1hve 1huz 2 ",
    "1hut 1hve 1hym 2 1hyp 1hyf 1hyn 2 1hyq 1hyf 1idn 2 1idj 1ida 1ido 2 1idj 1idz 1inv 2 1int ",
    "1inu 1inw 2 1int 1ink 1iny 2 1int 1inx 1iuy 2 1iuw 1iun 1iuz 2 1iux 1iun 1jjs 2 1jjp 1jjk"]

/-- Combining classes. -/
def orderText : String :=
  String.join
   ["lc l 1 cs l 1 1 cw 1 4 1 c8 4 1 1 cw 1 1 1 c0 1 5 1 c8 5 2 1 b8 2 4 1 c8 4 2 1 b8 2 b 1 c8 ",
    "b 5 1 2 5 4 1 c8 4 8 1 cs 8 1 1 dc 1 1 1 cs 1 3 1 c8 3 3 1 cs 3 2 1 c8 3 3 1 cs 3 4 1 c8 4 ",
    "1 1 cs 1 1 1 cw 1 2 1 c8 2 1 1 cs 1 1 1 cy 1 2 1 d0 2 1 1 cy 1 2 1 d0 2 1 1 cy 1 d 1 cs 80 ",
    "5 1 cs 7i 1 1 c8 1 4 1 cs 4 1 1 c8 1 3 1 cs 3 1 1 cc 1 1 1 c8 1 6 1 cs 6 6 1 c8 6 2 1 cs 2 ",
    "1 1 c8 1 2 1 cs 2 1 1 cc 1 1 1 co 1 1 1 cs 1 1 1 k 1 1 1 m 1 1 1 o 1 1 1 q 1 1 1 s 1 1 1 u ",
    "1 1 1 w 1 1 1 y 1 1 1 10 1 2 1 12 2 1 1 14 1 1 1 16 1 1 1 18 2 1 1 1a 2 1 1 1c 1 1 1 1e 2 ",
    "1 1 cs 1 1 1 c8 2 1 1 10 21 8 1 cs 8 1 1 1o 1 1 1 1q 1 1 1 1s 1d 1 1 1i 1 1 1 1k 1 1 1 1m ",
    "1 1 1 1o 1 1 1 1q 1 1 1 1s 1 1 1 1u 1 1 1 1w 1 2 1 cs 2 2 1 c8 2 5 1 cs 5 1 1 c8 1 2 1 cs ",
    "2 1 1 c8 h 1 1 1y 2u 7 1 cs 9 4 1 cs 4 1 1 c8 1 1 1 cs 3 2 1 cs 3 1 1 c8 1 2 1 cs 2 1 1 c8 ",
    "10 1 1 20 v 1 1 cs 1 1 1 c8 1 2 1 cs 2 1 1 c8 1 2 1 cs 2 3 1 c8 3 1 1 cs 1 2 1 c8 2 1 1 cs ",
    "1 1 1 c8 1 3 1 cs 3 1 1 c8 1 1 1 cs 1 1 1 c8 1 1 1 cs 1 1 1 c8 1 1 1 cs 1 1 1 c8 1 2 1 cs ",
    "4i 7 1 cs 7 1 1 c8 1 1 1 cs a 1 1 c8 p 4 1 cs 5 9 1 cs a 3 1 cs 4 5 1 cs 1c 3 1 c8 1r 1 1 ",
    "cs 1 3 1 c8 3 4 1 cs 1a 5 1 cs 5 5 1 c8 5 e 1 cs f 1 1 c8 1 2 1 cs 2 1 1 c8 1 2 1 cs 2 1 1 ",
    "c8 1 3 1 cs 3 3 1 c8 3 1 1 1i 1 1 1 1k 1 1 1 1m 1 3 1 cs 3 1 1 c8 1 2 1 cs 2 2 1 c8 2 5 1 ",
    "cs 1t 1 1 e h 1 1 i 4 1 1 cs 1 1 1 c8 1 2 1 cs 2x 1 1 e h 1 1 i 1d 1 1 cs 1q 1 1 e h 1 1 i ",
    "33 1 1 e h 1 1 i 33 1 1 e h 1 1 i 3k 1 1 i 33 1 1 e h 1 1 i 8 1 1 4o 1 1 1 52 2u 1 1 e h 1 ",
    "1 i 32 2 1 i i 1 1 i 3h 1 1 i 32 2 1 5q 2 1 1 i e 4 1 5y 34 2 1 6k 2 1 1 i e 4 1 6s 28 2 1 ",
    "c8 t 1 1 c8 2 1 1 c8 2 1 1 c0 1k 1 1 76 1 1 1 78 2 1 1 7c 6 4 1 78 6 1 1 78 2 2 1 cs 2 1 1 ",
    "i 2 2 1 cs 1s 1 1 c8 35 1 1 e 2 2 1 i 2c 1 1 c8 k0 3 1 cs qf 2 1 i w 1 1 i 4e 1 1 i b 1 1 ",
    "cs 5o 1 1 co 40 1 1 cc 1 1 1 cs 1 1 1 c8 64 1 1 cs 1 1 1 c8 20 1 1 i l 8 1 cs a 1 1 c8 1d ",
    "5 1 cs 5 6 1 c8 6 2 1 cs 2 1 1 c8 2 2 1 c8 2 2 1 cs 2 2 1 c8 2 5 1 cs 5 1 1 c8 1 4 1 cs 2x ",
    "1 1 e g 1 1 i 13 1 1 cs 1 1 1 c8 1 7 1 cs 1p 2 1 i 1o 1 1 e c 2 1 i 1x 1 1 e 49 3 1 cs 4 1 ",
    "1 2 1 5 1 c8 5 2 1 cs 2 4 1 c8 4 1 1 cs 2 7 1 2 b 1 1 c8 7 1 1 cs 4 2 1 cs 5k 2 1 cs 2 1 1 ",
    "c8 1 7 1 cs 7 1 1 c8 1 2 1 cs 2 1 1 d0 1 1 1 bw 1 1 1 c8 1 1 1 b8 1 11 1 cs 11 1 1 cw 1 2 ",
    "1 co 2 1 1 c8 1 1 1 c4 1 1 1 cs 1 1 1 cy 1 1 1 c8 1 1 1 cs 1 1 1 c8 k1 2 1 cs 2 2 1 2 2 4 ",
    "1 cs 4 3 1 2 3 2 1 cs 6 1 1 cs 4 2 1 2 2 1 1 cs 1 1 1 c8 1 1 1 cs 1 2 1 2 2 4 1 c8 4 1 1 ",
    "cs 2db 3 1 cs 40 1 1 i 2p w 1 cs ga 1 1 c4 1 1 1 co 1 1 1 cw 1 1 1 cc 1 2 1 cg 2z 2 1 g ",
    "n9y 1 1 cs 5 a 1 cs 16 2 1 cs 2a 2 1 cs 7q 1 1 i 12 1 1 i 48 1 1 i s i 1 cs 23 3 1 c8 14 1 ",
    "1 i 2o 1 1 e d 1 1 i 6o 1 1 cs 2 2 1 cs 2 1 1 c8 3 2 1 cs 7 2 1 cs 3 1 1 cs 1h 1 1 i 6v 1 ",
    "1 i fn5 1 1 1g le 7 1 cs 7 7 1 c8 7 2 1 cs r3 1 1 c8 6b 1 1 c8 46 5 1 cs 1av 1 1 c8 2 1 1 ",
    "cs 15 1 1 cs 1 1 1 2 1 1 1 c8 5 1 1 i 4m 1 1 cs 1 1 1 c8 fy 4 1 cs av 2 1 cs 4b 2 1 c8 2 3 ",
    "1 cs 3 1 1 c8 1 1 1 cs 1 4 1 c8 1h 1 1 cs 1 1 1 c8 1 1 1 cs 1 1 1 c8 5d 1 1 i 16 1 1 i f 1 ",
    "1 i 1m 1 1 i 1 1 1 e 1y 3 1 cs 1f 2 1 i 1s 1 1 e 25 1 1 i a 1 1 e 2z 1 1 i 1 1 1 e 4z 1 1 ",
    "e 1 1 1 i 29 2 1 e i 1 1 i p 7 1 cs a 5 1 cs 5u 1 1 i 4 1 1 e o 1 1 cs 2s 1 1 i 1 1 1 e 70 ",
    "1 1 i 1 1 1 e 3j 1 1 i 3b 1 1 i 1 1 1 e 38 1 1 i 7i 1 1 i 1 1 1 e 77 2 1 i 6 1 1 e 4d 1 1 ",
    "i 2c 1 1 i j 1 1 i 2a 1 1 i bq 1 1 i 77 1 1 e 2 2 1 i 2b 1 1 i fa1 5 1 2 1s 7 1 cs xs 2 1 ",
    "c f5a 1 1 2 43r 2 1 c0 2 3 1 2 6 1 1 ck 1 5 1 c0 d 8 1 c8 a 5 1 cs 5 2 1 c8 w 4 1 cs 48 3 ",
    "1 cs 2pq 7 1 cs 8 h 1 cs j 7 1 cs 8 2 1 cs 3 5 1 cs 7e 7 1 cs am 1 1 cs 1q 4 1 cs 15w 7 1 ",
    "c8 38 6 1 cs 6 1 1 e"]

/-- Pairs of characters and their composition. -/
def pairText : String :=
  String.join
   ["1o mw 6su 1p mw 6sg 1q mw 6sv 1t lc 5c 1t ld 5d 1t le 5e 1t lf 5f 1t lg 74 1t li 76 1t lj ",
    "fa 1t lk 5g 1t ll 61u 1t lm 5h 1t lo ct 1t lr e8 1t lt ea 1t mb 61s 1t md 5xc 1t mg 78 1u ",
    "lj 5xe 1u mb 5xg 1u mp 5xi 1v ld 7a 1v le 7c 1v lj 7e 1v lo 7g 1v mf 5j 1w lj 5xm 1w lo 7i ",
    "1w mb 5xo 1w mf 5xs 1w ml 5xu 1w mp 5xq 1x lc 5k 1x ld 5l 1x le 5m 1x lf 62k 1x lg 7m 1x ",
    "li 7o 1x lj 7q 1x lk 5n 1x ll 62i 1x lo 7u 1x lr ec 1x lt ee 1x mb 62g 1x mf fc 1x mg 7s ",
    "1x ml 5y0 1x mo 5y2 1y lj 5y6 1z ld dw 1z le 7w 1z lg 5y8 1z li 7y 1z lj 80 1z lo di 1z mf ",
    "82 20 le 84 20 lj 5ya 20 lk 5ye 20 lo f2 20 mb 5yc 20 mf 5yg 20 mm 5yi 21 lc 5o 21 ld 5p ",
    "21 le 5q 21 lf 88 21 lg 8a 21 li 8c 21 lj 8g 21 lk 5r 21 ll 62w 21 lo cv 21 lr eg 21 lt ei ",
    "21 mb 62y 21 mg 8e 21 mo 5yk 22 le 8k 23 ld 5yo 23 lo dk 23 mb 5yq 23 mf 8m 23 mp 5ys 24 ",
    "ld 8p 24 lo 8t 24 mb 5yu 24 mf 8r 24 ml 5z0 24 mp 5yy 25 ld 5z2 25 lj 5z4 25 mb 5z6 26 lc ",
    "e0 26 ld 8z 26 lf 5t 26 lj 5z8 26 lo 93 26 mb 5za 26 mf 91 26 ml 5ze 26 mp 5zc 27 lc 5u 27 ",
    "ld 5v 27 le 5w 27 lf 5x 27 lg 98 27 li 9a 27 lj fi 27 lk 5y 27 ll 632 27 ln 9c 27 lo cx 27 ",
    "lr ek 27 lt em 27 m3 bk 27 mb 630 27 mg dm 28 ld 5zo 28 lj 5zq 2a ld 9g 2a lj 5zs 2a lo 9k ",
    "2a lr eo 2a lt eq 2a mb 5zu 2a mf 9i 2a mp 5zy 2b ld 9m 2b le 9o 2b lj 600 2b lo 9s 2b mb ",
    "602 2b me ew 2b mf 9q 2c lj 60a 2c lo 9w 2c mb 60c 2c me ey 2c mf 9u 2c ml 60g 2c mp 60e ",
    "2d lc 61 2d ld 62 2d le 63 2d lf a0 2d lg a2 2d li a4 2d lk 64 2d ll 63q 2d lm a6 2d ln a8 ",
    "2d lo cz 2d lr es 2d lt eu 2d m3 bz 2d mb 63o 2d mc 60i 2d mg aa 2d ml 60m 2d mo 60k 2e lf ",
    "60s 2e mb 60u 2f lc 60w 2f ld 60y 2f le ac 2f lj 612 2f lk 610 2f mb 614 2g lj 616 2g lk ",
    "618 2h lc 642 2h ld 65 2h le ae 2h lf 648 2h lg fm 2h lj 61a 2h lk ag 2h ll 646 2h mb 644 ",
    "2i ld ah 2i le 61c 2i lj aj 2i lo al 2i mb 61e 2i mp 61g 2p lc 68 2p ld 69 2p le 6a 2p lf ",
    "6b 2p lg 75 2p li 77 2p lj fb 2p lk 6c 2p ll 61v 2p lm 6d 2p lo cu 2p lr e9 2p lt eb 2p mb ",
    "61t 2p md 5xd 2p mg 79 2q lj 5xf 2q mb 5xh 2q mp 5xj 2r ld 7b 2r le 7d 2r lj 7f 2r lo 7h ",
    "2r mf 6f 2s lj 5xn 2s lo 7j 2s mb 5xp 2s mf 5xt 2s ml 5xv 2s mp 5xr 2t lc 6g 2t ld 6h 2t ",
    "le 6i 2t lf 62l 2t lg 7n 2t li 7p 2t lj 7r 2t lk 6j 2t ll 62j 2t lo 7v 2t lr ed 2t lt ef ",
    "2t mb 62h 2t mf fd 2t mg 7t 2t ml 5y1 2t mo 5y3 2u lj 5y7 2v ld dx 2v le 7x 2v lg 5y9 2v ",
    "li 7z 2v lj 81 2v lo dj 2v mf 83 2w le 85 2w lj 5yb 2w lk 5yf 2w lo f3 2w mb 5yd 2w mf 5yh ",
    "2w mm 5yj 2w mp 61i 2x lc 6k 2x ld 6l 2x le 6m 2x lf 89 2x lg 8b 2x li 8d 2x lk 6n 2x ll ",
    "62x 2x lo cw 2x lr eh 2x lt ej 2x mb 62z 2x mg 8f 2x mo 5yl 2y le 8l 2y lo ds 2z ld 5yp 2z ",
    "lo dl 2z mb 5yr 2z mf 8n 2z mp 5yt 30 ld 8q 30 lo 8u 30 mb 5yv 30 mf 8s 30 ml 5z1 30 mp ",
    "5yz 31 ld 5z3 31 lj 5z5 31 mb 5z7 32 lc e1 32 ld 90 32 lf 6p 32 lj 5z9 32 lo 94 32 mb 5zb ",
    "32 mf 92 32 ml 5zf 32 mp 5zd 33 lc 6q 33 ld 6r 33 le 6s 33 lf 6t 33 lg 99 33 li 9b 33 lj ",
    "fj 33 lk 6u 33 ll 633 33 ln 9d 33 lo cy 33 lr el 33 lt en 33 m3 bl 33 mb 631 33 mg dn 34 ",
    "ld 5zp 34 lj 5zr 36 ld 9h 36 lj 5zt 36 lo 9l 36 lr ep 36 lt er 36 mb 5zv 36 mf 9j 36 mp ",
    "5zz 37 ld 9n 37 le 9p 37 lj 601 37 lo 9t 37 mb 603 37 me ex 37 mf 9r 38 lj 60b 38 lk 61j ",
    "38 lo 9x 38 mb 60d 38 me ez 38 mf 9v 38 ml 60h 38 mp 60f 39 lc 6x 39 ld 6y 39 le 6z 39 lf ",
    "a1 39 lg a3 39 li a5 39 lk 70 39 ll 63r 39 lm a7 39 ln a9 39 lo d0 39 lr et 39 lt ev 39 m3 ",
    "c0 39 mb 63p 39 mc 60j 39 mg ab 39 ml 60n 39 mo 60l 3a lf 60t 3a mb 60v 3b lc 60x 3b ld ",
    "60z 3b le ad 3b lj 613 3b lk 611 3b lm 61k 3b mb 615 3c lj 617 3c lk 619 3d lc 643 3d ld ",
    "71 3d le af 3d lf 649 3d lg fn 3d lj 61b 3d lk 73 3d ll 647 3d lm 61l 3d mb 645 3e ld ai ",
    "3e le 61d 3e lj ak 3e lo am 3e mb 61f 3e mp 61h 4o lc 6b1 4o ld p1 4o n6 69t 5e lc 61y 5e ",
    "ld 61w 5e lf 622 5e ll 620 5g lg da 5h ld e2 5i ld e4 5i lg de 5j ld 5xk 5m lc 62o 5m ld ",
    "62m 5m lf 62s 5m ll 62q 5r ld 5ym 5w lc 636 5w ld 634 5w lf 63a 5w ll 638 5x ld 5zg 5x lg ",
    "fg 5x lk 5zi 5y lg fe 60 ld e6 64 lc d7 64 ld d3 64 lg d1 64 lo d5 6a lc 61z 6a ld 61x 6a ",
    "lf 623 6a ll 621 6c lg db 6d ld e3 6e ld e5 6e lg df 6f ld 5xl 6i lc 62p 6i ld 62n 6i lf ",
    "62t 6i ll 62r 6n ld 5yn 6s lc 637 6s ld 635 6s lf 63b 6s ll 639 6t ld 5zh 6t lg fh 6t lk ",
    "5zj 6u lg ff 6w ld e7 70 lc d8 70 ld d4 70 lg d2 70 lo d6 76 lc 628 76 ld 626 76 lf 62c 76 ",
    "ll 62a 77 lc 629 77 ld 627 77 lf 62d 77 ll 62b 7m lc 5xw 7m ld 5xy 7n lc 5xx 7n ld 5xz 98 ",
    "lc 5zk 98 ld 5zm 99 lc 5zl 99 ld 5zn 9m lj 604 9n lj 605 9s lj 606 9t lj 607 a0 ld 60o a1 ",
    "ld 60p a2 lk 60q a3 lk 60r an lj 61n bk lc 63g bk ld 63e bk lf 63k bk ll 63i bk mb 63m bl ",
    "lc 63h bl ld 63f bl lf 63l bl ll 63j bl mb 63n bz lc 63u bz ld 63s bz lf 63y bz ll 63w bz ",
    "mb 640 c0 lc 63v c0 ld 63t c0 lf 63z c0 ll 63x c0 mb 641 c7 lo dq dm lg do dn lg dp fa lg ",
    "dc fb lg dd fc li 5y4 fd li 5y5 fi lg fk fj lg fl ia lo dr pd lc 69m pd ld p2 pd lg 69l pd ",
    "li 69k pd lv 64o pd lw 64p pd n9 69o ph lc 6a0 ph ld p4 ph lv 654 ph lw 655 pj lc 6a2 pj ",
    "ld p5 pj lv 65k pj lw 65l pj n9 6a4 pl lc 6ai pl ld p6 pl lg 6ah pl li 6ag pl lk q2 pl lv ",
    "660 pl lw 661 pr lc 6bc pr ld p8 pr lv 66g pr lw 66h pt lw 6b0 px lc 6ay px ld pa px lg ",
    "6ax px li 6aw px lk q3 px lw 66x q1 lc 6be q1 ld pb q1 lv 67c q1 lw 67d q1 n9 6bg q4 n9 ",
    "69g q6 n9 69w q9 lc 67k q9 ld q4 q9 lg 69d q9 li 69c q9 lv 64g q9 lw 64h q9 n6 69i q9 n9 ",
    "69f qd lc 67m qd ld q5 qd lv 64w qd lw 64x qf lc 67o qf ld q6 qf lv 65c qf lw 65d qf n6 ",
    "69y qf n9 69v qh lc 67q qh ld q7 qh lg 6a9 qh li 6a8 qh lk qy qh lv 65s qh lw 65t qh n6 ",
    "6ae qn lc 67s qn ld r0 qn lv 668 qn lw 669 qp lv 6as qp lw 6at qt lc 67u qt ld r1 qt lg ",
    "6ap qt li 6ao qt lk qz qt lv 66o qt lw 66p qt n6 6au qx lc 67w qx ld r2 qx lv 674 qx lw ",
    "675 qx n6 6ba qx n9 6b7 qy lc 6aa qy ld pc qy n6 6af qz lc 6aq qz ld q8 qz n6 6av r2 n9 ",
    "6b8 r6 ld r7 r6 lk r8 sm lk sn sw li y8 sw lk ya sz ld sj t1 lc sg t1 li ye t1 lk sh t2 li ",
    "xt t2 lk yk t3 lk ym t4 lc st t4 lg yq t4 li t5 t4 lk ys t6 ld ss ta lk yu tf lg z2 tf li ",
    "su tf lk z4 tf ln z6 tj lk z8 tn lk zc tp lk z0 ts li y9 ts lk yb tv ld ur tx lc uo tx li ",
    "yf tx lk up ty li xu ty lk yl tz lk yn u0 lc v1 u0 lg yr u0 li u1 u0 lk yt u2 ld v0 u6 lk ",
    "yv ub lg z3 ub li v2 ub lk z5 ub ln z7 uf lk z9 uj lk zd ul lk z1 uu lk uv vo lr vq vp lr ",
    "vr yg lk yi yh lk yj yw lk yy yx lk yz 17r 18z 17m 17r 190 17n 17r 191 17p 18o 190 17o 18q ",
    "190 17q 1c1 190 1c2 1ci 190 1cj 1cl 190 1c0 1t4 1to 1t5 1tc 1to 1td 1tf 1to 1tg 1xj 1xa ",
    "1xn 1xj 1xz 1xo 287 27y 28b 287 28m 288 287 28n 28c 2aa 2c7 2ac 2bq 2bi 2bu 2bq 2c7 2bw ",
    "2br 2bi 2bv 2fa 2fq 2fc 2in 2j9 2io 2iu 2iq 2iy 2iu 2j9 2iv 2iu 2ja 2iw 2iy 2j9 2iz 2me ",
    "2m6 2mi 2me 2mv 2mk 2mf 2m6 2mj 2qh 2q2 2qi 2qh 2q7 2qk 2qh 2qn 2qm 2qk 2q2 2ql 36t 372 ",
    "36u 5c5 5dh 5c6 5c7 5dh 5c8 5c9 5dh 5ca 5cb 5dh 5cc 5cd 5dh 5ce 5ch 5dh 5ci 5dm 5dh 5dn ",
    "5do 5dh 5dp 5dq 5dh 5ds 5dr 5dh 5dt 5du 5dh 5dv 5yu lg 5yw 5yv lg 5yx 5zu lg 5zw 5zv lg ",
    "5zx 602 lj 608 603 lj 609 61s le 624 61s li 62e 61t le 625 61t li 62f 62g le 62u 62h le ",
    "62v 630 le 63c 631 le 63d 64g lc 64i 64g ld 64k 64g n6 64m 64g n9 680 64h lc 64j 64h ld ",
    "64l 64h n6 64n 64h n9 681 64i n9 682 64j n9 683 64k n9 684 64l n9 685 64m n9 686 64n n9 ",
    "687 64o lc 64q 64o ld 64s 64o n6 64u 64o n9 688 64p lc 64r 64p ld 64t 64p n6 64v 64p n9 ",
    "689 64q n9 68a 64r n9 68b 64s n9 68c 64t n9 68d 64u n9 68e 64v n9 68f 64w lc 64y 64w ld ",
    "650 64x lc 64z 64x ld 651 654 lc 656 654 ld 658 655 lc 657 655 ld 659 65c lc 65e 65c ld ",
    "65g 65c n6 65i 65c n9 68g 65d lc 65f 65d ld 65h 65d n6 65j 65d n9 68h 65e n9 68i 65f n9 ",
    "68j 65g n9 68k 65h n9 68l 65i n9 68m 65j n9 68n 65k lc 65m 65k ld 65o 65k n6 65q 65k n9 ",
    "68o 65l lc 65n 65l ld 65p 65l n6 65r 65l n9 68p 65m n9 68q 65n n9 68r 65o n9 68s 65p n9 ",
    "68t 65q n9 68u 65r n9 68v 65s lc 65u 65s ld 65w 65s n6 65y 65t lc 65v 65t ld 65x 65t n6 ",
    "65z 660 lc 662 660 ld 664 660 n6 666 661 lc 663 661 ld 665 661 n6 667 668 lc 66a 668 ld ",
    "66c 669 lc 66b 669 ld 66d 66g lc 66i 66g ld 66k 66h lc 66j 66h ld 66l 66o lc 66q 66o ld ",
    "66s 66o n6 66u 66p lc 66r 66p ld 66t 66p n6 66v 66x lc 66z 66x ld 671 66x n6 673 674 lc ",
    "676 674 ld 678 674 n6 67a 674 n9 68w 675 lc 677 675 ld 679 675 n6 67b 675 n9 68x 676 n9 ",
    "68y 677 n9 68z 678 n9 690 679 n9 691 67a n9 692 67b n9 693 67c lc 67e 67c ld 67g 67c n6 ",
    "67i 67c n9 694 67d lc 67f 67d ld 67h 67d n6 67j 67d n9 695 67e n9 696 67f n9 697 67g n9 ",
    "698 67h n9 699 67i n9 69a 67j n9 69b 67k n9 69e 67o n9 69u 67w n9 6b6 69i n9 69j 69r lc ",
    "6a5 69r ld 6a6 69r n6 6a7 69y n9 69z 6ba n9 6bb 6bi lc 6al 6bi ld 6am 6bi n6 6an 6mo mw ",
    "6my 6mq mw 6mz 6ms mw 6ni 6og mw 6od 6oi mw 6of 6ok mw 6oe 6pv mw 6pw 6q0 mw 6q1 6q3 mw ",
    "6q4 6qr mw 6qs 6qt mw 6qu 6rg mw 6rl 6rn mw 6ro 6rp mw 6rr 6rs mw 6rt 6rx mw 6st 6sh mw ",
    "6si 6sk mw 6sw 6sl mw 6sx 6sy mw 6t0 6sz mw 6t1 6t2 mw 6t4 6t3 mw 6t5 6t6 mw 6tc 6t7 mw ",
    "6td 6t8 mw 6w0 6t9 mw 6w1 6te mw 6tg 6tf mw 6th 6ti mw 6tk 6tj mw 6tl 6tt mw 6w2 6tu mw ",
    "6w3 6ua mw 6uk 6ug mw 6ul 6uh mw 6um 6uj mw 6un 6uq mw 6wa 6ur mw 6wb 6us mw 6wc 6ut mw ",
    "6wd 9ja 9ll 9lg 9jf 9ll 9jg 9jh 9ll 9ji 9jj 9ll 9jk 9jl 9ll 9jm 9jn 9ll 9jo 9jp 9ll 9jq ",
    "9jr 9ll 9js 9jt 9ll 9ju 9jv 9ll 9jw 9jx 9ll 9jy 9jz 9ll 9k0 9k1 9ll 9k2 9k4 9ll 9k5 9k6 ",
    "9ll 9k7 9k8 9ll 9k9 9kf 9ll 9kg 9kf 9lm 9kh 9ki 9ll 9kj 9ki 9lm 9kk 9kl 9ll 9km 9kl 9lm ",
    "9kn 9ko 9ll 9kp 9ko 9lm 9kq 9kr 9ll 9ks 9kr 9lm 9kt 9lp 9ll 9lq 9ly 9ll 9o4 9m3 9ll 9m4 ",
    "9m5 9ll 9m6 9m7 9ll 9m8 9m9 9ll 9ma 9mb 9ll 9mc 9md 9ll 9me 9mf 9ll 9mg 9mh 9ll 9mi 9mj ",
    "9ll 9mk 9ml 9ll 9mm 9mn 9ll 9mo 9mp 9ll 9mq 9ms 9ll 9mt 9mu 9ll 9mv 9mw 9ll 9mx 9n3 9ll ",
    "9n4 9n3 9lm 9n5 9n6 9ll 9n7 9n6 9lm 9n8 9n9 9ll 9na 9n9 9lm 9nb 9nc 9ll 9nd 9nc 9lm 9ne ",
    "9nf 9ll 9ng 9nf 9lm 9nh 9nz 9ll 9o7 9o0 9ll 9o8 9o1 9ll 9o9 9o2 9ll 9oa 9od 9ll 9oe 1huh ",
    "1hve 1hui 1huj 1hve 1huk 1hut 1hve 1huz 1hyp 1hyf 1hym 1hyq 1hyf 1hyn 1idj 1ida 1idn 1idj ",
    "1idz 1ido 1int 1ink 1inw 1int 1inu 1inv 1int 1inx 1iny 1iuw 1iun 1iuy 1iux 1iun 1iuz 1jjp ",
    "1jjk 1jjs"]

/-- Characters that may start an identifier. -/
def starters : CharSet := CharSet.ofText startText

/-- Characters that may continue an identifier. -/
def continuers : CharSet := CharSet.ofText continueText

/-- Whether a character may start an identifier. -/
def startsIdentifier (c : Char) : Bool :=
  if c.toNat < 128 then c.isAlpha || c == '_' else starters.holds c

/-- Whether a character may continue an identifier. -/
def continuesIdentifier (c : Char) : Bool :=
  if c.toNat < 128 then c.isAlphanum || c == '_' else continuers.holds c

/-- Whether a text is an identifier. -/
def isIdentifier : List Char → Bool
  | [] => false
  | c :: r => startsIdentifier c && r.all continuesIdentifier

/-! ## Normal form -/

/-- Decompositions into one character. -/
def singles : CharMap := CharMap.ofText singleText

/-- Decompositions into several characters. -/
def severals : CharTexts := CharTexts.ofText severalText

/-- Combining classes, as the distance each character is moved. -/
def orders : CharMap := CharMap.ofText orderText

/-- Compositions of pairs, keyed by the two code points. -/
def pairs : Array (Nat × Nat) :=
  (go (numbers pairText).toList #[])
where
  /-- Read triples of two characters and their composition. -/
  go : List Nat → Array (Nat × Nat) → Array (Nat × Nat)
    | a :: b :: c :: rest, out => go rest (out.push (a * 0x200000 + b, c))
    | _, out => out

/-- The keys of the compositions, in order. -/
def pairKeys : Array Nat := pairs.map (·.1)

/-- The combining class of a character; zero for one that starts a sequence. -/
def combiningClass (c : Char) : Nat := orders.code c.toNat - c.toNat

/-- The compatibility decomposition of a character. Syllables of Hangul are taken apart by rule. -/
def decompose (c : Char) : List Char :=
  let n := c.toNat
  if n < 128 then [c]
  else if 0xac00 ≤ n && n ≤ 0xd7a3 then
    let i := n - 0xac00
    let lv := [Char.ofNat (0x1100 + i / 588), Char.ofNat (0x1161 + i % 588 / 28)]
    if i % 28 == 0 then lv else lv ++ [Char.ofNat (0x11a7 + i % 28)]
  else (severals.text? c).getD [singles.char c]

/-- Put a mark into a reversed run of marks: before all marks of a higher class. -/
def insertMark (c : Char) : List Char → List Char
  | [] => [c]
  | d :: r =>
    if combiningClass d > combiningClass c && combiningClass c != 0 then d :: insertMark c r
    else c :: d :: r

/-- Canonical order: marks between two starters are sorted by class, stably. -/
def reorder (s : List Char) : List Char := (s.foldl (fun acc c => insertMark c acc) []).reverse

/-- The composition of two characters. -/
def compose? (a b : Char) : Option Char :=
  let x := a.toNat
  let y := b.toNat
  if 0x1100 ≤ x && x < 0x1113 && 0x1161 ≤ y && y < 0x1176 then
    some (Char.ofNat (0xac00 + ((x - 0x1100) * 21 + (y - 0x1161)) * 28))
  else if 0xac00 ≤ x && x ≤ 0xd7a3 && (x - 0xac00) % 28 == 0 && 0x11a8 ≤ y && y < 0x11c3 then
    some (Char.ofNat (x + (y - 0x11a7)))
  else
    let key := x * 0x200000 + y
    match rank pairKeys key with
    | 0 => none
    | i + 1 => if pairKeys.getD i 0 == key then pairs[i]?.map fun p => Char.ofNat p.2 else none

/-- Compose the rest of a text with the last starter. `marks` holds the marks kept since, last one
first. -/
def composeFrom (starter : Option Char) (marks : List Char) : List Char → List Char
  | [] => starter.toList ++ marks.reverse
  | c :: r =>
    let k := combiningClass c
    let blocked := match marks.head? with
      | none => false
      | some m => combiningClass m == 0 || combiningClass m ≥ k
    let joined := match starter with
      | some s => if blocked then none else compose? s c
      | none => none
    match joined with
    | some d => composeFrom (some d) marks r
    | none =>
      if k == 0 then starter.toList ++ marks.reverse ++ composeFrom (some c) [] r
      else composeFrom starter (c :: marks) r

/-- The compatibility normal form of an identifier. -/
def normalForm (s : List Char) : List Char :=
  if s.all (·.toNat < 128) then s
  else composeFrom none [] (reorder (s.flatMap decompose))

end Stencil.Text
