/-!
# Stencil.Text.NameTable -- the names of characters

The names of all characters, but for those that are computed. The table is one text, cut into
strings. Its entries are separated by semicolons, and stand for one character after the other: a
digit says with how many words of the name before a name begins, and the others follow. An entry
after an at sign is the code point, in hexadecimal digits, of the character that comes next.

Behind the names of Unicode 14 come the other names that it lists for characters.
-/

namespace Stencil.Text

set_option maxRecDepth 20000 in
/-- The table of names, in parts. -/
def nameTable : List (List String) :=
  [["@20;0SPACE;0EXCLAMATION MARK;0QUOTATION MARK;0NUMBER SIGN;0DOLLAR SIGN;0PERCENT SIGN",
    ";0AMPERSAND;0APOSTROPHE;0LEFT PARENTHESIS;0RIGHT PARENTHESIS;0ASTERISK;0PLUS SIGN;0COMMA",
    ";0HYPHEN-MINUS;0FULL STOP;0SOLIDUS;0DIGIT ZERO;1ONE;1TWO;1THREE;1FOUR;1FIVE;1SIX;1SEVEN",
    ";1EIGHT;1NINE;0COLON;0SEMICOLON;0LESS-THAN SIGN;0EQUALS SIGN;0GREATER-THAN SIGN",
    ";0QUESTION MARK;0COMMERCIAL AT;0LATIN CAPITAL LETTER A;3B;3C;3D;3E;3F;3G;3H;3I;3J;3K;3L;3M",
    ";3N;3O;3P;3Q;3R;3S;3T;3U;3V;3W;3X;3Y;3Z;0LEFT SQUARE BRACKET;0REVERSE SOLIDUS",
    ";0RIGHT SQUARE BRACKET;0CIRCUMFLEX ACCENT;0LOW LINE;0GRAVE ACCENT;0LATIN SMALL LETTER A;3B",
    ";3C;3D;3E;3F;3G;3H;3I;3J;3K;3L;3M;3N;3O;3P;3Q;3R;3S;3T;3U;3V;3W;3X;3Y;3Z;0LEFT CURLY BRACKET",
    ";0VERTICAL LINE;0RIGHT CURLY BRACKET;0TILDE;@A0;0NO-BREAK SPACE;0INVERTED EXCLAMATION MARK",
    ";0CENT SIGN;0POUND SIGN;0CURRENCY SIGN;0YEN SIGN;0BROKEN BAR;0SECTION SIGN;0DIAERESIS",
    ";0COPYRIGHT SIGN;0FEMININE ORDINAL INDICATOR;0LEFT-POINTING DOUBLE ANGLE QUOTATION MARK",
    ";0NOT SIGN;0SOFT HYPHEN;0REGISTERED SIGN;0MACRON;0DEGREE SIGN;0PLUS-MINUS SIGN",
    ";0SUPERSCRIPT TWO;1THREE;0ACUTE ACCENT;0MICRO SIGN;0PILCROW SIGN;0MIDDLE DOT;0CEDILLA",
    ";0SUPERSCRIPT ONE;0MASCULINE ORDINAL INDICATOR;0RIGHT-POINTING DOUBLE ANGLE QUOTATION MARK",
    ";0VULGAR FRACTION ONE QUARTER;3HALF;2THREE QUARTERS;0INVERTED QUESTION MARK",
    ";0LATIN CAPITAL LETTER A WITH GRAVE;5ACUTE;5CIRCUMFLEX;5TILDE;5DIAERESIS;5RING ABOVE;3AE",
    ";3C WITH CEDILLA;3E WITH GRAVE;5ACUTE;5CIRCUMFLEX;5DIAERESIS;3I WITH GRAVE;5ACUTE",
    ";5CIRCUMFLEX;5DIAERESIS;3ETH;3N WITH TILDE;3O WITH GRAVE;5ACUTE;5CIRCUMFLEX;5TILDE",
    ";5DIAERESIS;0MULTIPLICATION SIGN;0LATIN CAPITAL LETTER O WITH STROKE;3U WITH GRAVE;5ACUTE",
    ";5CIRCUMFLEX;5DIAERESIS;3Y WITH ACUTE;3THORN;1SMALL LETTER SHARP S;3A WITH GRAVE;5ACUTE",
    ";5CIRCUMFLEX;5TILDE;5DIAERESIS;5RING ABOVE;3AE;3C WITH CEDILLA;3E WITH GRAVE;5ACUTE",
    ";5CIRCUMFLEX;5DIAERESIS;3I WITH GRAVE;5ACUTE;5CIRCUMFLEX;5DIAERESIS;3ETH;3N WITH TILDE",
    ";3O WITH GRAVE;5ACUTE;5CIRCUMFLEX;5TILDE;5DIAERESIS;0DIVISION SIGN",
    ";0LATIN SMALL LETTER O WITH STROKE;3U WITH GRAVE;5ACUTE;5CIRCUMFLEX;5DIAERESIS;3Y WITH ACUTE",
    ";3THORN;3Y WITH DIAERESIS;1CAPITAL LETTER A WITH MACRON;1SMALL LETTER A WITH MACRON",
    ";1CAPITAL LETTER A WITH BREVE;1SMALL LETTER A WITH BREVE;1CAPITAL LETTER A WITH OGONEK",
    ";1SMALL LETTER A WITH OGONEK;1CAPITAL LETTER C WITH ACUTE;1SMALL LETTER C WITH ACUTE",
    ";1CAPITAL LETTER C WITH CIRCUMFLEX;1SMALL LETTER C WITH CIRCUMFLEX",
    ";1CAPITAL LETTER C WITH DOT ABOVE;1SMALL LETTER C WITH DOT ABOVE",
    ";1CAPITAL LETTER C WITH CARON;1SMALL LETTER C WITH CARON;1CAPITAL LETTER D WITH CARON",
    ";1SMALL LETTER D WITH CARON;1CAPITAL LETTER D WITH STROKE;1SMALL LETTER D WITH STROKE",
    ";1CAPITAL LETTER E WITH MACRON;1SMALL LETTER E WITH MACRON;1CAPITAL LETTER E WITH BREVE",
    ";1SMALL LETTER E WITH BREVE;1CAPITAL LETTER E WITH DOT ABOVE;1SMALL LETTER E WITH DOT ABOVE",
    ";1CAPITAL LETTER E WITH OGONEK;1SMALL LETTER E WITH OGONEK;1CAPITAL LETTER E WITH CARON",
    ";1SMALL LETTER E WITH CARON;1CAPITAL LETTER G WITH CIRCUMFLEX",
    ";1SMALL LETTER G WITH CIRCUMFLEX;1CAPITAL LETTER G WITH BREVE;1SMALL LETTER G WITH BREVE",
    ";1CAPITAL LETTER G WITH DOT ABOVE;1SMALL LETTER G WITH DOT ABOVE",
    ";1CAPITAL LETTER G WITH CEDILLA;1SMALL LETTER G WITH CEDILLA",
    ";1CAPITAL LETTER H WITH CIRCUMFLEX;1SMALL LETTER H WITH CIRCUMFLEX",
    ";1CAPITAL LETTER H WITH STROKE;1SMALL LETTER H WITH STROKE;1CAPITAL LETTER I WITH TILDE",
    ";1SMALL LETTER I WITH TILDE;1CAPITAL LETTER I WITH MACRON;1SMALL LETTER I WITH MACRON",
    ";1CAPITAL LETTER I WITH BREVE;1SMALL LETTER I WITH BREVE;1CAPITAL LETTER I WITH OGONEK",
    ";1SMALL LETTER I WITH OGONEK;1CAPITAL LETTER I WITH DOT ABOVE;1SMALL LETTER DOTLESS I",
    ";1CAPITAL LIGATURE IJ;1SMALL LIGATURE IJ;1CAPITAL LETTER J WITH CIRCUMFLEX",
    ";1SMALL LETTER J WITH CIRCUMFLEX;1CAPITAL LETTER K WITH CEDILLA;1SMALL LETTER K WITH CEDILLA",
    ";3KRA;1CAPITAL LETTER L WITH ACUTE;1SMALL LETTER L WITH ACUTE;1CAPITAL LETTER L WITH CEDILLA",
    ";1SMALL LETTER L WITH CEDILLA;1CAPITAL LETTER L WITH CARON;1SMALL LETTER L WITH CARON",
    ";1CAPITAL LETTER L WITH MIDDLE DOT;1SMALL LETTER L WITH MIDDLE DOT",
    ";1CAPITAL LETTER L WITH STROKE;1SMALL LETTER L WITH STROKE;1CAPITAL LETTER N WITH ACUTE",
    ";1SMALL LETTER N WITH ACUTE;1CAPITAL LETTER N WITH CEDILLA;1SMALL LETTER N WITH CEDILLA",
    ";1CAPITAL LETTER N WITH CARON;1SMALL LETTER N WITH CARON;4PRECEDED BY APOSTROPHE",
    ";1CAPITAL LETTER ENG;1SMALL LETTER ENG;1CAPITAL LETTER O WITH MACRON",
    ";1SMALL LETTER O WITH MACRON;1CAPITAL LETTER O WITH BREVE;1SMALL LETTER O WITH BREVE",
    ";1CAPITAL LETTER O WITH DOUBLE ACUTE;1SMALL LETTER O WITH DOUBLE ACUTE;1CAPITAL LIGATURE OE",
    ";1SMALL LIGATURE OE;1CAPITAL LETTER R WITH ACUTE;1SMALL LETTER R WITH ACUTE",
    ";1CAPITAL LETTER R WITH CEDILLA;1SMALL LETTER R WITH CEDILLA;1CAPITAL LETTER R WITH CARON",
    ";1SMALL LETTER R WITH CARON;1CAPITAL LETTER S WITH ACUTE;1SMALL LETTER S WITH ACUTE",
    ";1CAPITAL LETTER S WITH CIRCUMFLEX;1SMALL LETTER S WITH CIRCUMFLEX",
    ";1CAPITAL LETTER S WITH CEDILLA;1SMALL LETTER S WITH CEDILLA;1CAPITAL LETTER S WITH CARON",
    ";1SMALL LETTER S WITH CARON;1CAPITAL LETTER T WITH CEDILLA;1SMALL LETTER T WITH CEDILLA",
    ";1CAPITAL LETTER T WITH CARON"],
   [";1SMALL LETTER T WITH CARON;1CAPITAL LETTER T WITH STROKE;1SMALL LETTER T WITH STROKE",
    ";1CAPITAL LETTER U WITH TILDE;1SMALL LETTER U WITH TILDE;1CAPITAL LETTER U WITH MACRON",
    ";1SMALL LETTER U WITH MACRON;1CAPITAL LETTER U WITH BREVE;1SMALL LETTER U WITH BREVE",
    ";1CAPITAL LETTER U WITH RING ABOVE;1SMALL LETTER U WITH RING ABOVE",
    ";1CAPITAL LETTER U WITH DOUBLE ACUTE;1SMALL LETTER U WITH DOUBLE ACUTE",
    ";1CAPITAL LETTER U WITH OGONEK;1SMALL LETTER U WITH OGONEK;1CAPITAL LETTER W WITH CIRCUMFLEX",
    ";1SMALL LETTER W WITH CIRCUMFLEX;1CAPITAL LETTER Y WITH CIRCUMFLEX",
    ";1SMALL LETTER Y WITH CIRCUMFLEX;1CAPITAL LETTER Y WITH DIAERESIS;3Z WITH ACUTE",
    ";1SMALL LETTER Z WITH ACUTE;1CAPITAL LETTER Z WITH DOT ABOVE;1SMALL LETTER Z WITH DOT ABOVE",
    ";1CAPITAL LETTER Z WITH CARON;1SMALL LETTER Z WITH CARON;3LONG S;3B WITH STROKE",
    ";1CAPITAL LETTER B WITH HOOK;5TOPBAR;1SMALL LETTER B WITH TOPBAR;1CAPITAL LETTER TONE SIX",
    ";1SMALL LETTER TONE SIX;1CAPITAL LETTER OPEN O;3C WITH HOOK;1SMALL LETTER C WITH HOOK",
    ";1CAPITAL LETTER AFRICAN D;3D WITH HOOK;5TOPBAR;1SMALL LETTER D WITH TOPBAR;3TURNED DELTA",
    ";1CAPITAL LETTER REVERSED E;3SCHWA;3OPEN E;3F WITH HOOK;1SMALL LETTER F WITH HOOK",
    ";1CAPITAL LETTER G WITH HOOK;3GAMMA;1SMALL LETTER HV;1CAPITAL LETTER IOTA;3I WITH STROKE",
    ";3K WITH HOOK;1SMALL LETTER K WITH HOOK;3L WITH BAR;3LAMBDA WITH STROKE",
    ";1CAPITAL LETTER TURNED M;3N WITH LEFT HOOK;1SMALL LETTER N WITH LONG RIGHT LEG",
    ";1CAPITAL LETTER O WITH MIDDLE TILDE;5HORN;1SMALL LETTER O WITH HORN;1CAPITAL LETTER OI",
    ";1SMALL LETTER OI;1CAPITAL LETTER P WITH HOOK;1SMALL LETTER P WITH HOOK;1LETTER YR",
    ";1CAPITAL LETTER TONE TWO;1SMALL LETTER TONE TWO;1CAPITAL LETTER ESH",
    ";1LETTER REVERSED ESH LOOP;1SMALL LETTER T WITH PALATAL HOOK;1CAPITAL LETTER T WITH HOOK",
    ";1SMALL LETTER T WITH HOOK;1CAPITAL LETTER T WITH RETROFLEX HOOK;3U WITH HORN",
    ";1SMALL LETTER U WITH HORN;1CAPITAL LETTER UPSILON;3V WITH HOOK;3Y WITH HOOK",
    ";1SMALL LETTER Y WITH HOOK;1CAPITAL LETTER Z WITH STROKE;1SMALL LETTER Z WITH STROKE",
    ";1CAPITAL LETTER EZH;4REVERSED;1SMALL LETTER EZH REVERSED;4WITH TAIL;1LETTER TWO WITH STROKE",
    ";1CAPITAL LETTER TONE FIVE;1SMALL LETTER TONE FIVE;1LETTER INVERTED GLOTTAL STOP WITH STROKE",
    ";2WYNN;2DENTAL CLICK;2LATERAL CLICK;2ALVEOLAR CLICK;2RETROFLEX CLICK",
    ";1CAPITAL LETTER DZ WITH CARON;3D WITH SMALL LETTER Z WITH CARON;1SMALL LETTER DZ WITH CARON",
    ";1CAPITAL LETTER LJ;3L WITH SMALL LETTER J;1SMALL LETTER LJ;1CAPITAL LETTER NJ",
    ";3N WITH SMALL LETTER J;1SMALL LETTER NJ;1CAPITAL LETTER A WITH CARON",
    ";1SMALL LETTER A WITH CARON;1CAPITAL LETTER I WITH CARON;1SMALL LETTER I WITH CARON",
    ";1CAPITAL LETTER O WITH CARON;1SMALL LETTER O WITH CARON;1CAPITAL LETTER U WITH CARON",
    ";1SMALL LETTER U WITH CARON;1CAPITAL LETTER U WITH DIAERESIS AND MACRON",
    ";1SMALL LETTER U WITH DIAERESIS AND MACRON;1CAPITAL LETTER U WITH DIAERESIS AND ACUTE",
    ";1SMALL LETTER U WITH DIAERESIS AND ACUTE;1CAPITAL LETTER U WITH DIAERESIS AND CARON",
    ";1SMALL LETTER U WITH DIAERESIS AND CARON;1CAPITAL LETTER U WITH DIAERESIS AND GRAVE",
    ";1SMALL LETTER U WITH DIAERESIS AND GRAVE;3TURNED E",
    ";1CAPITAL LETTER A WITH DIAERESIS AND MACRON;1SMALL LETTER A WITH DIAERESIS AND MACRON",
    ";1CAPITAL LETTER A WITH DOT ABOVE AND MACRON;1SMALL LETTER A WITH DOT ABOVE AND MACRON",
    ";1CAPITAL LETTER AE WITH MACRON;1SMALL LETTER AE WITH MACRON;1CAPITAL LETTER G WITH STROKE",
    ";1SMALL LETTER G WITH STROKE;1CAPITAL LETTER G WITH CARON;1SMALL LETTER G WITH CARON",
    ";1CAPITAL LETTER K WITH CARON;1SMALL LETTER K WITH CARON;1CAPITAL LETTER O WITH OGONEK",
    ";1SMALL LETTER O WITH OGONEK;1CAPITAL LETTER O WITH OGONEK AND MACRON",
    ";1SMALL LETTER O WITH OGONEK AND MACRON;1CAPITAL LETTER EZH WITH CARON",
    ";1SMALL LETTER EZH WITH CARON;3J WITH CARON;1CAPITAL LETTER DZ;3D WITH SMALL LETTER Z",
    ";1SMALL LETTER DZ;1CAPITAL LETTER G WITH ACUTE;1SMALL LETTER G WITH ACUTE",
    ";1CAPITAL LETTER HWAIR;3WYNN;3N WITH GRAVE;1SMALL LETTER N WITH GRAVE",
    ";1CAPITAL LETTER A WITH RING ABOVE AND ACUTE;1SMALL LETTER A WITH RING ABOVE AND ACUTE",
    ";1CAPITAL LETTER AE WITH ACUTE;1SMALL LETTER AE WITH ACUTE",
    ";1CAPITAL LETTER O WITH STROKE AND ACUTE;1SMALL LETTER O WITH STROKE AND ACUTE",
    ";1CAPITAL LETTER A WITH DOUBLE GRAVE;1SMALL LETTER A WITH DOUBLE GRAVE",
    ";1CAPITAL LETTER A WITH INVERTED BREVE;1SMALL LETTER A WITH INVERTED BREVE",
    ";1CAPITAL LETTER E WITH DOUBLE GRAVE;1SMALL LETTER E WITH DOUBLE GRAVE",
    ";1CAPITAL LETTER E WITH INVERTED BREVE;1SMALL LETTER E WITH INVERTED BREVE",
    ";1CAPITAL LETTER I WITH DOUBLE GRAVE;1SMALL LETTER I WITH DOUBLE GRAVE",
    ";1CAPITAL LETTER I WITH INVERTED BREVE;1SMALL LETTER I WITH INVERTED BREVE",
    ";1CAPITAL LETTER O WITH DOUBLE GRAVE;1SMALL LETTER O WITH DOUBLE GRAVE",
    ";1CAPITAL LETTER O WITH INVERTED BREVE;1SMALL LETTER O WITH INVERTED BREVE",
    ";1CAPITAL LETTER R WITH DOUBLE GRAVE;1SMALL LETTER R WITH DOUBLE GRAVE",
    ";1CAPITAL LETTER R WITH INVERTED BREVE;1SMALL LETTER R WITH INVERTED BREVE",
    ";1CAPITAL LETTER U WITH DOUBLE GRAVE"],
   [";1SMALL LETTER U WITH DOUBLE GRAVE;1CAPITAL LETTER U WITH INVERTED BREVE",
    ";1SMALL LETTER U WITH INVERTED BREVE;1CAPITAL LETTER S WITH COMMA BELOW",
    ";1SMALL LETTER S WITH COMMA BELOW;1CAPITAL LETTER T WITH COMMA BELOW",
    ";1SMALL LETTER T WITH COMMA BELOW;1CAPITAL LETTER YOGH;1SMALL LETTER YOGH",
    ";1CAPITAL LETTER H WITH CARON;1SMALL LETTER H WITH CARON",
    ";1CAPITAL LETTER N WITH LONG RIGHT LEG;1SMALL LETTER D WITH CURL;1CAPITAL LETTER OU",
    ";1SMALL LETTER OU;1CAPITAL LETTER Z WITH HOOK;1SMALL LETTER Z WITH HOOK",
    ";1CAPITAL LETTER A WITH DOT ABOVE;1SMALL LETTER A WITH DOT ABOVE",
    ";1CAPITAL LETTER E WITH CEDILLA;1SMALL LETTER E WITH CEDILLA",
    ";1CAPITAL LETTER O WITH DIAERESIS AND MACRON;1SMALL LETTER O WITH DIAERESIS AND MACRON",
    ";1CAPITAL LETTER O WITH TILDE AND MACRON;1SMALL LETTER O WITH TILDE AND MACRON",
    ";1CAPITAL LETTER O WITH DOT ABOVE;1SMALL LETTER O WITH DOT ABOVE",
    ";1CAPITAL LETTER O WITH DOT ABOVE AND MACRON;1SMALL LETTER O WITH DOT ABOVE AND MACRON",
    ";1CAPITAL LETTER Y WITH MACRON;1SMALL LETTER Y WITH MACRON;3L WITH CURL;3N WITH CURL",
    ";3T WITH CURL;3DOTLESS J;3DB DIGRAPH;3QP DIGRAPH;1CAPITAL LETTER A WITH STROKE",
    ";3C WITH STROKE;1SMALL LETTER C WITH STROKE;1CAPITAL LETTER L WITH BAR",
    ";3T WITH DIAGONAL STROKE;1SMALL LETTER S WITH SWASH TAIL;3Z WITH SWASH TAIL",
    ";1CAPITAL LETTER GLOTTAL STOP;1SMALL LETTER GLOTTAL STOP;1CAPITAL LETTER B WITH STROKE",
    ";3U BAR;3TURNED V;3E WITH STROKE;1SMALL LETTER E WITH STROKE;1CAPITAL LETTER J WITH STROKE",
    ";1SMALL LETTER J WITH STROKE;1CAPITAL LETTER SMALL Q WITH HOOK TAIL",
    ";1SMALL LETTER Q WITH HOOK TAIL;1CAPITAL LETTER R WITH STROKE;1SMALL LETTER R WITH STROKE",
    ";1CAPITAL LETTER Y WITH STROKE;1SMALL LETTER Y WITH STROKE;3TURNED A;3ALPHA;3TURNED ALPHA",
    ";3B WITH HOOK;3OPEN O;3C WITH CURL;3D WITH TAIL;5HOOK;3REVERSED E;3SCHWA;4WITH HOOK;3OPEN E",
    ";3REVERSED OPEN E;6WITH HOOK;3CLOSED REVERSED OPEN E;3DOTLESS J WITH STROKE;3G WITH HOOK",
    ";3SCRIPT G;1LETTER SMALL CAPITAL G;1SMALL LETTER GAMMA;3RAMS HORN;3TURNED H;3H WITH HOOK",
    ";3HENG WITH HOOK;3I WITH STROKE;3IOTA;1LETTER SMALL CAPITAL I",
    ";1SMALL LETTER L WITH MIDDLE TILDE;5BELT;5RETROFLEX HOOK;3LEZH;3TURNED M;5WITH LONG LEG",
    ";3M WITH HOOK;3N WITH LEFT HOOK;5RETROFLEX HOOK;1LETTER SMALL CAPITAL N",
    ";1SMALL LETTER BARRED O;1LETTER SMALL CAPITAL OE;1SMALL LETTER CLOSED OMEGA;3PHI;3TURNED R",
    ";5WITH LONG LEG;6HOOK;3R WITH LONG LEG;5TAIL;5FISHHOOK;3REVERSED R WITH FISHHOOK",
    ";1LETTER SMALL CAPITAL R;4INVERTED R;1SMALL LETTER S WITH HOOK;3ESH",
    ";3DOTLESS J WITH STROKE AND HOOK;3SQUAT REVERSED ESH;3ESH WITH CURL;3TURNED T",
    ";3T WITH RETROFLEX HOOK;3U BAR;3UPSILON;3V WITH HOOK;3TURNED V;4W;4Y;1LETTER SMALL CAPITAL Y",
    ";1SMALL LETTER Z WITH RETROFLEX HOOK;5CURL;3EZH;4WITH CURL;1LETTER GLOTTAL STOP",
    ";2PHARYNGEAL VOICED FRICATIVE;2INVERTED GLOTTAL STOP;2STRETCHED C;2BILABIAL CLICK",
    ";2SMALL CAPITAL B;1SMALL LETTER CLOSED OPEN E;1LETTER SMALL CAPITAL G WITH HOOK;4H",
    ";1SMALL LETTER J WITH CROSSED-TAIL;3TURNED K;1LETTER SMALL CAPITAL L",
    ";1SMALL LETTER Q WITH HOOK;1LETTER GLOTTAL STOP WITH STROKE",
    ";2REVERSED GLOTTAL STOP WITH STROKE;1SMALL LETTER DZ DIGRAPH;3DEZH DIGRAPH",
    ";3DZ DIGRAPH WITH CURL;3TS DIGRAPH;3TESH DIGRAPH;3TC DIGRAPH WITH CURL;3FENG DIGRAPH",
    ";3LS DIGRAPH;3LZ DIGRAPH;1LETTER BILABIAL PERCUSSIVE;2BIDENTAL PERCUSSIVE",
    ";1SMALL LETTER TURNED H WITH FISHHOOK;7AND TAIL;0MODIFIER LETTER SMALL H;4WITH HOOK;3J;3R",
    ";3TURNED R;5WITH HOOK;3CAPITAL INVERTED R;3W;3Y;2PRIME;2DOUBLE PRIME;2TURNED COMMA",
    ";2APOSTROPHE;2REVERSED COMMA;2RIGHT HALF RING;2LEFT HALF RING;2GLOTTAL STOP",
    ";2REVERSED GLOTTAL STOP;2LEFT ARROWHEAD;2RIGHT ARROWHEAD;2UP ARROWHEAD;2DOWN ARROWHEAD",
    ";2CIRCUMFLEX ACCENT;0CARON;0MODIFIER LETTER VERTICAL LINE;2MACRON;2ACUTE ACCENT",
    ";2GRAVE ACCENT;2LOW VERTICAL LINE;3MACRON;3GRAVE ACCENT;3ACUTE ACCENT;2TRIANGULAR COLON",
    ";2HALF TRIANGULAR COLON;2CENTRED RIGHT HALF RING;3LEFT HALF RING;2UP TACK;2DOWN TACK",
    ";2PLUS SIGN;2MINUS SIGN;0BREVE;0DOT ABOVE;0RING ABOVE;0OGONEK;0SMALL TILDE",
    ";0DOUBLE ACUTE ACCENT;0MODIFIER LETTER RHOTIC HOOK;2CROSS ACCENT;2SMALL GAMMA;3L;3S;3X",
    ";3REVERSED GLOTTAL STOP;2EXTRA-HIGH TONE BAR;2HIGH TONE BAR;2MID TONE BAR;2LOW TONE BAR",
    ";2EXTRA-LOW TONE BAR;2YIN DEPARTING TONE MARK;2YANG DEPARTING TONE MARK;2VOICING",
    ";2UNASPIRATED;2DOUBLE APOSTROPHE;2LOW DOWN ARROWHEAD;3UP ARROWHEAD;3LEFT ARROWHEAD",
    ";3RIGHT ARROWHEAD;3RING;2MIDDLE GRAVE ACCENT;3DOUBLE GRAVE ACCENT;4ACUTE ACCENT;2LOW TILDE",
    ";2RAISED COLON;2BEGIN HIGH TONE;2END HIGH TONE;2BEGIN LOW TONE;2END LOW TONE;2SHELF",
    ";2OPEN SHELF;2LOW LEFT ARROW;0COMBINING GRAVE ACCENT;1ACUTE ACCENT;1CIRCUMFLEX ACCENT;1TILDE",
    ";1MACRON;1OVERLINE;1BREVE;1DOT ABOVE;1DIAERESIS;1HOOK ABOVE;1RING ABOVE;1DOUBLE ACUTE ACCENT",
    ";1CARON;1VERTICAL LINE ABOVE;1DOUBLE VERTICAL LINE ABOVE;2GRAVE ACCENT;1CANDRABINDU",
    ";1INVERTED BREVE;1TURNED COMMA ABOVE;1COMMA ABOVE;1REVERSED COMMA ABOVE;1COMMA ABOVE RIGHT",
    ";1GRAVE ACCENT BELOW;1ACUTE ACCENT BELOW;1LEFT TACK BELOW;1RIGHT TACK BELOW",
    ";1LEFT ANGLE ABOVE"],
   [";1HORN;1LEFT HALF RING BELOW;1UP TACK BELOW;1DOWN TACK BELOW;1PLUS SIGN BELOW",
    ";1MINUS SIGN BELOW;1PALATALIZED HOOK BELOW;1RETROFLEX HOOK BELOW;1DOT BELOW;1DIAERESIS BELOW",
    ";1RING BELOW;1COMMA BELOW;1CEDILLA;1OGONEK;1VERTICAL LINE BELOW;1BRIDGE BELOW",
    ";1INVERTED DOUBLE ARCH BELOW;1CARON BELOW;1CIRCUMFLEX ACCENT BELOW;1BREVE BELOW",
    ";1INVERTED BREVE BELOW;1TILDE BELOW;1MACRON BELOW;1LOW LINE;1DOUBLE LOW LINE;1TILDE OVERLAY",
    ";1SHORT STROKE OVERLAY;1LONG STROKE OVERLAY;1SHORT SOLIDUS OVERLAY;1LONG SOLIDUS OVERLAY",
    ";1RIGHT HALF RING BELOW;1INVERTED BRIDGE BELOW;1SQUARE BELOW;1SEAGULL BELOW;1X ABOVE",
    ";1VERTICAL TILDE;1DOUBLE OVERLINE;1GRAVE TONE MARK;1ACUTE TONE MARK;1GREEK PERISPOMENI",
    ";2KORONIS;2DIALYTIKA TONOS;2YPOGEGRAMMENI;1BRIDGE ABOVE;1EQUALS SIGN BELOW",
    ";1DOUBLE VERTICAL LINE BELOW;1LEFT ANGLE BELOW;1NOT TILDE ABOVE;1HOMOTHETIC ABOVE",
    ";1ALMOST EQUAL TO ABOVE;1LEFT RIGHT ARROW BELOW;1UPWARDS ARROW BELOW;1GRAPHEME JOINER",
    ";1RIGHT ARROWHEAD ABOVE;1LEFT HALF RING ABOVE;1FERMATA;1X BELOW;1LEFT ARROWHEAD BELOW",
    ";1RIGHT ARROWHEAD BELOW;3AND UP ARROWHEAD BELOW;2HALF RING ABOVE;1DOT ABOVE RIGHT",
    ";1ASTERISK BELOW;1DOUBLE RING BELOW;1ZIGZAG ABOVE;1DOUBLE BREVE BELOW;2BREVE;2MACRON;3BELOW",
    ";2TILDE;2INVERTED BREVE;2RIGHTWARDS ARROW BELOW;1LATIN SMALL LETTER A;4E;4I;4O;4U;4C;4D;4H",
    ";4M;4R;4T;4V;4X;0GREEK CAPITAL LETTER HETA;1SMALL LETTER HETA;1CAPITAL LETTER ARCHAIC SAMPI",
    ";1SMALL LETTER ARCHAIC SAMPI;1NUMERAL SIGN;1LOWER NUMERAL SIGN",
    ";1CAPITAL LETTER PAMPHYLIAN DIGAMMA;1SMALL LETTER PAMPHYLIAN DIGAMMA;@37A;1YPOGEGRAMMENI",
    ";1SMALL REVERSED LUNATE SIGMA SYMBOL;2DOTTED LUNATE SIGMA SYMBOL",
    ";2REVERSED DOTTED LUNATE SIGMA SYMBOL;1QUESTION MARK;1CAPITAL LETTER YOT;@384;1TONOS",
    ";1DIALYTIKA TONOS;1CAPITAL LETTER ALPHA WITH TONOS;1ANO TELEIA",
    ";1CAPITAL LETTER EPSILON WITH TONOS;3ETA WITH TONOS;3IOTA WITH TONOS;@38C",
    ";3OMICRON WITH TONOS;@38E;3UPSILON WITH TONOS;3OMEGA WITH TONOS",
    ";1SMALL LETTER IOTA WITH DIALYTIKA AND TONOS;1CAPITAL LETTER ALPHA;3BETA;3GAMMA;3DELTA",
    ";3EPSILON;3ZETA;3ETA;3THETA;3IOTA;3KAPPA;3LAMDA;3MU;3NU;3XI;3OMICRON;3PI;3RHO;@3A3;3SIGMA",
    ";3TAU;3UPSILON;3PHI;3CHI;3PSI;3OMEGA;3IOTA WITH DIALYTIKA;3UPSILON WITH DIALYTIKA",
    ";1SMALL LETTER ALPHA WITH TONOS;3EPSILON WITH TONOS;3ETA WITH TONOS;3IOTA WITH TONOS",
    ";3UPSILON WITH DIALYTIKA AND TONOS;3ALPHA;3BETA;3GAMMA;3DELTA;3EPSILON;3ZETA;3ETA;3THETA",
    ";3IOTA;3KAPPA;3LAMDA;3MU;3NU;3XI;3OMICRON;3PI;3RHO;3FINAL SIGMA;3SIGMA;3TAU;3UPSILON;3PHI",
    ";3CHI;3PSI;3OMEGA;3IOTA WITH DIALYTIKA;3UPSILON WITH DIALYTIKA;3OMICRON WITH TONOS",
    ";3UPSILON WITH TONOS;3OMEGA WITH TONOS;1CAPITAL KAI SYMBOL;1BETA SYMBOL;1THETA SYMBOL",
    ";1UPSILON WITH HOOK SYMBOL;3ACUTE AND HOOK SYMBOL;3DIAERESIS AND HOOK SYMBOL;1PHI SYMBOL",
    ";1PI SYMBOL;1KAI SYMBOL;1LETTER ARCHAIC KOPPA;1SMALL LETTER ARCHAIC KOPPA;1LETTER STIGMA",
    ";1SMALL LETTER STIGMA;1LETTER DIGAMMA;1SMALL LETTER DIGAMMA;1LETTER KOPPA",
    ";1SMALL LETTER KOPPA;1LETTER SAMPI;1SMALL LETTER SAMPI;0COPTIC CAPITAL LETTER SHEI",
    ";1SMALL LETTER SHEI;1CAPITAL LETTER FEI;1SMALL LETTER FEI;1CAPITAL LETTER KHEI",
    ";1SMALL LETTER KHEI;1CAPITAL LETTER HORI;1SMALL LETTER HORI;1CAPITAL LETTER GANGIA",
    ";1SMALL LETTER GANGIA;1CAPITAL LETTER SHIMA;1SMALL LETTER SHIMA;1CAPITAL LETTER DEI",
    ";1SMALL LETTER DEI;0GREEK KAPPA SYMBOL;1RHO SYMBOL;1LUNATE SIGMA SYMBOL;1LETTER YOT",
    ";1CAPITAL THETA SYMBOL;1LUNATE EPSILON SYMBOL;1REVERSED LUNATE EPSILON SYMBOL",
    ";1CAPITAL LETTER SHO;1SMALL LETTER SHO;1CAPITAL LUNATE SIGMA SYMBOL;2LETTER SAN",
    ";1SMALL LETTER SAN;1RHO WITH STROKE SYMBOL;1CAPITAL REVERSED LUNATE SIGMA SYMBOL",
    ";2DOTTED LUNATE SIGMA SYMBOL;2REVERSED DOTTED LUNATE SIGMA SYMBOL",
    ";0CYRILLIC CAPITAL LETTER IE WITH GRAVE;3IO;3DJE;3GJE;3UKRAINIAN IE;3DZE",
    ";3BYELORUSSIAN-UKRAINIAN I;3YI;3JE;3LJE;3NJE;3TSHE;3KJE;3I WITH GRAVE;3SHORT U;3DZHE;3A;3BE",
    ";3VE;3GHE;3DE;3IE;3ZHE;3ZE;3I;3SHORT I;3KA;3EL;3EM;3EN;3O;3PE;3ER;3ES;3TE;3U;3EF;3HA;3TSE",
    ";3CHE;3SHA;3SHCHA;3HARD SIGN;3YERU;3SOFT SIGN;3E;3YU;3YA;1SMALL LETTER A;3BE;3VE;3GHE;3DE",
    ";3IE;3ZHE;3ZE;3I;3SHORT I;3KA;3EL;3EM;3EN;3O;3PE;3ER;3ES;3TE;3U;3EF;3HA;3TSE;3CHE;3SHA",
    ";3SHCHA;3HARD SIGN;3YERU;3SOFT SIGN;3E;3YU;3YA;3IE WITH GRAVE;3IO;3DJE;3GJE;3UKRAINIAN IE",
    ";3DZE;3BYELORUSSIAN-UKRAINIAN I;3YI;3JE;3LJE;3NJE;3TSHE;3KJE;3I WITH GRAVE;3SHORT U;3DZHE",
    ";1CAPITAL LETTER OMEGA;1SMALL LETTER OMEGA;1CAPITAL LETTER YAT;1SMALL LETTER YAT",
    ";1CAPITAL LETTER IOTIFIED E;1SMALL LETTER IOTIFIED E;1CAPITAL LETTER LITTLE YUS",
    ";1SMALL LETTER LITTLE YUS;1CAPITAL LETTER IOTIFIED LITTLE YUS",
    ";1SMALL LETTER IOTIFIED LITTLE YUS;1CAPITAL LETTER BIG YUS;1SMALL LETTER BIG YUS",
    ";1CAPITAL LETTER IOTIFIED BIG YUS;1SMALL LETTER IOTIFIED BIG YUS;1CAPITAL LETTER KSI",
    ";1SMALL LETTER KSI;1CAPITAL LETTER PSI;1SMALL LETTER PSI;1CAPITAL LETTER FITA",
    ";1SMALL LETTER FITA;1CAPITAL LETTER IZHITSA;1SMALL LETTER IZHITSA",
    ";1CAPITAL LETTER IZHITSA WITH DOUBLE GRAVE ACCENT",
    ";1SMALL LETTER IZHITSA WITH DOUBLE GRAVE ACCENT;1CAPITAL LETTER UK;1SMALL LETTER UK",
    ";1CAPITAL LETTER ROUND OMEGA;1SMALL LETTER ROUND OMEGA;1CAPITAL LETTER OMEGA WITH TITLO",
    ";1SMALL LETTER OMEGA WITH TITLO"],
   [";1CAPITAL LETTER OT;1SMALL LETTER OT;1CAPITAL LETTER KOPPA;1SMALL LETTER KOPPA",
    ";1THOUSANDS SIGN;0COMBINING CYRILLIC TITLO;2PALATALIZATION;2DASIA PNEUMATA;2PSILI PNEUMATA",
    ";2POKRYTIE;2HUNDRED THOUSANDS SIGN;2MILLIONS SIGN;0CYRILLIC CAPITAL LETTER SHORT I WITH TAIL",
    ";1SMALL LETTER SHORT I WITH TAIL;1CAPITAL LETTER SEMISOFT SIGN;1SMALL LETTER SEMISOFT SIGN",
    ";1CAPITAL LETTER ER WITH TICK;1SMALL LETTER ER WITH TICK;1CAPITAL LETTER GHE WITH UPTURN",
    ";1SMALL LETTER GHE WITH UPTURN;1CAPITAL LETTER GHE WITH STROKE;1SMALL LETTER GHE WITH STROKE",
    ";1CAPITAL LETTER GHE WITH MIDDLE HOOK;1SMALL LETTER GHE WITH MIDDLE HOOK",
    ";1CAPITAL LETTER ZHE WITH DESCENDER;1SMALL LETTER ZHE WITH DESCENDER",
    ";1CAPITAL LETTER ZE WITH DESCENDER;1SMALL LETTER ZE WITH DESCENDER",
    ";1CAPITAL LETTER KA WITH DESCENDER;1SMALL LETTER KA WITH DESCENDER",
    ";1CAPITAL LETTER KA WITH VERTICAL STROKE;1SMALL LETTER KA WITH VERTICAL STROKE",
    ";1CAPITAL LETTER KA WITH STROKE;1SMALL LETTER KA WITH STROKE;1CAPITAL LETTER BASHKIR KA",
    ";1SMALL LETTER BASHKIR KA;1CAPITAL LETTER EN WITH DESCENDER;1SMALL LETTER EN WITH DESCENDER",
    ";1CAPITAL LIGATURE EN GHE;1SMALL LIGATURE EN GHE;1CAPITAL LETTER PE WITH MIDDLE HOOK",
    ";1SMALL LETTER PE WITH MIDDLE HOOK;1CAPITAL LETTER ABKHASIAN HA;1SMALL LETTER ABKHASIAN HA",
    ";1CAPITAL LETTER ES WITH DESCENDER;1SMALL LETTER ES WITH DESCENDER",
    ";1CAPITAL LETTER TE WITH DESCENDER;1SMALL LETTER TE WITH DESCENDER",
    ";1CAPITAL LETTER STRAIGHT U;1SMALL LETTER STRAIGHT U;1CAPITAL LETTER STRAIGHT U WITH STROKE",
    ";1SMALL LETTER STRAIGHT U WITH STROKE;1CAPITAL LETTER HA WITH DESCENDER",
    ";1SMALL LETTER HA WITH DESCENDER;1CAPITAL LIGATURE TE TSE;1SMALL LIGATURE TE TSE",
    ";1CAPITAL LETTER CHE WITH DESCENDER;1SMALL LETTER CHE WITH DESCENDER",
    ";1CAPITAL LETTER CHE WITH VERTICAL STROKE;1SMALL LETTER CHE WITH VERTICAL STROKE",
    ";1CAPITAL LETTER SHHA;1SMALL LETTER SHHA;1CAPITAL LETTER ABKHASIAN CHE",
    ";1SMALL LETTER ABKHASIAN CHE;1CAPITAL LETTER ABKHASIAN CHE WITH DESCENDER",
    ";1SMALL LETTER ABKHASIAN CHE WITH DESCENDER;1LETTER PALOCHKA;1CAPITAL LETTER ZHE WITH BREVE",
    ";1SMALL LETTER ZHE WITH BREVE;1CAPITAL LETTER KA WITH HOOK;1SMALL LETTER KA WITH HOOK",
    ";1CAPITAL LETTER EL WITH TAIL;1SMALL LETTER EL WITH TAIL;1CAPITAL LETTER EN WITH HOOK",
    ";1SMALL LETTER EN WITH HOOK;1CAPITAL LETTER EN WITH TAIL;1SMALL LETTER EN WITH TAIL",
    ";1CAPITAL LETTER KHAKASSIAN CHE;1SMALL LETTER KHAKASSIAN CHE;1CAPITAL LETTER EM WITH TAIL",
    ";1SMALL LETTER EM WITH TAIL;3PALOCHKA;1CAPITAL LETTER A WITH BREVE",
    ";1SMALL LETTER A WITH BREVE;1CAPITAL LETTER A WITH DIAERESIS;1SMALL LETTER A WITH DIAERESIS",
    ";1CAPITAL LIGATURE A IE;1SMALL LIGATURE A IE;1CAPITAL LETTER IE WITH BREVE",
    ";1SMALL LETTER IE WITH BREVE;1CAPITAL LETTER SCHWA;1SMALL LETTER SCHWA",
    ";1CAPITAL LETTER SCHWA WITH DIAERESIS;1SMALL LETTER SCHWA WITH DIAERESIS",
    ";1CAPITAL LETTER ZHE WITH DIAERESIS;1SMALL LETTER ZHE WITH DIAERESIS",
    ";1CAPITAL LETTER ZE WITH DIAERESIS;1SMALL LETTER ZE WITH DIAERESIS",
    ";1CAPITAL LETTER ABKHASIAN DZE;1SMALL LETTER ABKHASIAN DZE;1CAPITAL LETTER I WITH MACRON",
    ";1SMALL LETTER I WITH MACRON;1CAPITAL LETTER I WITH DIAERESIS;1SMALL LETTER I WITH DIAERESIS",
    ";1CAPITAL LETTER O WITH DIAERESIS;1SMALL LETTER O WITH DIAERESIS;1CAPITAL LETTER BARRED O",
    ";1SMALL LETTER BARRED O;1CAPITAL LETTER BARRED O WITH DIAERESIS",
    ";1SMALL LETTER BARRED O WITH DIAERESIS;1CAPITAL LETTER E WITH DIAERESIS",
    ";1SMALL LETTER E WITH DIAERESIS;1CAPITAL LETTER U WITH MACRON;1SMALL LETTER U WITH MACRON",
    ";1CAPITAL LETTER U WITH DIAERESIS;1SMALL LETTER U WITH DIAERESIS",
    ";1CAPITAL LETTER U WITH DOUBLE ACUTE;1SMALL LETTER U WITH DOUBLE ACUTE",
    ";1CAPITAL LETTER CHE WITH DIAERESIS;1SMALL LETTER CHE WITH DIAERESIS",
    ";1CAPITAL LETTER GHE WITH DESCENDER;1SMALL LETTER GHE WITH DESCENDER",
    ";1CAPITAL LETTER YERU WITH DIAERESIS;1SMALL LETTER YERU WITH DIAERESIS",
    ";1CAPITAL LETTER GHE WITH STROKE AND HOOK;1SMALL LETTER GHE WITH STROKE AND HOOK",
    ";1CAPITAL LETTER HA WITH HOOK;1SMALL LETTER HA WITH HOOK;1CAPITAL LETTER HA WITH STROKE",
    ";1SMALL LETTER HA WITH STROKE;1CAPITAL LETTER KOMI DE;1SMALL LETTER KOMI DE",
    ";1CAPITAL LETTER KOMI DJE;1SMALL LETTER KOMI DJE;1CAPITAL LETTER KOMI ZJE",
    ";1SMALL LETTER KOMI ZJE;1CAPITAL LETTER KOMI DZJE;1SMALL LETTER KOMI DZJE",
    ";1CAPITAL LETTER KOMI LJE;1SMALL LETTER KOMI LJE;1CAPITAL LETTER KOMI NJE",
    ";1SMALL LETTER KOMI NJE;1CAPITAL LETTER KOMI SJE;1SMALL LETTER KOMI SJE",
    ";1CAPITAL LETTER KOMI TJE;1SMALL LETTER KOMI TJE;1CAPITAL LETTER REVERSED ZE",
    ";1SMALL LETTER REVERSED ZE;1CAPITAL LETTER EL WITH HOOK;1SMALL LETTER EL WITH HOOK",
    ";1CAPITAL LETTER LHA;1SMALL LETTER LHA;1CAPITAL LETTER RHA;1SMALL LETTER RHA",
    ";1CAPITAL LETTER YAE;1SMALL LETTER YAE;1CAPITAL LETTER QA;1SMALL LETTER QA",
    ";1CAPITAL LETTER WE;1SMALL LETTER WE;1CAPITAL LETTER ALEUT KA;1SMALL LETTER ALEUT KA",
    ";1CAPITAL LETTER EL WITH MIDDLE HOOK;1SMALL LETTER EL WITH MIDDLE HOOK",
    ";1CAPITAL LETTER EN WITH MIDDLE HOOK"],
   [";1SMALL LETTER EN WITH MIDDLE HOOK;1CAPITAL LETTER PE WITH DESCENDER",
    ";1SMALL LETTER PE WITH DESCENDER;1CAPITAL LETTER SHHA WITH DESCENDER",
    ";1SMALL LETTER SHHA WITH DESCENDER;1CAPITAL LETTER EN WITH LEFT HOOK",
    ";1SMALL LETTER EN WITH LEFT HOOK;1CAPITAL LETTER DZZHE;1SMALL LETTER DZZHE",
    ";1CAPITAL LETTER DCHE;1SMALL LETTER DCHE;1CAPITAL LETTER EL WITH DESCENDER",
    ";1SMALL LETTER EL WITH DESCENDER;@531;0ARMENIAN CAPITAL LETTER AYB;3BEN;3GIM;3DA;3ECH;3ZA",
    ";3EH;3ET;3TO;3ZHE;3INI;3LIWN;3XEH;3CA;3KEN;3HO;3JA;3GHAD;3CHEH;3MEN;3YI;3NOW;3SHA;3VO;3CHA",
    ";3PEH;3JHEH;3RA;3SEH;3VEW;3TIWN;3REH;3CO;3YIWN;3PIWR;3KEH;3OH;3FEH;@559",
    ";1MODIFIER LETTER LEFT HALF RING;1APOSTROPHE;1EMPHASIS MARK;1EXCLAMATION MARK;1COMMA",
    ";1QUESTION MARK;1ABBREVIATION MARK;1SMALL LETTER TURNED AYB;3AYB;3BEN;3GIM;3DA;3ECH;3ZA;3EH",
    ";3ET;3TO;3ZHE;3INI;3LIWN;3XEH;3CA;3KEN;3HO;3JA;3GHAD;3CHEH;3MEN;3YI;3NOW;3SHA;3VO;3CHA;3PEH",
    ";3JHEH;3RA;3SEH;3VEW;3TIWN;3REH;3CO;3YIWN;3PIWR;3KEH;3OH;3FEH;2LIGATURE ECH YIWN",
    ";2LETTER YI WITH STROKE;1FULL STOP;1HYPHEN;@58D;0RIGHT-FACING ARMENIAN ETERNITY SIGN",
    ";0LEFT-FACING ARMENIAN ETERNITY SIGN;0ARMENIAN DRAM SIGN;@591;0HEBREW ACCENT ETNAHTA;2SEGOL",
    ";2SHALSHELET;2ZAQEF QATAN;3GADOL;2TIPEHA;2REVIA;2ZARQA;2PASHTA;2YETIV;2TEVIR;2GERESH;3MUQDAM",
    ";2GERSHAYIM;2QARNEY PARA;2TELISHA GEDOLA;2PAZER;2ATNAH HAFUKH;2MUNAH;2MAHAPAKH;2MERKHA",
    ";3KEFULA;2DARGA;2QADMA;2TELISHA QETANA;2YERAH BEN YOMO;2OLE;2ILUY;2DEHI;2ZINOR",
    ";1MARK MASORA CIRCLE;1POINT SHEVA;2HATAF SEGOL;3PATAH;3QAMATS;2HIRIQ;2TSERE;2SEGOL;2PATAH",
    ";2QAMATS;2HOLAM;3HASER FOR VAV;2QUBUTS;2DAGESH OR MAPIQ;2METEG;1PUNCTUATION MAQAF",
    ";1POINT RAFE;1PUNCTUATION PASEQ;1POINT SHIN DOT;2SIN DOT;1PUNCTUATION SOF PASUQ",
    ";1MARK UPPER DOT;2LOWER DOT;1PUNCTUATION NUN HAFUKHA;1POINT QAMATS QATAN;@5D0;1LETTER ALEF",
    ";2BET;2GIMEL;2DALET;2HE;2VAV;2ZAYIN;2HET;2TET;2YOD;2FINAL KAF;2KAF;2LAMED;2FINAL MEM;2MEM",
    ";2FINAL NUN;2NUN;2SAMEKH;2AYIN;2FINAL PE;2PE;2FINAL TSADI;2TSADI;2QOF;2RESH;2SHIN;2TAV;@5EF",
    ";1YOD TRIANGLE;1LIGATURE YIDDISH DOUBLE VAV;3VAV YOD;3DOUBLE YOD;1PUNCTUATION GERESH",
    ";2GERSHAYIM;@600;0ARABIC NUMBER SIGN;1SIGN SANAH;1FOOTNOTE MARKER;1SIGN SAFHA;2SAMVAT",
    ";1NUMBER MARK ABOVE;0ARABIC-INDIC CUBE ROOT;1FOURTH ROOT;0ARABIC RAY",
    ";0ARABIC-INDIC PER MILLE SIGN;2TEN THOUSAND SIGN;0AFGHANI SIGN;0ARABIC COMMA;1DATE SEPARATOR",
    ";1POETIC VERSE SIGN;1SIGN MISRA;2SALLALLAHOU ALAYHE WASSALLAM;2ALAYHE ASSALLAM",
    ";2RAHMATULLAH ALAYHE;2RADI ALLAHOU ANHU;2TAKHALLUS;1SMALL HIGH TAH",
    ";3LIGATURE ALEF WITH LAM WITH YEH;3ZAIN;2FATHA;2DAMMA;2KASRA;1SEMICOLON;1LETTER MARK",
    ";1END OF TEXT MARK;1TRIPLE DOT PUNCTUATION MARK;1QUESTION MARK;1LETTER KASHMIRI YEH;2HAMZA",
    ";2ALEF WITH MADDA ABOVE;4HAMZA ABOVE;2WAW WITH HAMZA ABOVE;2ALEF WITH HAMZA BELOW",
    ";2YEH WITH HAMZA ABOVE;2ALEF;2BEH;2TEH MARBUTA;2TEH;2THEH;2JEEM;2HAH;2KHAH;2DAL;2THAL;2REH",
    ";2ZAIN;2SEEN;2SHEEN;2SAD;2DAD;2TAH;2ZAH;2AIN;2GHAIN;2KEHEH WITH TWO DOTS ABOVE",
    ";4THREE DOTS BELOW;2FARSI YEH WITH INVERTED V;5TWO DOTS ABOVE;5THREE DOTS ABOVE;1TATWEEL",
    ";1LETTER FEH;2QAF;2KAF;2LAM;2MEEM;2NOON;2HEH;2WAW;2ALEF MAKSURA;2YEH;1FATHATAN;1DAMMATAN",
    ";1KASRATAN;1FATHA;1DAMMA;1KASRA;1SHADDA;1SUKUN;1MADDAH ABOVE;1HAMZA ABOVE;2BELOW",
    ";1SUBSCRIPT ALEF;1INVERTED DAMMA;1MARK NOON GHUNNA;1ZWARAKAY;1VOWEL SIGN SMALL V ABOVE",
    ";3INVERTED SMALL V ABOVE;3DOT BELOW;1REVERSED DAMMA;1FATHA WITH TWO DOTS;1WAVY HAMZA BELOW",
    ";0ARABIC-INDIC DIGIT ZERO;2ONE;2TWO;2THREE;2FOUR;2FIVE;2SIX;2SEVEN;2EIGHT;2NINE",
    ";0ARABIC PERCENT SIGN;1DECIMAL SEPARATOR;1THOUSANDS SEPARATOR;1FIVE POINTED STAR",
    ";1LETTER DOTLESS BEH;3QAF;2SUPERSCRIPT ALEF;2ALEF WASLA;3WITH WAVY HAMZA ABOVE;6BELOW",
    ";2HIGH HAMZA;4ALEF;4WAW;2U WITH HAMZA ABOVE;2HIGH HAMZA YEH;2TTEH;2TTEHEH;2BEEH",
    ";2TEH WITH RING;4THREE DOTS ABOVE DOWNWARDS;2PEH;2TEHEH;2BEHEH;2HAH WITH HAMZA ABOVE",
    ";4TWO DOTS VERTICAL ABOVE;2NYEH;2DYEH;2HAH WITH THREE DOTS ABOVE;2TCHEH;2TCHEHEH;2DDAL",
    ";2DAL WITH RING;4DOT BELOW;6AND SMALL TAH;2DAHAL;2DDAHAL;2DUL",
    ";2DAL WITH THREE DOTS ABOVE DOWNWARDS;4FOUR DOTS ABOVE;2RREH;2REH WITH SMALL V;4RING",
    ";4DOT BELOW;4SMALL V BELOW;4DOT BELOW AND DOT ABOVE;4TWO DOTS ABOVE;2JEH",
    ";2REH WITH FOUR DOTS ABOVE;2SEEN WITH DOT BELOW AND DOT ABOVE;4THREE DOTS BELOW",
    ";7AND THREE DOTS ABOVE;2SAD WITH TWO DOTS BELOW;4THREE DOTS ABOVE;2TAH WITH THREE DOTS ABOVE",
    ";2AIN WITH THREE DOTS ABOVE;2DOTLESS FEH;2FEH WITH DOT MOVED BELOW;5BELOW;2VEH",
    ";2FEH WITH THREE DOTS BELOW;2PEHEH;2QAF WITH DOT ABOVE;4THREE DOTS ABOVE;2KEHEH;2SWASH KAF",
    ";2KAF WITH RING;4DOT ABOVE;2NG;2KAF WITH THREE DOTS BELOW;2GAF;3WITH RING;2NGOEH",
    ";2GAF WITH TWO DOTS BELOW;2GUEH;2GAF WITH THREE DOTS ABOVE;2LAM WITH SMALL V;4DOT ABOVE",
    ";4THREE DOTS ABOVE;6BELOW;2NOON WITH DOT BELOW;3GHUNNA;2RNOON;2NOON WITH RING",
    ";4THREE DOTS ABOVE;2HEH DOACHASHMEE;2TCHEH WITH DOT ABOVE;2HEH WITH YEH ABOVE;3GOAL",
    ";4WITH HAMZA ABOVE;2TEH MARBUTA GOAL;2WAW WITH RING;2KIRGHIZ OE;2OE;2U;2YU;2KIRGHIZ YU",
    ";2WAW WITH TWO DOTS ABOVE;2VE;2FARSI YEH;2YEH WITH TAIL;4SMALL V;2WAW WITH DOT ABOVE;2E",
    ";2YEH WITH THREE DOTS BELOW;3BARREE;4WITH HAMZA ABOVE;1FULL STOP;1LETTER AE",
    ";1SMALL HIGH LIGATURE SAD WITH LAM WITH ALEF MAKSURA;4QAF WITH LAM WITH ALEF MAKSURA",
    ";3MEEM INITIAL FORM"],
   [";3LAM ALEF;3JEEM;3THREE DOTS;3SEEN;1END OF AYAH;1START OF RUB EL HIZB",
    ";1SMALL HIGH ROUNDED ZERO;3UPRIGHT RECTANGULAR ZERO;3DOTLESS HEAD OF KHAH",
    ";3MEEM ISOLATED FORM;2LOW SEEN;2HIGH MADDA;2WAW;2YEH;2HIGH YEH;3NOON;1PLACE OF SAJDAH",
    ";1EMPTY CENTRE LOW STOP;3HIGH STOP;1ROUNDED HIGH STOP WITH FILLED CENTRE;1SMALL LOW MEEM",
    ";1LETTER DAL WITH INVERTED V;2REH WITH INVERTED V;0EXTENDED ARABIC-INDIC DIGIT ZERO;3ONE",
    ";3TWO;3THREE;3FOUR;3FIVE;3SIX;3SEVEN;3EIGHT;3NINE;0ARABIC LETTER SHEEN WITH DOT BELOW",
    ";2DAD WITH DOT BELOW;2GHAIN WITH DOT BELOW;1SIGN SINDHI AMPERSAND;3POSTPOSITION MEN",
    ";1LETTER HEH WITH INVERTED V;0SYRIAC END OF PARAGRAPH;1SUPRALINEAR FULL STOP",
    ";1SUBLINEAR FULL STOP;1SUPRALINEAR COLON;1SUBLINEAR COLON;1HORIZONTAL COLON",
    ";1COLON SKEWED LEFT;3RIGHT;1SUPRALINEAR COLON SKEWED LEFT;1SUBLINEAR COLON SKEWED RIGHT",
    ";1CONTRACTION;1HARKLEAN OBELUS;2METOBELUS;2ASTERISCUS;@70F;1ABBREVIATION MARK;1LETTER ALAPH",
    ";2SUPERSCRIPT ALAPH;2BETH;2GAMAL;3GARSHUNI;2DALATH;2DOTLESS DALATH RISH;2HE;2WAW;2ZAIN;2HETH",
    ";2TETH;3GARSHUNI;2YUDH;3HE;2KAPH;2LAMADH;2MIM;2NUN;2SEMKATH;2FINAL SEMKATH;2E;2PE",
    ";2REVERSED PE;2SADHE;2QAPH;2RISH;2SHIN;2TAW;2PERSIAN BHETH;3GHAMAL;3DHALATH;1PTHAHA ABOVE",
    ";2BELOW;2DOTTED;1ZQAPHA ABOVE;2BELOW;2DOTTED;1RBASA ABOVE;2BELOW;1DOTTED ZLAMA HORIZONTAL",
    ";3ANGULAR;1HBASA ABOVE;2BELOW;1HBASA-ESASA DOTTED;1ESASA ABOVE;2BELOW;1RWAHA;1FEMININE DOT",
    ";1QUSHSHAYA;1RUKKAKHA;1TWO VERTICAL DOTS ABOVE;4BELOW;1THREE DOTS ABOVE;3BELOW",
    ";1OBLIQUE LINE ABOVE;3BELOW;1MUSIC;1BARREKH;@74D;1LETTER SOGDIAN ZHAIN;3KHAPH;3FE",
    ";0ARABIC LETTER BEH WITH THREE DOTS HORIZONTALLY BELOW;4DOT BELOW AND THREE DOTS ABOVE",
    ";4THREE DOTS POINTING UPWARDS BELOW;9AND TWO DOTS ABOVE;4TWO DOTS BELOW AND DOT ABOVE",
    ";4INVERTED SMALL V BELOW;4SMALL V;2HAH WITH TWO DOTS ABOVE",
    ";4THREE DOTS POINTING UPWARDS BELOW;2DAL WITH TWO DOTS VERTICALLY BELOW AND SMALL TAH",
    ";4INVERTED SMALL V BELOW;2REH WITH STROKE;2SEEN WITH FOUR DOTS ABOVE",
    ";2AIN WITH TWO DOTS ABOVE;4THREE DOTS POINTING DOWNWARDS ABOVE;4TWO DOTS VERTICALLY ABOVE",
    ";2FEH WITH TWO DOTS BELOW;4THREE DOTS POINTING UPWARDS BELOW;2KEHEH WITH DOT ABOVE",
    ";4THREE DOTS ABOVE;6POINTING UPWARDS BELOW;2MEEM WITH DOT ABOVE;5BELOW",
    ";2NOON WITH TWO DOTS BELOW;4SMALL TAH;5V;2LAM WITH BAR;2REH WITH TWO DOTS VERTICALLY ABOVE",
    ";4HAMZA ABOVE;2SEEN WITH TWO DOTS VERTICALLY ABOVE;2HAH WITH SMALL ARABIC LETTER TAH BELOW",
    ";8AND TWO DOTS;2SEEN WITH SMALL ARABIC LETTER TAH AND TWO DOTS",
    ";2REH WITH SMALL ARABIC LETTER TAH AND TWO DOTS;2HAH WITH SMALL ARABIC LETTER TAH ABOVE",
    ";2ALEF WITH EXTENDED ARABIC-INDIC DIGIT TWO ABOVE;7THREE ABOVE",
    ";2FARSI YEH WITH EXTENDED ARABIC-INDIC DIGIT TWO ABOVE;8THREE ABOVE;8FOUR BELOW",
    ";2WAW WITH EXTENDED ARABIC-INDIC DIGIT TWO ABOVE;7THREE ABOVE",
    ";2YEH BARREE WITH EXTENDED ARABIC-INDIC DIGIT TWO ABOVE;8THREE ABOVE",
    ";2HAH WITH EXTENDED ARABIC-INDIC DIGIT FOUR BELOW",
    ";2SEEN WITH EXTENDED ARABIC-INDIC DIGIT FOUR ABOVE;4INVERTED V;2KAF WITH TWO DOTS ABOVE",
    ";0THAANA LETTER HAA;2SHAVIYANI;2NOONU;2RAA;2BAA;2LHAVIYANI;2KAAFU;2ALIFU;2VAAVU;2MEEMU",
    ";2FAAFU;2DHAALU;2THAA;2LAAMU;2GAAFU;2GNAVIYANI;2SEENU;2DAVIYANI;2ZAVIYANI;2TAVIYANI;2YAA",
    ";2PAVIYANI;2JAVIYANI;2CHAVIYANI;2TTAA;2HHAA;2KHAA;2THAALU;2ZAA;2SHEENU;2SAADHU;2DAADHU;2TO",
    ";2ZO;2AINU;2GHAINU;2QAAFU;2WAAVU;1ABAFILI;1AABAAFILI;1IBIFILI;1EEBEEFILI;1UBUFILI;1OOBOOFILI",
    ";1EBEFILI;1EYBEYFILI;1OBOFILI;1OABOAFILI;1SUKUN;1LETTER NAA"],
   [";@7C0;0NKO DIGIT ZERO;2ONE;2TWO;2THREE;2FOUR;2FIVE;2SIX;2SEVEN;2EIGHT;2NINE;1LETTER A;2EE;2I",
    ";2E;2U;2OO;2O;2DAGBASINNA;2N;2BA;2PA;2TA;2JA;2CHA;2DA;2RA;2RRA;2SA;2GBA;2FA;2KA;2LA",
    ";2NA WOLOSO;2MA;2NYA;2NA;2HA;2WA;2YA;2NYA WOLOSO;2JONA JA;3CHA;3RA",
    ";1COMBINING SHORT HIGH TONE;3LOW TONE;3RISING TONE;2LONG DESCENDING TONE;3HIGH TONE",
    ";3LOW TONE;3RISING TONE;2NASALIZATION MARK;2DOUBLE DOT ABOVE;1HIGH TONE APOSTROPHE",
    ";1LOW TONE APOSTROPHE;1SYMBOL OO DENNEN;2GBAKURUNEN;1COMMA;1EXCLAMATION MARK;1LAJANYALAN",
    ";@7FD;1DANTAYALAN;1DOROME SIGN;1TAMAN SIGN;0SAMARITAN LETTER ALAF;2BIT;2GAMAN;2DALAT;2IY",
    ";2BAA;2ZEN;2IT;2TIT;2YUT;2KAAF;2LABAT;2MIM;2NUN;2SINGAAT;2IN;2FI;2TSAADIY;2QUF;2RISH;2SHAN",
    ";2TAAF;1MARK IN;2IN-ALAF;2OCCLUSION;2DAGESH;1MODIFIER LETTER EPENTHETIC YUT",
    ";1MARK EPENTHETIC YUT;1VOWEL SIGN LONG E;3E;3OVERLONG AA;3LONG AA;3AA;3OVERLONG A;3LONG A;3A",
    ";1MODIFIER LETTER SHORT A;1VOWEL SIGN SHORT A;3LONG U;3U;1MODIFIER LETTER I",
    ";1VOWEL SIGN LONG I;3I;3O;3SUKUN;1MARK NEQUDAA;@830;1PUNCTUATION NEQUDAA;2AFSAAQ;2ANGED;2BAU",
    ";2ATMAAU;2SHIYYAALAA;1ABBREVIATION MARK;1PUNCTUATION MELODIC QITSA;2ZIQAA;2QITSA;2ZAEF;2TURU",
    ";2ARKAANU;2SOF MASHFAAT;2ANNAAU;@840;0MANDAIC LETTER HALQA;2AB;2AG;2AD;2AH;2USHENNA;2AZ;2IT",
    ";2ATT;2AKSA;2AK;2AL;2AM;2AN;2AS;2IN;2AP;2ASZ;2AQ;2AR;2ASH;2AT;2DUSHENNA;2KAD;2AIN",
    ";1AFFRICATION MARK;1VOCALIZATION MARK;1GEMINATION MARK;@85E;1PUNCTUATION;@860",
    ";0SYRIAC LETTER MALAYALAM NGA;3JA;3NYA;3TTA;3NNA;3NNNA;3BHA;3RA;3LLA;3LLLA;3SSA;@870",
    ";0ARABIC LETTER ALEF WITH ATTACHED FATHA;5TOP RIGHT FATHA;4RIGHT MIDDLE STROKE",
    ";4LEFT MIDDLE STROKE;4ATTACHED KASRA;5BOTTOM RIGHT KASRA;5ROUND DOT ABOVE;5RIGHT ROUND DOT",
    ";5LEFT ROUND DOT;5ROUND DOT BELOW;4DOT ABOVE;4ATTACHED TOP RIGHT FATHA AND DOT ABOVE",
    ";4RIGHT MIDDLE STROKE AND DOT ABOVE;4ATTACHED BOTTOM RIGHT KASRA AND DOT ABOVE",
    ";5TOP RIGHT FATHA AND LEFT RING;4RIGHT MIDDLE STROKE AND LEFT RING",
    ";4ATTACHED BOTTOM RIGHT KASRA AND LEFT RING;5RIGHT HAMZA;5LEFT HAMZA",
    ";1TATWEEL WITH OVERSTRUCK HAMZA;4WAW;3TWO DOTS BELOW;1LETTER THIN YEH;1BASELINE ROUND DOT",
    ";1RAISED ROUND DOT;1LETTER NOON WITH INVERTED SMALL V;2HAH WITH INVERTED SMALL V BELOW",
    ";2TAH WITH DOT BELOW;4THREE DOTS BELOW;2KEHEH WITH TWO DOTS VERTICALLY BELOW;1VERTICAL TAIL",
    ";@890;1POUND MARK ABOVE;1PIASTRE MARK ABOVE;@898;1SMALL HIGH WORD AL-JUZ;2LOW WORD ISHMAAM",
    ";4IMAALA;4TASHEEL;1MADDA WAAJIB;1SUPERSCRIPT ALEF MOKHASSAS;1DOUBLED MADDA",
    ";1HALF MADDA OVER MADDA;1LETTER BEH WITH SMALL V BELOW;4HAMZA ABOVE",
    ";2JEEM WITH TWO DOTS ABOVE;2TAH WITH TWO DOTS ABOVE;2FEH WITH DOT BELOW AND THREE DOTS ABOVE",
    ";2QAF WITH DOT BELOW;2LAM WITH DOUBLE BAR;2MEEM WITH THREE DOTS ABOVE",
    ";2YEH WITH TWO DOTS BELOW AND HAMZA ABOVE;8DOT ABOVE;2REH WITH LOOP;2WAW WITH DOT WITHIN",
    ";2ROHINGYA YEH;2LOW ALEF;2DAL WITH THREE DOTS BELOW;2SAD WITH THREE DOTS BELOW",
    ";2GAF WITH INVERTED STROKE;2STRAIGHT WAW;2ZAIN WITH INVERTED V ABOVE",
    ";2AIN WITH THREE DOTS BELOW;2KAF WITH DOT BELOW;2QAF WITH DOT BELOW AND NO DOTS ABOVE",
    ";2BEH WITH SMALL MEEM ABOVE;2PEH WITH SMALL MEEM ABOVE;2TEH WITH SMALL TEH ABOVE",
    ";2REH WITH SMALL NOON ABOVE;2YEH WITH TWO DOTS BELOW AND SMALL NOON ABOVE;2AFRICAN FEH;3QAF",
    ";3NOON;2PEH WITH SMALL V;2TEH WITH SMALL V;2TTEH WITH SMALL V;2TCHEH WITH SMALL V",
    ";2KEHEH WITH SMALL V;2GHAIN WITH THREE DOTS ABOVE;2AFRICAN QAF WITH THREE DOTS ABOVE",
    ";2JEEM WITH THREE DOTS ABOVE;6BELOW;2LAM WITH SMALL ARABIC LETTER TAH ABOVE;2GRAF",
    ";1SMALL FARSI YEH;2HIGH FARSI YEH;3YEH BARREE WITH TWO DOTS BELOW;3WORD SAH;3ZAH",
    ";1LARGE ROUND DOT ABOVE;4BELOW;1SUKUN BELOW;1LARGE CIRCLE BELOW",
    ";2ROUND DOT INSIDE CIRCLE BELOW;1SMALL LOW WAW;2HIGH WORD AR-RUB;3SAD;3AIN;3QAF",
    ";3NOON WITH KASRA;2LOW NOON WITH KASRA;2HIGH WORD ATH-THALATHA;4AS-SAJDA;4AN-NISF;4SAKTA",
    ";4QIF;4WAQFA;3FOOTNOTE MARKER;3SIGN SAFHA;1DISPUTED END OF AYAH;1TURNED DAMMA BELOW",
    ";1CURLY FATHA;2DAMMA;2KASRA;2FATHATAN;2DAMMATAN;2KASRATAN;1TONE ONE DOT ABOVE",
    ";2TWO DOTS ABOVE;2LOOP ABOVE;2ONE DOT BELOW;2TWO DOTS BELOW;2LOOP BELOW;1OPEN FATHATAN",
    ";2DAMMATAN;2KASRATAN;1SMALL HIGH WAW;1FATHA WITH RING;3DOT ABOVE;1KASRA WITH DOT BELOW",
    ";1LEFT ARROWHEAD ABOVE;1RIGHT ARROWHEAD ABOVE;1LEFT ARROWHEAD BELOW;1RIGHT ARROWHEAD BELOW",
    ";1DOUBLE RIGHT ARROWHEAD ABOVE;5WITH DOT;1RIGHT ARROWHEAD ABOVE WITH DOT;1DAMMA WITH DOT",
    ";1MARK SIDEWAYS NOON GHUNNA;0DEVANAGARI SIGN INVERTED CANDRABINDU;2CANDRABINDU;2ANUSVARA",
    ";2VISARGA;1LETTER SHORT A;2A;2AA;2I;2II;2U;2UU;2VOCALIC R;3L;2CANDRA E;2SHORT E;2E;2AI",
    ";2CANDRA O;2SHORT O;2O;2AU;2KA;2KHA;2GA;2GHA;2NGA;2CA;2CHA;2JA;2JHA;2NYA;2TTA;2TTHA;2DDA",
    ";2DDHA;2NNA;2TA;2THA;2DA;2DHA;2NA;2NNNA;2PA;2PHA;2BA;2BHA;2MA;2YA;2RA;2RRA;2LA;2LLA;2LLLA",
    ";2VA;2SHA;2SSA;2SA;2HA;1VOWEL SIGN OE;3OOE;1SIGN NUKTA;2AVAGRAHA;1VOWEL SIGN AA;3I;3II;3U",
    ";3UU;3VOCALIC R;4RR;3CANDRA E;3SHORT E;3E;3AI;3CANDRA O;3SHORT O;3O;3AU;1SIGN VIRAMA",
    ";1VOWEL SIGN PRISHTHAMATRA E;3AW;1OM;1STRESS SIGN UDATTA;3ANUDATTA;1GRAVE ACCENT",
    ";1ACUTE ACCENT;1VOWEL SIGN CANDRA LONG E;3UE;3UUE;1LETTER QA;2KHHA;2GHHA;2ZA;2DDDHA;2RHA;2FA",
    ";2YYA;2VOCALIC RR;3LL;1VOWEL SIGN VOCALIC L;4LL;1DANDA;1DOUBLE DANDA;1DIGIT ZERO;2ONE;2TWO",
    ";2THREE;2FOUR;2FIVE;2SIX;2SEVEN;2EIGHT;2NINE;1ABBREVIATION SIGN;1SIGN HIGH SPACING DOT",
    ";1LETTER CANDRA A"],
   [";2OE;2OOE;2AW;2UE;2UUE;2MARWARI DDA;2ZHA;2HEAVY YA;2GGA;2JJA;2GLOTTAL STOP;2DDDA;2BBA",
    ";0BENGALI ANJI;1SIGN CANDRABINDU;2ANUSVARA;2VISARGA;@985;1LETTER A;2AA;2I;2II;2U;2UU",
    ";2VOCALIC R;3L;@98F;2E;2AI;@993;2O;2AU;2KA;2KHA;2GA;2GHA;2NGA;2CA;2CHA;2JA;2JHA;2NYA;2TTA",
    ";2TTHA;2DDA;2DDHA;2NNA;2TA;2THA;2DA;2DHA;2NA;@9AA;2PA;2PHA;2BA;2BHA;2MA;2YA;2RA;@9B2;2LA",
    ";@9B6;2SHA;2SSA;2SA;2HA;@9BC;1SIGN NUKTA;2AVAGRAHA;1VOWEL SIGN AA;3I;3II;3U;3UU;3VOCALIC R",
    ";4RR;@9C7;3E;3AI;@9CB;3O;3AU;1SIGN VIRAMA;1LETTER KHANDA TA;@9D7;1AU LENGTH MARK;@9DC",
    ";1LETTER RRA;2RHA;@9DF;2YYA;2VOCALIC RR;3LL;1VOWEL SIGN VOCALIC L;4LL;@9E6;1DIGIT ZERO;2ONE",
    ";2TWO;2THREE;2FOUR;2FIVE;2SIX;2SEVEN;2EIGHT;2NINE;1LETTER RA WITH MIDDLE DIAGONAL",
    ";4LOWER DIAGONAL;1RUPEE MARK;2SIGN;1CURRENCY NUMERATOR ONE;3TWO;3THREE;3FOUR",
    ";3ONE LESS THAN THE DENOMINATOR;2DENOMINATOR SIXTEEN;1ISSHAR;1GANDA MARK",
    ";1LETTER VEDIC ANUSVARA;1ABBREVIATION SIGN;1SANDHI MARK;@A01;0GURMUKHI SIGN ADAK BINDI",
    ";2BINDI;2VISARGA;@A05;1LETTER A;2AA;2I;2II;2U;2UU;@A0F;2EE;2AI;@A13;2OO;2AU;2KA;2KHA;2GA",
    ";2GHA;2NGA;2CA;2CHA;2JA;2JHA;2NYA;2TTA;2TTHA;2DDA;2DDHA;2NNA;2TA;2THA;2DA;2DHA;2NA;@A2A;2PA",
    ";2PHA;2BA;2BHA;2MA;2YA;2RA;@A32;2LA;2LLA;@A35;2VA;2SHA;@A38;2SA;2HA;@A3C;1SIGN NUKTA;@A3E",
    ";1VOWEL SIGN AA;3I;3II;3U;3UU;@A47;3EE;3AI;@A4B;3OO;3AU;1SIGN VIRAMA;@A51;2UDAAT;@A59",
    ";1LETTER KHHA;2GHHA;2ZA;2RRA;@A5E;2FA;@A66;1DIGIT ZERO;2ONE;2TWO;2THREE;2FOUR;2FIVE;2SIX",
    ";2SEVEN;2EIGHT;2NINE;1TIPPI;1ADDAK;1IRI;1URA;1EK ONKAR;1SIGN YAKASH;1ABBREVIATION SIGN;@A81",
    ";0GUJARATI SIGN CANDRABINDU;2ANUSVARA;2VISARGA;@A85;1LETTER A;2AA;2I;2II;2U;2UU;2VOCALIC R",
    ";3L;1VOWEL CANDRA E;@A8F;1LETTER E;2AI;1VOWEL CANDRA O;@A93;1LETTER O;2AU;2KA;2KHA;2GA;2GHA",
    ";2NGA;2CA;2CHA;2JA;2JHA;2NYA;2TTA;2TTHA;2DDA;2DDHA;2NNA;2TA;2THA;2DA;2DHA;2NA;@AAA;2PA;2PHA",
    ";2BA;2BHA;2MA;2YA;2RA;@AB2;2LA;2LLA;@AB5;2VA;2SHA;2SSA;2SA;2HA;@ABC;1SIGN NUKTA;2AVAGRAHA",
    ";1VOWEL SIGN AA;3I;3II;3U;3UU;3VOCALIC R;4RR;3CANDRA E;@AC7;3E;3AI;3CANDRA O;@ACB;3O;3AU",
    ";1SIGN VIRAMA;@AD0;1OM;@AE0;1LETTER VOCALIC RR;3LL;1VOWEL SIGN VOCALIC L;4LL;@AE6",
    ";1DIGIT ZERO;2ONE;2TWO;2THREE;2FOUR;2FIVE;2SIX;2SEVEN;2EIGHT;2NINE;1ABBREVIATION SIGN",
    ";1RUPEE SIGN;@AF9;1LETTER ZHA;1SIGN SUKUN;2SHADDA;2MADDAH;2THREE-DOT NUKTA ABOVE",
    ";2CIRCLE NUKTA ABOVE;2TWO-CIRCLE NUKTA ABOVE;@B01;0ORIYA SIGN CANDRABINDU;2ANUSVARA;2VISARGA",
    ";@B05;1LETTER A;2AA;2I;2II;2U;2UU;2VOCALIC R;3L;@B0F;2E;2AI;@B13;2O;2AU;2KA;2KHA;2GA;2GHA",
    ";2NGA;2CA;2CHA;2JA;2JHA;2NYA;2TTA;2TTHA;2DDA;2DDHA;2NNA;2TA;2THA;2DA;2DHA;2NA;@B2A;2PA;2PHA",
    ";2BA;2BHA;2MA;2YA;2RA;@B32;2LA;2LLA;@B35;2VA;2SHA;2SSA;2SA;2HA;@B3C;1SIGN NUKTA;2AVAGRAHA",
    ";1VOWEL SIGN AA;3I;3II;3U;3UU;3VOCALIC R;4RR;@B47;3E;3AI;@B4B;3O;3AU;1SIGN VIRAMA;@B55",
    ";2OVERLINE;1AI LENGTH MARK;1AU LENGTH MARK;@B5C;1LETTER RRA;2RHA;@B5F;2YYA;2VOCALIC RR;3LL",
    ";1VOWEL SIGN VOCALIC L;4LL;@B66;1DIGIT ZERO;2ONE;2TWO;2THREE;2FOUR;2FIVE;2SIX;2SEVEN;2EIGHT",
    ";2NINE;1ISSHAR;1LETTER WA;1FRACTION ONE QUARTER;3HALF;2THREE QUARTERS;2ONE SIXTEENTH;3EIGHTH",
    ";2THREE SIXTEENTHS;@B82;0TAMIL SIGN ANUSVARA;2VISARGA;@B85;1LETTER A;2AA;2I;2II;2U;2UU;@B8E",
    ";2E;2EE;2AI;@B92;2O;2OO;2AU;2KA;@B99;2NGA;2CA;@B9C;2JA;@B9E;2NYA;2TTA;@BA3;2NNA;2TA;@BA8;2NA",
    ";2NNNA;2PA;@BAE;2MA;2YA;2RA;2RRA;2LA;2LLA;2LLLA;2VA;2SHA;2SSA;2SA;2HA;@BBE;1VOWEL SIGN AA;3I",
    ";3II;3U;3UU;@BC6;3E;3EE;3AI;@BCA;3O;3OO;3AU;1SIGN VIRAMA;@BD0;1OM;@BD7;1AU LENGTH MARK;@BE6",
    ";1DIGIT ZERO;2ONE;2TWO;2THREE;2FOUR;2FIVE;2SIX;2SEVEN;2EIGHT;2NINE;1NUMBER TEN;2ONE HUNDRED",
    ";3THOUSAND;1DAY SIGN;1MONTH SIGN;1YEAR SIGN;1DEBIT SIGN;1CREDIT SIGN;1AS ABOVE SIGN",
    ";1RUPEE SIGN;1NUMBER SIGN;@C00;0TELUGU SIGN COMBINING CANDRABINDU ABOVE;2CANDRABINDU",
    ";2ANUSVARA;2VISARGA;2COMBINING ANUSVARA ABOVE;1LETTER A;2AA;2I;2II;2U;2UU;2VOCALIC R;3L"],
   [";@C0E;2E;2EE;2AI;@C12;2O;2OO;2AU;2KA;2KHA;2GA;2GHA;2NGA;2CA;2CHA;2JA;2JHA;2NYA;2TTA;2TTHA",
    ";2DDA;2DDHA;2NNA;2TA;2THA;2DA;2DHA;2NA;@C2A;2PA;2PHA;2BA;2BHA;2MA;2YA;2RA;2RRA;2LA;2LLA",
    ";2LLLA;2VA;2SHA;2SSA;2SA;2HA;@C3C;1SIGN NUKTA;2AVAGRAHA;1VOWEL SIGN AA;3I;3II;3U;3UU",
    ";3VOCALIC R;4RR;@C46;3E;3EE;3AI;@C4A;3O;3OO;3AU;1SIGN VIRAMA;@C55;1LENGTH MARK",
    ";1AI LENGTH MARK;@C58;1LETTER TSA;2DZA;2RRRA;@C5D;2NAKAARA POLLU;@C60;2VOCALIC RR;3LL",
    ";1VOWEL SIGN VOCALIC L;4LL;@C66;1DIGIT ZERO;2ONE;2TWO;2THREE;2FOUR;2FIVE;2SIX;2SEVEN;2EIGHT",
    ";2NINE;@C77;1SIGN SIDDHAM;1FRACTION DIGIT ZERO FOR ODD POWERS OF FOUR",
    ";3ONE FOR ODD POWERS OF FOUR;3TWO FOR ODD POWERS OF FOUR;3THREE FOR ODD POWERS OF FOUR",
    ";3ONE FOR EVEN POWERS OF FOUR;3TWO FOR EVEN POWERS OF FOUR;3THREE FOR EVEN POWERS OF FOUR",
    ";1SIGN TUUMU;0KANNADA SIGN SPACING CANDRABINDU;2CANDRABINDU;2ANUSVARA;2VISARGA;2SIDDHAM",
    ";1LETTER A;2AA;2I;2II;2U;2UU;2VOCALIC R;3L;@C8E;2E;2EE;2AI;@C92;2O;2OO;2AU;2KA;2KHA;2GA;2GHA",
    ";2NGA;2CA;2CHA;2JA;2JHA;2NYA;2TTA;2TTHA;2DDA;2DDHA;2NNA;2TA;2THA;2DA;2DHA;2NA;@CAA;2PA;2PHA",
    ";2BA;2BHA;2MA;2YA;2RA;2RRA;2LA;2LLA;@CB5;2VA;2SHA;2SSA;2SA;2HA;@CBC;1SIGN NUKTA;2AVAGRAHA",
    ";1VOWEL SIGN AA;3I;3II;3U;3UU;3VOCALIC R;4RR;@CC6;3E;3EE;3AI;@CCA;3O;3OO;3AU;1SIGN VIRAMA",
    ";@CD5;1LENGTH MARK;1AI LENGTH MARK;@CDD;1LETTER NAKAARA POLLU;2FA;@CE0;2VOCALIC RR;3LL",
    ";1VOWEL SIGN VOCALIC L;4LL;@CE6;1DIGIT ZERO;2ONE;2TWO;2THREE;2FOUR;2FIVE;2SIX;2SEVEN;2EIGHT",
    ";2NINE;@CF1;1SIGN JIHVAMULIYA;2UPADHMANIYA;@D00;0MALAYALAM SIGN COMBINING ANUSVARA ABOVE",
    ";2CANDRABINDU;2ANUSVARA;2VISARGA;1LETTER VEDIC ANUSVARA;2A;2AA;2I;2II;2U;2UU;2VOCALIC R;3L",
    ";@D0E;2E;2EE;2AI;@D12;2O;2OO;2AU;2KA;2KHA;2GA;2GHA;2NGA;2CA;2CHA;2JA;2JHA;2NYA;2TTA;2TTHA",
    ";2DDA;2DDHA;2NNA;2TA;2THA;2DA;2DHA;2NA;2NNNA;2PA;2PHA;2BA;2BHA;2MA;2YA;2RA;2RRA;2LA;2LLA",
    ";2LLLA;2VA;2SHA;2SSA;2SA;2HA;2TTTA;1SIGN VERTICAL BAR VIRAMA;2CIRCULAR VIRAMA;2AVAGRAHA",
    ";1VOWEL SIGN AA;3I;3II;3U;3UU;3VOCALIC R;4RR;@D46;3E;3EE;3AI;@D4A;3O;3OO;3AU;1SIGN VIRAMA",
    ";1LETTER DOT REPH;1SIGN PARA;@D54;1LETTER CHILLU M;3Y;3LLL;1AU LENGTH MARK",
    ";1FRACTION ONE ONE-HUNDRED-AND-SIXTIETH;3FORTIETH;2THREE EIGHTIETHS;2ONE TWENTIETH;3TENTH",
    ";2THREE TWENTIETHS;2ONE FIFTH;1LETTER ARCHAIC II;2VOCALIC RR;3LL;1VOWEL SIGN VOCALIC L;4LL",
    ";@D66;1DIGIT ZERO;2ONE;2TWO;2THREE;2FOUR;2FIVE;2SIX;2SEVEN;2EIGHT;2NINE;1NUMBER TEN",
    ";2ONE HUNDRED;3THOUSAND;1FRACTION ONE QUARTER;3HALF;2THREE QUARTERS;2ONE SIXTEENTH;3EIGHTH",
    ";2THREE SIXTEENTHS;1DATE MARK;1LETTER CHILLU NN;3N;3RR;3L;3LL;3K;@D81",
    ";0SINHALA SIGN CANDRABINDU;2ANUSVARAYA;2VISARGAYA;@D85;1LETTER AYANNA;2AAYANNA;2AEYANNA",
    ";2AEEYANNA;2IYANNA;2IIYANNA;2UYANNA;2UUYANNA;2IRUYANNA;2IRUUYANNA;2ILUYANNA;2ILUUYANNA",
    ";2EYANNA;2EEYANNA;2AIYANNA;2OYANNA;2OOYANNA;2AUYANNA;@D9A;2ALPAPRAANA KAYANNA",
    ";2MAHAAPRAANA KAYANNA;2ALPAPRAANA GAYANNA;2MAHAAPRAANA GAYANNA;2KANTAJA NAASIKYAYA",
    ";2SANYAKA GAYANNA;2ALPAPRAANA CAYANNA;2MAHAAPRAANA CAYANNA;2ALPAPRAANA JAYANNA",
    ";2MAHAAPRAANA JAYANNA;2TAALUJA NAASIKYAYA;3SANYOOGA NAAKSIKYAYA;2SANYAKA JAYANNA",
    ";2ALPAPRAANA TTAYANNA;2MAHAAPRAANA TTAYANNA;2ALPAPRAANA DDAYANNA;2MAHAAPRAANA DDAYANNA",
    ";2MUURDHAJA NAYANNA;2SANYAKA DDAYANNA;2ALPAPRAANA TAYANNA;2MAHAAPRAANA TAYANNA",
    ";2ALPAPRAANA DAYANNA;2MAHAAPRAANA DAYANNA;2DANTAJA NAYANNA;@DB3;2SANYAKA DAYANNA",
    ";2ALPAPRAANA PAYANNA;2MAHAAPRAANA PAYANNA;2ALPAPRAANA BAYANNA;2MAHAAPRAANA BAYANNA;2MAYANNA",
    ";2AMBA BAYANNA;2YAYANNA;2RAYANNA;@DBD;2DANTAJA LAYANNA;@DC0;2VAYANNA;2TAALUJA SAYANNA",
    ";2MUURDHAJA SAYANNA;2DANTAJA SAYANNA;2HAYANNA;2MUURDHAJA LAYANNA;2FAYANNA;@DCA",
    ";1SIGN AL-LAKUNA"],
   [";@DCF;1VOWEL SIGN AELA-PILLA;3KETTI AEDA-PILLA;3DIGA AEDA-PILLA;3KETTI IS-PILLA",
    ";3DIGA IS-PILLA;3KETTI PAA-PILLA;@DD6;3DIGA PAA-PILLA;@DD8;3GAETTA-PILLA;3KOMBUVA",
    ";3DIGA KOMBUVA;3KOMBU DEKA;3KOMBUVA HAA AELA-PILLA;5DIGA AELA-PILLA;5GAYANUKITTA",
    ";3GAYANUKITTA;@DE6;1LITH DIGIT ZERO;3ONE;3TWO;3THREE;3FOUR;3FIVE;3SIX;3SEVEN;3EIGHT;3NINE",
    ";@DF2;1VOWEL SIGN DIGA GAETTA-PILLA;4GAYANUKITTA;1PUNCTUATION KUNDDALIYA;@E01",
    ";0THAI CHARACTER KO KAI;2KHO KHAI;3KHUAT;3KHWAI;3KHON;3RAKHANG;2NGO NGU;2CHO CHAN;3CHING",
    ";3CHANG;2SO SO;2CHO CHOE;2YO YING;2DO CHADA;2TO PATAK;2THO THAN;3NANGMONTHO;3PHUTHAO;2NO NEN",
    ";2DO DEK;2TO TAO;2THO THUNG;3THAHAN;3THONG;2NO NU;2BO BAIMAI;2PO PLA;2PHO PHUNG;2FO FA",
    ";2PHO PHAN;2FO FAN;2PHO SAMPHAO;2MO MA;2YO YAK;2RO RUA;2RU;2LO LING;2LU;2WO WAEN;2SO SALA",
    ";3RUSI;3SUA;2HO HIP;2LO CHULA;2O ANG;2HO NOKHUK;2PAIYANNOI;2SARA A;2MAI HAN-AKAT;2SARA AA",
    ";3AM;3I;3II;3UE;3UEE;3U;3UU;2PHINTHU;@E3F;1CURRENCY SYMBOL BAHT;1CHARACTER SARA E;3AE;3O",
    ";3AI MAIMUAN;4MAIMALAI;2LAKKHANGYAO;2MAIYAMOK;2MAITAIKHU;2MAI EK;3THO;3TRI;3CHATTAWA",
    ";2THANTHAKHAT;2NIKHAHIT;2YAMAKKAN;2FONGMAN;1DIGIT ZERO;2ONE;2TWO;2THREE;2FOUR;2FIVE;2SIX",
    ";2SEVEN;2EIGHT;2NINE;1CHARACTER ANGKHANKHU;2KHOMUT;@E81;0LAO LETTER KO;2KHO SUNG;@E84;3TAM",
    ";@E86;2PALI GHA;2NGO;2CO;2PALI CHA;2SO TAM;@E8C;2PALI JHA;2NYO;2PALI NYA;3TTA;3TTHA;3DDA",
    ";3DDHA;3NNA;2DO;2TO;2THO SUNG;3TAM;2PALI DHA;2NO;2BO;2PO;2PHO SUNG;2FO TAM;2PHO TAM;2FO SUNG",
    ";2PALI BHA;2MO;2YO;2LO LING;@EA5;3LOOT;@EA7;2WO;2SANSKRIT SHA;3SSA;2SO SUNG;2HO SUNG",
    ";2PALI LLA;2O;2HO TAM;1ELLIPSIS;1VOWEL SIGN A;3MAI KAN;3AA;3AM;3I;3II;3Y;3YY;3U;3UU",
    ";1SIGN PALI VIRAMA;1VOWEL SIGN MAI KON;1SEMIVOWEL SIGN LO;3NYO;@EC0;1VOWEL SIGN E;3EI;3O;3AY",
    ";3AI;@EC6;1KO LA;@EC8;1TONE MAI EK;3THO;3TI;3CATAWA;1CANCELLATION MARK;1NIGGAHITA;@ED0",
    ";1DIGIT ZERO;2ONE;2TWO;2THREE;2FOUR;2FIVE;2SIX;2SEVEN;2EIGHT;2NINE;@EDC;1HO NO;2MO",
    ";1LETTER KHMU GO;3NYO;@F00;0TIBETAN SYLLABLE OM;1MARK GTER YIG MGO TRUNCATED A",
    ";5-UM RNAM BCAD MA;6GTER TSHEG MA;2INITIAL YIG MGO MDUN MA;2CLOSING YIG MGO SGAB MA",
    ";2CARET YIG MGO PHUR SHAD MA;2YIG MGO TSHEG SHAD MA;2SBRUL SHAD;2BSKUR YIG MGO",
    ";2BKA- SHOG YIG MGO;2INTERSYLLABIC TSHEG;2DELIMITER TSHEG BSTAR;2SHAD;2NYIS SHAD;2TSHEG SHAD",
    ";2NYIS TSHEG SHAD;2RIN CHEN SPUNGS SHAD;2RGYA GRAM SHAD;2CARET -DZUD RTAGS ME LONG CAN",
    ";2GTER TSHEG;1LOGOTYPE SIGN CHAD RTAGS;3LHAG RTAGS;1ASTROLOGICAL SIGN SGRA GCAN -CHAR RTAGS",
    ";3-KHYUD PA;3SDONG TSHUGS;1SIGN RDEL DKAR GCIG;4GNYIS;4GSUM;3NAG GCIG;4GNYIS;3DKAR RDEL NAG",
    ";1DIGIT ZERO;2ONE;2TWO;2THREE;2FOUR;2FIVE;2SIX;2SEVEN;2EIGHT;2NINE;2HALF ONE;3TWO;3THREE",
    ";3FOUR;3FIVE;3SIX;3SEVEN;3EIGHT;3NINE;3ZERO;1MARK BSDUS RTAGS;2NGAS BZUNG NYI ZLA",
    ";2CARET -DZUD RTAGS BZHI MIG CAN;2NGAS BZUNG SGOR RTAGS;2CHE MGO;2TSA -PHRU;2GUG RTAGS GYON",
    ";4GYAS;2ANG KHANG GYON;4GYAS;1SIGN YAR TSHES;2MAR TSHES;1LETTER KA;2KHA;2GA;2GHA;2NGA;2CA",
    ";2CHA;2JA;@F49;2NYA;2TTA;2TTHA;2DDA;2DDHA;2NNA;2TA;2THA;2DA;2DHA;2NA;2PA;2PHA;2BA;2BHA;2MA",
    ";2TSA;2TSHA;2DZA;2DZHA;2WA;2ZHA;2ZA;2-A;2YA;2RA;2LA;2SHA;2SSA;2SA;2HA;2A;2KSSA",
    ";2FIXED-FORM RA;2KKA;2RRA;@F71;1VOWEL SIGN AA;3I;3II;3U;3UU;3VOCALIC R;4RR;4L;4LL;3E;3EE;3O",
    ";3OO;1SIGN RJES SU NGA RO;2RNAM BCAD;1VOWEL SIGN REVERSED I;4II;1SIGN NYI ZLA NAA DA",
    ";2SNA LDAN;1MARK HALANTA;2PALUTA;1SIGN LCI RTAGS;2YANG RTAGS;2LCE TSA CAN;2MCHU CAN",
    ";2GRU CAN RGYINGS;3MED RGYINGS;2INVERTED MCHU CAN;1SUBJOINED SIGN LCE TSA CAN;3MCHU CAN",
    ";3INVERTED MCHU CAN;2LETTER KA;3KHA;3GA;3GHA;3NGA;3CA;3CHA;3JA;@F99;3NYA;3TTA;3TTHA;3DDA",
    ";3DDHA;3NNA;3TA;3THA;3DA;3DHA;3NA;3PA;3PHA;3BA;3BHA;3MA;3TSA;3TSHA;3DZA;3DZHA;3WA;3ZHA;3ZA",
    ";3-A;3YA;3RA;3LA;3SHA;3SSA;3SA;3HA;3A;3KSSA;3FIXED-FORM WA;4YA;4RA"],
   [";@FBE;1KU RU KHA;4BZHI MIG CAN;1CANTILLATION SIGN HEAVY BEAT;3LIGHT BEAT;3CANG TE-U",
    ";3SBUB -CHAL;1SYMBOL DRIL BU;2RDO RJE;2PADMA GDAN;2RDO RJE RGYA GRAM;2PHUR PA;2NOR BU",
    ";4NYIS -KHYIL;4GSUM -KHYIL;4BZHI -KHYIL;@FCE;1SIGN RDEL NAG RDEL DKAR;4GSUM",
    ";1MARK BSKA- SHOG GI MGO RGYAN;2MNYAM YIG GI MGO RGYAN;2NYIS TSHEG",
    ";2INITIAL BRDA RNYING YIG MGO MDUN MA;2CLOSING BRDA RNYING YIG MGO SGAB MA",
    ";0RIGHT-FACING SVASTI SIGN;0LEFT-FACING SVASTI SIGN;0RIGHT-FACING SVASTI SIGN WITH DOTS",
    ";0LEFT-FACING SVASTI SIGN WITH DOTS;0TIBETAN MARK LEADING MCHAN RTAGS;2TRAILING MCHAN RTAGS",
    ";@1000;0MYANMAR LETTER KA;2KHA;2GA;2GHA;2NGA;2CA;2CHA;2JA;2JHA;2NYA;2NNYA;2TTA;2TTHA;2DDA",
    ";2DDHA;2NNA;2TA;2THA;2DA;2DHA;2NA;2PA;2PHA;2BA;2BHA;2MA;2YA;2RA;2LA;2WA;2SA;2HA;2LLA;2A",
    ";2SHAN A;2I;2II;2U;2UU;2E;2MON E;2O;2AU;1VOWEL SIGN TALL AA;3AA;3I;3II;3U;3UU;3E;3AI;3MON II",
    ";4O;3E ABOVE;1SIGN ANUSVARA;2DOT BELOW;2VISARGA;2VIRAMA;2ASAT;1CONSONANT SIGN MEDIAL YA;4RA",
    ";4WA;4HA;1LETTER GREAT SA;1DIGIT ZERO;2ONE;2TWO;2THREE;2FOUR;2FIVE;2SIX;2SEVEN;2EIGHT;2NINE",
    ";1SIGN LITTLE SECTION;2SECTION;1SYMBOL LOCATIVE;2COMPLETED;2AFOREMENTIONED;2GENITIVE",
    ";1LETTER SHA;2SSA;2VOCALIC R;3RR;3L;3LL;1VOWEL SIGN VOCALIC R;4RR;4L;4LL;1LETTER MON NGA",
    ";3JHA;3BBA;3BBE;1CONSONANT SIGN MON MEDIAL NA;5MA;5LA;1LETTER SGAW KAREN SHA",
    ";1VOWEL SIGN SGAW KAREN EU;1TONE MARK SGAW KAREN HATHI;5KE PHO;1LETTER WESTERN PWO KAREN THA",
    ";5PWA;1VOWEL SIGN WESTERN PWO KAREN EU;6UE;1SIGN WESTERN PWO KAREN TONE-1;5TONE-2;5TONE-3",
    ";5TONE-4;5TONE-5;1LETTER EASTERN PWO KAREN NNA;5YWA;5GHWA;1VOWEL SIGN GEBA KAREN I;3KAYAH OE",
    ";4U;4EE;1LETTER SHAN KA;3KHA;3GA;3CA;3ZA;3NYA;3DA;3NA;3PHA;3FA;3BA;3THA;3HA",
    ";1CONSONANT SIGN SHAN MEDIAL WA;1VOWEL SIGN SHAN AA;4E;5ABOVE;4FINAL Y;1SIGN SHAN TONE-2",
    ";3TONE-3;3TONE-5;3TONE-6;3COUNCIL TONE-2;4TONE-3;4EMPHATIC TONE;1LETTER RUMAI PALAUNG FA",
    ";1SIGN RUMAI PALAUNG TONE-5;1SHAN DIGIT ZERO;3ONE;3TWO;3THREE;3FOUR;3FIVE;3SIX;3SEVEN;3EIGHT",
    ";3NINE;1SIGN KHAMTI TONE-1;3TONE-3;1VOWEL SIGN AITON A;4AI;1SYMBOL SHAN ONE;3EXCLAMATION",
    ";0GEORGIAN CAPITAL LETTER AN;3BAN;3GAN;3DON;3EN;3VIN;3ZEN;3TAN;3IN;3KAN;3LAS;3MAN;3NAR;3ON",
    ";3PAR;3ZHAR;3RAE;3SAN;3TAR;3UN;3PHAR;3KHAR;3GHAN;3QAR;3SHIN;3CHIN;3CAN;3JIL;3CIL;3CHAR;3XAN",
    ";3JHAN;3HAE;3HE;3HIE;3WE;3HAR;3HOE;@10C7;3YN;@10CD;3AEN;@10D0;1LETTER AN;2BAN;2GAN;2DON;2EN",
    ";2VIN;2ZEN;2TAN;2IN;2KAN;2LAS;2MAN;2NAR;2ON;2PAR;2ZHAR;2RAE;2SAN;2TAR;2UN;2PHAR;2KHAR;2GHAN",
    ";2QAR;2SHIN;2CHIN;2CAN;2JIL;2CIL;2CHAR;2XAN;2JHAN;2HAE;2HE;2HIE;2WE;2HAR;2HOE;2FI;2YN;2ELIFI",
    ";2TURNED GAN;2AIN;1PARAGRAPH SEPARATOR;0MODIFIER LETTER GEORGIAN NAR;0GEORGIAN LETTER AEN",
    ";2HARD SIGN;2LABIAL SIGN;0HANGUL CHOSEONG KIYEOK;2SSANGKIYEOK;2NIEUN;2TIKEUT;2SSANGTIKEUT",
    ";2RIEUL;2MIEUM;2PIEUP;2SSANGPIEUP;2SIOS;2SSANGSIOS;2IEUNG;2CIEUC;2SSANGCIEUC;2CHIEUCH",
    ";2KHIEUKH;2THIEUTH;2PHIEUPH;2HIEUH;2NIEUN-KIYEOK;2SSANGNIEUN;2NIEUN-TIKEUT;2NIEUN-PIEUP",
    ";2TIKEUT-KIYEOK;2RIEUL-NIEUN;2SSANGRIEUL;2RIEUL-HIEUH;2KAPYEOUNRIEUL;2MIEUM-PIEUP",
    ";2KAPYEOUNMIEUM;2PIEUP-KIYEOK;2PIEUP-NIEUN;2PIEUP-TIKEUT;2PIEUP-SIOS;2PIEUP-SIOS-KIYEOK",
    ";2PIEUP-SIOS-TIKEUT;2PIEUP-SIOS-PIEUP;2PIEUP-SSANGSIOS;2PIEUP-SIOS-CIEUC;2PIEUP-CIEUC",
    ";2PIEUP-CHIEUCH;2PIEUP-THIEUTH;2PIEUP-PHIEUPH;2KAPYEOUNPIEUP;2KAPYEOUNSSANGPIEUP",
    ";2SIOS-KIYEOK;2SIOS-NIEUN;2SIOS-TIKEUT;2SIOS-RIEUL;2SIOS-MIEUM;2SIOS-PIEUP",
    ";2SIOS-PIEUP-KIYEOK;2SIOS-SSANGSIOS;2SIOS-IEUNG;2SIOS-CIEUC;2SIOS-CHIEUCH;2SIOS-KHIEUKH",
    ";2SIOS-THIEUTH;2SIOS-PHIEUPH;2SIOS-HIEUH;2CHITUEUMSIOS;2CHITUEUMSSANGSIOS;2CEONGCHIEUMSIOS",
    ";2CEONGCHIEUMSSANGSIOS;2PANSIOS;2IEUNG-KIYEOK;2IEUNG-TIKEUT;2IEUNG-MIEUM;2IEUNG-PIEUP",
    ";2IEUNG-SIOS;2IEUNG-PANSIOS;2SSANGIEUNG;2IEUNG-CIEUC;2IEUNG-CHIEUCH;2IEUNG-THIEUTH",
    ";2IEUNG-PHIEUPH;2YESIEUNG;2CIEUC-IEUNG;2CHITUEUMCIEUC;2CHITUEUMSSANGCIEUC;2CEONGCHIEUMCIEUC",
    ";2CEONGCHIEUMSSANGCIEUC;2CHIEUCH-KHIEUKH;2CHIEUCH-HIEUH;2CHITUEUMCHIEUCH;2CEONGCHIEUMCHIEUCH",
    ";2PHIEUPH-PIEUP;2KAPYEOUNPHIEUPH;2SSANGHIEUH;2YEORINHIEUH;2KIYEOK-TIKEUT;2NIEUN-SIOS",
    ";2NIEUN-CIEUC;2NIEUN-HIEUH;2TIKEUT-RIEUL;2FILLER;1JUNGSEONG FILLER;2A;2AE;2YA;2YAE;2EO;2E",
    ";2YEO;2YE;2O;2WA;2WAE;2OE;2YO;2U;2WEO;2WE;2WI;2YU;2EU;2YI;2I;2A-O;2A-U;2YA-O;2YA-YO;2EO-O",
    ";2EO-U;2EO-EU;2YEO-O;2YEO-U;2O-EO;2O-E;2O-YE;2O-O;2O-U;2YO-YA;2YO-YAE;2YO-YEO;2YO-O;2YO-I",
    ";2U-A;2U-AE;2U-EO-EU;2U-YE;2U-U;2YU-A;2YU-EO;2YU-E;2YU-YEO;2YU-YE;2YU-U;2YU-I;2EU-U;2EU-EU",
    ";2YI-U;2I-A;2I-YA;2I-O;2I-U;2I-EU;2I-ARAEA;2ARAEA;2ARAEA-EO;2ARAEA-U;2ARAEA-I;2SSANGARAEA",
    ";2A-EU;2YA-U;2YEO-YA;2O-YA;2O-YAE;1JONGSEONG KIYEOK;2SSANGKIYEOK;2KIYEOK-SIOS;2NIEUN",
    ";2NIEUN-CIEUC;2NIEUN-HIEUH;2TIKEUT;2RIEUL;2RIEUL-KIYEOK;2RIEUL-MIEUM;2RIEUL-PIEUP",
    ";2RIEUL-SIOS;2RIEUL-THIEUTH;2RIEUL-PHIEUPH;2RIEUL-HIEUH;2MIEUM;2PIEUP;2PIEUP-SIOS;2SIOS",
    ";2SSANGSIOS;2IEUNG;2CIEUC;2CHIEUCH;2KHIEUKH;2THIEUTH;2PHIEUPH;2HIEUH;2KIYEOK-RIEUL",
    ";2KIYEOK-SIOS-KIYEOK;2NIEUN-KIYEOK;2NIEUN-TIKEUT;2NIEUN-SIOS;2NIEUN-PANSIOS;2NIEUN-THIEUTH",
    ";2TIKEUT-KIYEOK;2TIKEUT-RIEUL;2RIEUL-KIYEOK-SIOS;2RIEUL-NIEUN;2RIEUL-TIKEUT",
    ";2RIEUL-TIKEUT-HIEUH;2SSANGRIEUL;2RIEUL-MIEUM-KIYEOK;2RIEUL-MIEUM-SIOS;2RIEUL-PIEUP-SIOS",
    ";2RIEUL-PIEUP-HIEUH;2RIEUL-KAPYEOUNPIEUP;2RIEUL-SSANGSIOS;2RIEUL-PANSIOS;2RIEUL-KHIEUKH",
    ";2RIEUL-YEORINHIEUH;2MIEUM-KIYEOK;2MIEUM-RIEUL;2MIEUM-PIEUP;2MIEUM-SIOS;2MIEUM-SSANGSIOS",
    ";2MIEUM-PANSIOS;2MIEUM-CHIEUCH;2MIEUM-HIEUH;2KAPYEOUNMIEUM;2PIEUP-RIEUL;2PIEUP-PHIEUPH",
    ";2PIEUP-HIEUH;2KAPYEOUNPIEUP;2SIOS-KIYEOK;2SIOS-TIKEUT;2SIOS-RIEUL;2SIOS-PIEUP;2PANSIOS",
    ";2IEUNG-KIYEOK"],
   [";2IEUNG-SSANGKIYEOK;2SSANGIEUNG;2IEUNG-KHIEUKH;2YESIEUNG;2YESIEUNG-SIOS;2YESIEUNG-PANSIOS",
    ";2PHIEUPH-PIEUP;2KAPYEOUNPHIEUPH;2HIEUH-NIEUN;2HIEUH-RIEUL;2HIEUH-MIEUM;2HIEUH-PIEUP",
    ";2YEORINHIEUH;2KIYEOK-NIEUN;2KIYEOK-PIEUP;2KIYEOK-CHIEUCH;2KIYEOK-KHIEUKH;2KIYEOK-HIEUH",
    ";2SSANGNIEUN;0ETHIOPIC SYLLABLE HA;2HU;2HI;2HAA;2HEE;2HE;2HO;2HOA;2LA;2LU;2LI;2LAA;2LEE;2LE",
    ";2LO;2LWA;2HHA;2HHU;2HHI;2HHAA;2HHEE;2HHE;2HHO;2HHWA;2MA;2MU;2MI;2MAA;2MEE;2ME;2MO;2MWA;2SZA",
    ";2SZU;2SZI;2SZAA;2SZEE;2SZE;2SZO;2SZWA;2RA;2RU;2RI;2RAA;2REE;2RE;2RO;2RWA;2SA;2SU;2SI;2SAA",
    ";2SEE;2SE;2SO;2SWA;2SHA;2SHU;2SHI;2SHAA;2SHEE;2SHE;2SHO;2SHWA;2QA;2QU;2QI;2QAA;2QEE;2QE;2QO",
    ";2QOA;2QWA;@124A;2QWI;2QWAA;2QWEE;2QWE;@1250;2QHA;2QHU;2QHI;2QHAA;2QHEE;2QHE;2QHO;@1258",
    ";2QHWA;@125A;2QHWI;2QHWAA;2QHWEE;2QHWE;@1260;2BA;2BU;2BI;2BAA;2BEE;2BE;2BO;2BWA;2VA;2VU;2VI",
    ";2VAA;2VEE;2VE;2VO;2VWA;2TA;2TU;2TI;2TAA;2TEE;2TE;2TO;2TWA;2CA;2CU;2CI;2CAA;2CEE;2CE;2CO",
    ";2CWA;2XA;2XU;2XI;2XAA;2XEE;2XE;2XO;2XOA;2XWA;@128A;2XWI;2XWAA;2XWEE;2XWE;@1290;2NA;2NU;2NI",
    ";2NAA;2NEE;2NE;2NO;2NWA;2NYA;2NYU;2NYI;2NYAA;2NYEE;2NYE;2NYO;2NYWA;2GLOTTAL A;3U;3I;3AA;3EE",
    ";3E;3O;3WA;2KA;2KU;2KI;2KAA;2KEE;2KE;2KO;2KOA;2KWA;@12B2;2KWI;2KWAA;2KWEE;2KWE;@12B8;2KXA",
    ";2KXU;2KXI;2KXAA;2KXEE;2KXE;2KXO;@12C0;2KXWA;@12C2;2KXWI;2KXWAA;2KXWEE;2KXWE;@12C8;2WA;2WU",
    ";2WI;2WAA;2WEE;2WE;2WO;2WOA;2PHARYNGEAL A;3U;3I;3AA;3EE;3E;3O;@12D8;2ZA;2ZU;2ZI;2ZAA;2ZEE",
    ";2ZE;2ZO;2ZWA;2ZHA;2ZHU;2ZHI;2ZHAA;2ZHEE;2ZHE;2ZHO;2ZHWA;2YA;2YU;2YI;2YAA;2YEE;2YE;2YO;2YOA",
    ";2DA;2DU;2DI;2DAA;2DEE;2DE;2DO;2DWA;2DDA;2DDU;2DDI;2DDAA;2DDEE;2DDE;2DDO;2DDWA;2JA;2JU;2JI",
    ";2JAA;2JEE;2JE;2JO;2JWA;2GA;2GU;2GI;2GAA;2GEE;2GE;2GO;2GOA;2GWA;@1312;2GWI;2GWAA;2GWEE;2GWE",
    ";@1318;2GGA;2GGU;2GGI;2GGAA;2GGEE;2GGE;2GGO;2GGWAA;2THA;2THU;2THI;2THAA;2THEE;2THE;2THO",
    ";2THWA;2CHA;2CHU;2CHI;2CHAA;2CHEE;2CHE;2CHO;2CHWA;2PHA;2PHU;2PHI;2PHAA;2PHEE;2PHE;2PHO;2PHWA",
    ";2TSA;2TSU;2TSI;2TSAA;2TSEE;2TSE;2TSO;2TSWA;2TZA;2TZU;2TZI;2TZAA;2TZEE;2TZE;2TZO;2TZOA;2FA",
    ";2FU;2FI;2FAA;2FEE;2FE;2FO;2FWA;2PA;2PU;2PI;2PAA;2PEE;2PE;2PO;2PWA;2RYA;2MYA;2FYA;@135D",
    ";1COMBINING GEMINATION AND VOWEL LENGTH MARK;2VOWEL LENGTH MARK;2GEMINATION MARK",
    ";1SECTION MARK;1WORDSPACE;1FULL STOP;1COMMA;1SEMICOLON;1COLON;1PREFACE COLON;1QUESTION MARK",
    ";1PARAGRAPH SEPARATOR;1DIGIT ONE;2TWO;2THREE;2FOUR;2FIVE;2SIX;2SEVEN;2EIGHT;2NINE",
    ";1NUMBER TEN;2TWENTY;2THIRTY;2FORTY;2FIFTY;2SIXTY;2SEVENTY;2EIGHTY;2NINETY;2HUNDRED",
    ";2TEN THOUSAND;@1380;1SYLLABLE SEBATBEIT MWA;2MWI;2MWEE;2MWE;2SEBATBEIT BWA;2BWI;2BWEE;2BWE",
    ";2SEBATBEIT FWA;2FWI;2FWEE;2FWE;2SEBATBEIT PWA;2PWI;2PWEE;2PWE;1TONAL MARK YIZET;3DERET",
    ";3RIKRIK;3SHORT RIKRIK;3DIFAT;3KENAT;3CHIRET;3HIDET;3DERET-HIDET;3KURT;@13A0",
    ";0CHEROKEE LETTER A;2E;2I;2O;2U;2V;2GA;2KA;2GE;2GI;2GO;2GU;2GV;2HA;2HE;2HI;2HO;2HU;2HV;2LA",
    ";2LE;2LI;2LO;2LU;2LV;2MA;2ME;2MI;2MO;2MU;2NA;2HNA;2NAH;2NE;2NI;2NO;2NU;2NV;2QUA;2QUE;2QUI",
    ";2QUO;2QUU;2QUV;2SA;2S;2SE;2SI;2SO;2SU;2SV;2DA;2TA;2DE;2TE;2DI;2TI;2DO;2DU;2DV;2DLA;2TLA",
    ";2TLE;2TLI;2TLO;2TLU;2TLV;2TSA;2TSE;2TSI;2TSO;2TSU;2TSV;2WA;2WE;2WI;2WO;2WU;2WV;2YA;2YE;2YI",
    ";2YO;2YU;2YV;2MV;@13F8;1SMALL LETTER YE;3YI;3YO;3YU;3YV;3MV;@1400;0CANADIAN SYLLABICS HYPHEN",
    ";2E;2AAI;2I;2II;2O;2OO;2Y-CREE OO;2CARRIER EE;3I;2A;2AA;2WE;2WEST-CREE WE;2WI;2WEST-CREE WI",
    ";2WII;2WEST-CREE WII;2WO;2WEST-CREE WO;2WOO;2WEST-CREE WOO;2NASKAPI WOO;2WA;2WEST-CREE WA",
    ";2WAA;2WEST-CREE WAA;2NASKAPI WAA;2AI;2Y-CREE W;2GLOTTAL STOP;2FINAL ACUTE;3GRAVE",
    ";3BOTTOM HALF RING;3TOP HALF RING;3RIGHT HALF RING;3RING;3DOUBLE ACUTE",
    ";4SHORT VERTICAL STROKES;3MIDDLE DOT;3SHORT HORIZONTAL STROKE;3PLUS;3DOWN TACK;2EN;2IN;2ON",
    ";2AN;2PE;2PAAI;2PI;2PII;2PO;2POO;2Y-CREE POO;2CARRIER HEE;3HI;2PA;2PAA;2PWE;2WEST-CREE PWE",
    ";2PWI;2WEST-CREE PWI;2PWII;2WEST-CREE PWII;2PWO;2WEST-CREE PWO;2PWOO;2WEST-CREE PWOO;2PWA",
    ";2WEST-CREE PWA;2PWAA;2WEST-CREE PWAA;2Y-CREE PWAA;2P;2WEST-CREE P;2CARRIER H;2TE;2TAAI;2TI",
    ";2TII;2TO;2TOO;2Y-CREE TOO;2CARRIER DEE;3DI;2TA;2TAA;2TWE;2WEST-CREE TWE;2TWI;2WEST-CREE TWI",
    ";2TWII;2WEST-CREE TWII;2TWO;2WEST-CREE TWO;2TWOO;2WEST-CREE TWOO;2TWA;2WEST-CREE TWA;2TWAA",
    ";2WEST-CREE TWAA;2NASKAPI TWAA;2T;2TTE;2TTI;2TTO;2TTA;2KE;2KAAI;2KI;2KII;2KO;2KOO",
    ";2Y-CREE KOO;2KA;2KAA;2KWE;2WEST-CREE KWE;2KWI;2WEST-CREE KWI;2KWII;2WEST-CREE KWII;2KWO",
    ";2WEST-CREE KWO;2KWOO;2WEST-CREE KWOO;2KWA;2WEST-CREE KWA;2KWAA;2WEST-CREE KWAA",
    ";2NASKAPI KWAA;2K;2KW;2SOUTH-SLAVEY KEH;3KIH;3KOH;3KAH;2CE;2CAAI;2CI;2CII;2CO;2COO",
    ";2Y-CREE COO;2CA;2CAA;2CWE;2WEST-CREE CWE;2CWI;2WEST-CREE CWI;2CWII;2WEST-CREE CWII;2CWO",
    ";2WEST-CREE CWO;2CWOO;2WEST-CREE CWOO;2CWA;2WEST-CREE CWA;2CWAA;2WEST-CREE CWAA",
    ";2NASKAPI CWAA;2C;2SAYISI TH;2ME;2MAAI;2MI;2MII;2MO;2MOO;2Y-CREE MOO;2MA;2MAA;2MWE",
    ";2WEST-CREE MWE;2MWI;2WEST-CREE MWI;2MWII;2WEST-CREE MWII;2MWO;2WEST-CREE MWO;2MWOO",
    ";2WEST-CREE MWOO;2MWA;2WEST-CREE MWA;2MWAA;2WEST-CREE MWAA;2NASKAPI MWAA;2M;2WEST-CREE M;2MH",
    ";2ATHAPASCAN M;2SAYISI M;2NE;2NAAI;2NI;2NII;2NO;2NOO;2Y-CREE NOO;2NA;2NAA;2NWE",
    ";2WEST-CREE NWE;2NWA;2WEST-CREE NWA;2NWAA;2WEST-CREE NWAA;2NASKAPI NWAA;2N;2CARRIER NG;2NH",
    ";2LE;2LAAI;2LI;2LII;2LO;2LOO;2Y-CREE LOO;2LA;2LAA;2LWE;2WEST-CREE LWE;2LWI;2WEST-CREE LWI",
    ";2LWII;2WEST-CREE LWII;2LWO;2WEST-CREE LWO;2LWOO;2WEST-CREE LWOO;2LWA;2WEST-CREE LWA;2LWAA",
    ";2WEST-CREE LWAA;2L;2WEST-CREE L;2MEDIAL L;2SE;2SAAI;2SI;2SII;2SO;2SOO;2Y-CREE SOO;2SA;2SAA",
    ";2SWE;2WEST-CREE SWE;2SWI;2WEST-CREE SWI;2SWII;2WEST-CREE SWII;2SWO;2WEST-CREE SWO;2SWOO",
    ";2WEST-CREE SWOO;2SWA;2WEST-CREE SWA;2SWAA;2WEST-CREE SWAA;2NASKAPI SWAA;2S;2ATHAPASCAN S",
    ";2SW"],
   [";2BLACKFOOT S;2MOOSE-CREE SK;2NASKAPI SKW;3S-W;3SPWA;3STWA;3SKWA;3SCWA;2SHE;2SHI;2SHII;2SHO",
    ";2SHOO;2SHA;2SHAA;2SHWE;2WEST-CREE SHWE;2SHWI;2WEST-CREE SHWI;2SHWII;2WEST-CREE SHWII;2SHWO",
    ";2WEST-CREE SHWO;2SHWOO;2WEST-CREE SHWOO;2SHWA;2WEST-CREE SHWA;2SHWAA;2WEST-CREE SHWAA;2SH",
    ";2YE;2YAAI;2YI;2YII;2YO;2YOO;2Y-CREE YOO;2YA;2YAA;2YWE;2WEST-CREE YWE;2YWI;2WEST-CREE YWI",
    ";2YWII;2WEST-CREE YWII;2YWO;2WEST-CREE YWO;2YWOO;2WEST-CREE YWOO;2YWA;2WEST-CREE YWA;2YWAA",
    ";2WEST-CREE YWAA;2NASKAPI YWAA;2Y;2BIBLE-CREE Y;2WEST-CREE Y;2SAYISI YI;2RE;2R-CREE RE",
    ";2WEST-CREE LE;2RAAI;2RI;2RII;2RO;2ROO;2WEST-CREE LO;2RA;2RAA;2WEST-CREE LA;2RWAA",
    ";2WEST-CREE RWAA;2R;2WEST-CREE R;2MEDIAL R;2FE;2FAAI;2FI;2FII;2FO;2FOO;2FA;2FAA;2FWAA",
    ";2WEST-CREE FWAA;2F;2THE;2N-CREE THE;2THI;2N-CREE THI;2THII;2N-CREE THII;2THO;2THOO;2THA",
    ";2THAA;2THWAA;2WEST-CREE THWAA;2TH;2TTHE;2TTHI;2TTHO;2TTHA;2TTH;2TYE;2TYI;2TYO;2TYA",
    ";2NUNAVIK HE;3HI;3HII;3HO;3HOO;3HA;3HAA;3H;2NUNAVUT H;2HK;2QAAI;2QI;2QII;2QO;2QOO;2QA;2QAA",
    ";2Q;2TLHE;2TLHI;2TLHO;2TLHA;2WEST-CREE RE;3RI;3RO;3RA;2NGAAI;2NGI;2NGII;2NGO;2NGOO;2NGA",
    ";2NGAA;2NG;2NNG;2SAYISI SHE;3SHI;3SHO;3SHA;2WOODS-CREE THE;3THI;3THO;3THA;3TH;2LHI;2LHII",
    ";2LHO;2LHOO;2LHA;2LHAA;2LH;2TH-CREE THE;3THI;3THII;3THO;3THOO;3THA;3THAA;3TH;2AIVILIK B",
    ";2BLACKFOOT E;3I;3O;3A;3WE;3WI;3WO;3WA;3NE;3NI;3NO;3NA;3KE;3KI;3KO;3KA;2SAYISI HE;3HI;3HO",
    ";3HA;2CARRIER GHU;3GHO;3GHE;3GHEE;3GHI;3GHA;3RU;3RO;3RE;3REE;3RI;3RA;3WU;3WO;3WE;3WEE;3WI",
    ";3WA;3HWU;3HWO;3HWE;3HWEE;3HWI;3HWA;3THU;3THO;3THE;3THEE;3THI;3THA;3TTU;3TTO;3TTE;3TTEE;3TTI",
    ";3TTA;3PU;3PO;3PE;3PEE;3PI;3PA;3P;3GU;3GO;3GE;3GEE;3GI;3GA;3KHU;3KHO;3KHE;3KHEE;3KHI;3KHA",
    ";3KKU;3KKO;3KKE;3KKEE;3KKI;3KKA;3KK;3NU;3NO;3NE;3NEE;3NI;3NA;3MU;3MO;3ME;3MEE;3MI;3MA;3YU",
    ";3YO;3YE;3YEE;3YI;3YA;3JU;2SAYISI JU;2CARRIER JO;3JE;3JEE;3JI;2SAYISI JI;2CARRIER JA;3JJU",
    ";3JJO;3JJE;3JJEE;3JJI;3JJA;3LU;3LO;3LE;3LEE;3LI;3LA;3DLU;3DLO;3DLE;3DLEE;3DLI;3DLA;3LHU;3LHO",
    ";3LHE;3LHEE;3LHI;3LHA;3TLHU;3TLHO;3TLHE;3TLHEE;3TLHI;3TLHA;3TLU;3TLO;3TLE;3TLEE;3TLI;3TLA",
    ";3ZU;3ZO;3ZE;3ZEE;3ZI;3ZA;3Z;3INITIAL Z;3DZU;3DZO;3DZE;3DZEE;3DZI;3DZA;3SU;3SO;3SE;3SEE;3SI",
    ";3SA;3SHU;3SHO;3SHE;3SHEE;3SHI;3SHA;3SH;3TSU;3TSO;3TSE;3TSEE;3TSI;3TSA;3CHU;3CHO;3CHE;3CHEE",
    ";3CHI;3CHA;3TTSU;3TTSO;3TTSE;3TTSEE;3TTSI;3TTSA;2CHI SIGN;2FULL STOP;2QAI;2NGAI;2NNGI;2NNGII",
    ";2NNGO;2NNGOO;2NNGA;2NNGAA;2WOODS-CREE THWEE;3THWI;3THWII;3THWO;3THWOO;3THWA;3THWAA",
    ";3FINAL TH;2BLACKFOOT W;0OGHAM SPACE MARK;1LETTER BEITH;2LUIS;2FEARN;2SAIL;2NION;2UATH;2DAIR",
    ";2TINNE;2COLL;2CEIRT;2MUIN;2GORT;2NGEADAL;2STRAIF;2RUIS;2AILM;2ONN;2UR;2EADHADH;2IODHADH",
    ";2EABHADH;2OR;2UILLEANN;2IFIN;2EAMHANCHOLL;2PEITH;1FEATHER MARK;1REVERSED FEATHER MARK;@16A0",
    ";0RUNIC LETTER FEHU FEOH FE F;2V;2URUZ UR U;2YR;2Y;2W;2THURISAZ THURS THORN;2ETH;2ANSUZ A",
    ";2OS O;2AC A;2AESC;2LONG-BRANCH-OSS O;2SHORT-TWIG-OSS O;2O;2OE;2ON;2RAIDO RAD REID R;2KAUNA",
    ";2CEN;2KAUN K;2G;2ENG;2GEBO GYFU G;2GAR;2WUNJO WYNN W;2HAGLAZ H;2HAEGL H",
    ";2LONG-BRANCH-HAGALL H;2SHORT-TWIG-HAGALL H;2NAUDIZ NYD NAUD N;2SHORT-TWIG-NAUD N;2DOTTED-N",
    ";2ISAZ IS ISS I;2E;2JERAN J;2GER;2LONG-BRANCH-AR AE;2SHORT-TWIG-AR A;2IWAZ EOH",
    ";2PERTHO PEORTH P;2ALGIZ EOLHX;2SOWILO S;2SIGEL LONG-BRANCH-SOL S;2SHORT-TWIG-SOL S;2C;2Z",
    ";2TIWAZ TIR TYR T;2SHORT-TWIG-TYR T;2D;2BERKANAN BEORC BJARKAN B;2SHORT-TWIG-BJARKAN B",
    ";2DOTTED-P;2OPEN-P;2EHWAZ EH E;2MANNAZ MAN M;2LONG-BRANCH-MADR M;2SHORT-TWIG-MADR M",
    ";2LAUKAZ LAGU LOGR L;2DOTTED-L;2INGWAZ;2ING;2DAGAZ DAEG D;2OTHALAN ETHEL O;2EAR;2IOR",
    ";2CWEORTH;2CALC;2CEALC;2STAN;2LONG-BRANCH-YR;2SHORT-TWIG-YR;2ICELANDIC-YR;2Q;2X",
    ";1SINGLE PUNCTUATION;1MULTIPLE PUNCTUATION;1CROSS PUNCTUATION;1ARLAUG SYMBOL",
    ";1TVIMADUR SYMBOL;1BELGTHOR SYMBOL;1LETTER K;2SH;2OO;2FRANKS CASKET OS;4IS;4EH;4AC;4AESC"],
   [";@1700;0TAGALOG LETTER A;2I;2U;2KA;2GA;2NGA;2TA;2DA;2NA;2PA;2BA;2MA;2YA;2RA;2LA;2WA;2SA;2HA",
    ";1VOWEL SIGN I;3U;1SIGN VIRAMA;2PAMUDPOD;@171F;1LETTER ARCHAIC RA;0HANUNOO LETTER A;2I;2U",
    ";2KA;2GA;2NGA;2TA;2DA;2NA;2PA;2BA;2MA;2YA;2RA;2LA;2WA;2SA;2HA;1VOWEL SIGN I;3U",
    ";1SIGN PAMUDPOD;0PHILIPPINE SINGLE PUNCTUATION;1DOUBLE PUNCTUATION;@1740;0BUHID LETTER A;2I",
    ";2U;2KA;2GA;2NGA;2TA;2DA;2NA;2PA;2BA;2MA;2YA;2RA;2LA;2WA;2SA;2HA;1VOWEL SIGN I;3U;@1760",
    ";0TAGBANWA LETTER A;2I;2U;2KA;2GA;2NGA;2TA;2DA;2NA;2PA;2BA;2MA;2YA;@176E;2LA;2WA;2SA;@1772",
    ";1VOWEL SIGN I;3U;@1780;0KHMER LETTER KA;2KHA;2KO;2KHO;2NGO;2CA;2CHA;2CO;2CHO;2NYO;2DA;2TTHA",
    ";2DO;2TTHO;2NNO;2TA;2THA;2TO;2THO;2NO;2BA;2PHA;2PO;2PHO;2MO;2YO;2RO;2LO;2VO;2SHA;2SSO;2SA",
    ";2HA;2LA;2QA;1INDEPENDENT VOWEL QAQ;3QAA;3QI;3QII;3QU;3QUK;3QUU;3QUUV;3RY;3RYY;3LY;3LYY;3QE",
    ";3QAI;3QOO TYPE ONE;5TWO;3QAU;1VOWEL INHERENT AQ;3AA;2SIGN AA;3I;3II;3Y;3YY;3U;3UU;3UA;3OE",
    ";3YA;3IE;3E;3AE;3AI;3OO;3AU;1SIGN NIKAHIT;2REAHMUK;2YUUKALEAPINTU;2MUUSIKATOAN;2TRIISAP",
    ";2BANTOC;2ROBAT;2TOANDAKHIAT;2KAKABAT;2AHSDA;2SAMYOK SANNYA;2VIRIAM;2COENG;2BATHAMASAT;2KHAN",
    ";2BARIYOOSAN;2CAMNUC PII KUUH;2LEK TOO;2BEYYAL;2PHNAEK MUAN;2KOOMUUT;1CURRENCY SYMBOL RIEL",
    ";1SIGN AVAKRAHASANYA;2ATTHACAN;@17E0;1DIGIT ZERO;2ONE;2TWO;2THREE;2FOUR;2FIVE;2SIX;2SEVEN",
    ";2EIGHT;2NINE;@17F0;1SYMBOL LEK ATTAK SON;4MUOY;4PII;4BEI;4BUON;4PRAM;4PRAM-MUOY;4PRAM-PII",
    ";4PRAM-BEI;4PRAM-BUON;@1800;0MONGOLIAN BIRGA;1ELLIPSIS;1COMMA;1FULL STOP;1COLON;1FOUR DOTS",
    ";1TODO SOFT HYPHEN;1SIBE SYLLABLE BOUNDARY MARKER;1MANCHU COMMA;2FULL STOP;1NIRUGU",
    ";1FREE VARIATION SELECTOR ONE;4TWO;4THREE;1VOWEL SEPARATOR;1FREE VARIATION SELECTOR FOUR",
    ";1DIGIT ZERO;2ONE;2TWO;2THREE;2FOUR;2FIVE;2SIX;2SEVEN;2EIGHT;2NINE;@1820;1LETTER A;2E;2I;2O",
    ";2U;2OE;2UE;2EE;2NA;2ANG;2BA;2PA;2QA;2GA;2MA;2LA;2SA;2SHA;2TA;2DA;2CHA;2JA;2YA;2RA;2WA;2FA",
    ";2KA;2KHA;2TSA;2ZA;2HAA;2ZRA;2LHA;2ZHI;2CHI;2TODO LONG VOWEL SIGN;3E;3I;3O;3U;3OE;3UE;3ANG",
    ";3BA;3PA;3QA;3GA;3MA;3TA;3DA;3CHA;3JA;3TSA;3YA;3WA;3KA;3GAA;3HAA;3JIA;3NIA;3DZA;2SIBE E;3I",
    ";3IY;3UE;3U;3ANG;3KA;3GA;3HA;3PA;3SHA;3TA;3DA;3JA;3FA;3GAA;3HAA;3TSA;3ZA;3RAA;3CHA;3ZHA",
    ";2MANCHU I;3KA;3RA;3FA;3ZHA;2CHA WITH TWO DOTS;@1880;2ALI GALI ANUSVARA ONE;4VISARGA ONE",
    ";4DAMARU;4UBADAMA;4INVERTED UBADAMA;4BALUDA;4THREE BALUDA;4A;4I;4KA;4NGA;4CA;4TTA;4TTHA;4DDA",
    ";4NNA;4TA;4DA;4PA;4PHA;4SSA;4ZHA;4ZA;4AH;2TODO ALI GALI TA;5ZHA;2MANCHU ALI GALI GHA;5NGA",
    ";5CA;5JHA;5TTA;5DDHA;5TA;5DHA;5SSA;5CYA;5ZHA;5ZA;2ALI GALI HALF U;5YA;2MANCHU ALI GALI BHA",
    ";2ALI GALI DAGALGA;2MANCHU ALI GALI LHA;@18B0;0CANADIAN SYLLABICS OY;2AY;2AAY;2WAY;2POY;2PAY",
    ";2PWOY;2TAY;2KAY;2KWAY;2MAY;2NOY;2NAY;2LAY;2SOY;2SAY;2SHOY;2SHAY;2SHWOY;2YOY;2YAY;2RAY;2NWI",
    ";2OJIBWAY NWI;2NWII;2OJIBWAY NWII;2NWO;2OJIBWAY NWO;2NWOO;2OJIBWAY NWOO;2RWEE;2RWI;2RWII",
    ";2RWO;2RWOO;2RWA;2OJIBWAY P;3T;3K;3C;3M;3N;3S;3SH;2EASTERN W;2WESTERN W;2FINAL SMALL RING",
    ";3RAISED DOT;2R-CREE RWE;2WEST-CREE LOO;3LAA;2THWE;2THWA;2TTHWE;2TTHOO;2TTHAA;2TLHWE;2TLHOO",
    ";2SAYISI SHWE;3SHOO;3HOO;2CARRIER GWU;3DENE GEE;3GAA;3GWA;2SAYISI JUU;2CARRIER JWA",
    ";2BEAVER DENE L;4R;2CARRIER DENTAL S;@1900;0LIMBU VOWEL-CARRIER LETTER;1LETTER KA;2KHA;2GA",
    ";2GHA;2NGA;2CA;2CHA;2JA;2JHA;2YAN;2TA;2THA;2DA;2DHA;2NA;2PA;2PHA;2BA;2BHA;2MA;2YA;2RA;2LA",
    ";2WA;2SHA;2SSA;2SA;2HA;2GYAN;2TRA;@1920;1VOWEL SIGN A;3I;3U;3EE;3AI;3OO;3AU;3E;3O",
    ";1SUBJOINED LETTER YA;3RA;3WA;@1930;1SMALL LETTER KA;3NGA;3ANUSVARA;3TA;3NA;3PA;3MA;3RA;3LA",
    ";1SIGN MUKPHRENG;2KEMPHRENG;2SA-I;@1940;2LOO;@1944;1EXCLAMATION MARK;1QUESTION MARK",
    ";1DIGIT ZERO;2ONE;2TWO;2THREE;2FOUR;2FIVE;2SIX;2SEVEN;2EIGHT;2NINE;0TAI LE LETTER KA;3XA",
    ";3NGA;3TSA;3SA;3YA;3TA;3THA;3LA;3PA;3PHA;3MA;3FA;3VA;3HA;3QA;3KHA;3TSHA;3NA;3A;3I;3EE;3EH;3U",
    ";3OO;3O;3UE;3E;3AUE;3AI"],
   [";@1970;3TONE-2;3TONE-3;3TONE-4;3TONE-5;3TONE-6;@1980;0NEW TAI LUE LETTER HIGH QA;4LOW QA",
    ";4HIGH KA;5XA;5NGA;4LOW KA;5XA;5NGA;4HIGH TSA;5SA;5YA;4LOW TSA;5SA;5YA;4HIGH TA;5THA;5NA",
    ";4LOW TA;5THA;5NA;4HIGH PA;5PHA;5MA;4LOW PA;5PHA;5MA;4HIGH FA;5VA;5LA;4LOW FA;5VA;5LA",
    ";4HIGH HA;5DA;5BA;4LOW HA;5DA;5BA;4HIGH KVA;5XVA;4LOW KVA;5XVA;4HIGH SUA;4LOW SUA;@19B0",
    ";3VOWEL SIGN VOWEL SHORTENER;5AA;5II;5U;5UU;5E;5AE;5O;5OA;5UE;5AY;5AAY;5UY;5OY;5OAY;5UEY;5IY",
    ";3LETTER FINAL V;5NG;5N;5M;5K;5D;5B;3TONE MARK-1;4MARK-2;@19D0;3DIGIT ZERO;4ONE;4TWO;4THREE",
    ";4FOUR;4FIVE;4SIX;4SEVEN;4EIGHT;4NINE;3THAM DIGIT ONE;@19DE;3SIGN LAE;4LAEV",
    ";0KHMER SYMBOL PATHAMASAT;2MUOY KOET;2PII KOET;2BEI KOET;2BUON KOET;2PRAM KOET",
    ";2PRAM-MUOY KOET;2PRAM-PII KOET;2PRAM-BEI KOET;2PRAM-BUON KOET;2DAP KOET;2DAP-MUOY KOET",
    ";2DAP-PII KOET;2DAP-BEI KOET;2DAP-BUON KOET;2DAP-PRAM KOET;2TUTEYASAT;2MUOY ROC;2PII ROC",
    ";2BEI ROC;2BUON ROC;2PRAM ROC;2PRAM-MUOY ROC;2PRAM-PII ROC;2PRAM-BEI ROC;2PRAM-BUON ROC",
    ";2DAP ROC;2DAP-MUOY ROC;2DAP-PII ROC;2DAP-BEI ROC;2DAP-BUON ROC;2DAP-PRAM ROC",
    ";0BUGINESE LETTER KA;2GA;2NGA;2NGKA;2PA;2BA;2MA;2MPA;2TA;2DA;2NA;2NRA;2CA;2JA;2NYA;2NYCA;2YA",
    ";2RA;2LA;2VA;2SA;2A;2HA;1VOWEL SIGN I;3U;3E;3O;3AE;@1A1E;1PALLAWA;1END OF SECTION",
    ";0TAI THAM LETTER HIGH KA;4KHA;4KXA;3LOW KA;4KXA;4KHA;3NGA;3HIGH CA;4CHA;3LOW CA;4SA;4CHA",
    ";3NYA;3RATA;3HIGH RATHA;3DA;3LOW RATHA;3RANA;3HIGH TA;4THA;3LOW TA;4THA;3NA;3BA;3HIGH PA",
    ";4PHA;4FA;3LOW PA;4FA;4PHA;3MA;3LOW YA;3HIGH YA;3RA;3RUE;3LA;3LUE;3WA;3HIGH SHA;4SSA;4SA;4HA",
    ";3LLA;3A;3LOW HA;3I;3II;3U;3UU;3EE;3OO;3LAE;3GREAT SA;2CONSONANT SIGN MEDIAL RA;5LA",
    ";4LA TANG LAI;2SIGN MAI KANG LAI;2CONSONANT SIGN FINAL NGA;4LOW PA;4HIGH RATHA OR LOW PA;4MA",
    ";4BA;4SA;@1A60;2SIGN SAKOT;2VOWEL SIGN A;4MAI SAT;4AA;4TALL AA;4I;4II;4UE;4UUE;4U;4UU;4O",
    ";4OA BELOW;4OY;4E;4AE;4OO;4AI;4THAM AI;4OA ABOVE;2SIGN MAI KANG;3TONE-1;3TONE-2",
    ";3KHUEN TONE-3;4TONE-4;4TONE-5;3RA HAAM;3MAI SAM;3KHUEN-LUE KARAN;@1A7F",
    ";2COMBINING CRYPTOGRAMMIC DOT;2HORA DIGIT ZERO;4ONE;4TWO;4THREE;4FOUR;4FIVE;4SIX;4SEVEN",
    ";4EIGHT;4NINE;@1A90;2THAM DIGIT ZERO;4ONE;4TWO;4THREE;4FOUR;4FIVE;4SIX;4SEVEN;4EIGHT;4NINE",
    ";@1AA0;2SIGN WIANG;3WIANGWAAK;3SAWAN;3KEOW;3HOY;3DOKMAI;3REVERSED ROTATED RANA;3MAI YAMOK",
    ";3KAAN;3KAANKUU;3SATKAAN;3SATKAANKUU;3HANG;3CAANG;@1AB0;0COMBINING DOUBLED CIRCUMFLEX ACCENT",
    ";1DIAERESIS-RING;1INFINITY;1DOWNWARDS ARROW;1TRIPLE DOT;1X-X BELOW;1WIGGLY LINE BELOW",
    ";1OPEN MARK BELOW;1DOUBLE OPEN MARK BELOW;1LIGHT CENTRALIZATION STROKE BELOW",
    ";1STRONG CENTRALIZATION STROKE BELOW;1PARENTHESES ABOVE;1DOUBLE PARENTHESES ABOVE",
    ";1PARENTHESES BELOW;2OVERLAY;1LATIN SMALL LETTER W BELOW;4TURNED W BELOW",
    ";1LEFT PARENTHESIS ABOVE LEFT;1RIGHT PARENTHESIS ABOVE RIGHT;1LEFT PARENTHESIS BELOW LEFT",
    ";1RIGHT PARENTHESIS BELOW RIGHT;1SQUARE BRACKETS ABOVE;1NUMBER SIGN ABOVE",
    ";1INVERTED DOUBLE ARCH ABOVE;1PLUS SIGN ABOVE;1DOUBLE PLUS SIGN ABOVE;4BELOW",
    ";1TRIPLE ACUTE ACCENT;1LATIN SMALL LETTER INSULAR G;5R;5T;@1B00;0BALINESE SIGN ULU RICEM",
    ";3CANDRA;2CECEK;2SURANG;2BISAH;1LETTER AKARA;3TEDUNG;2IKARA;3TEDUNG;2UKARA;3TEDUNG;2RA REPA",
    ";4TEDUNG;2LA LENGA;4TEDUNG;2EKARA;2AIKARA;2OKARA;3TEDUNG;2KA;3MAHAPRANA;2GA;3GORA;2NGA;2CA",
    ";3LACA;2JA;3JERA;2NYA;2TA LATIK;3MURDA MAHAPRANA;2DA MURDA ALPAPRANA;4MAHAPRANA;2NA RAMBAT",
    ";2TA;3TAWA;2DA;3MADU;2NA;2PA;3KAPAL;2BA;3KEMBANG;2MA;2YA;2RA;2LA;2WA;2SA SAGA;3SAPA;2SA;2HA",
    ";1SIGN REREKAN;1VOWEL SIGN TEDUNG;3ULU;4SARI;3SUKU;4ILUT;3RA REPA;5TEDUNG;3LA LENGA;5TEDUNG",
    ";3TALING;4REPA;4TEDUNG;4REPA TEDUNG;3PEPET;4TEDUNG;1ADEG ADEG;1LETTER KAF SASAK;2KHOT SASAK",
    ";2TZIR SASAK;2EF SASAK;2VE SASAK;2ZAL SASAK;2ASYURA SASAK;2ARCHAIC JNYA"],
   [";@1B50;1DIGIT ZERO;2ONE;2TWO;2THREE;2FOUR;2FIVE;2SIX;2SEVEN;2EIGHT;2NINE;1PANTI;1PAMADA",
    ";1WINDU;1CARIK PAMUNGKAH;2SIKI;2PAREREN;1PAMENENG;1MUSICAL SYMBOL DONG;3DENG;3DUNG;3DANG",
    ";4SURANG;3DING;3DAENG;3DEUNG;3DAING;3DANG GEDE;3COMBINING TEGEH;4ENDEP;4KEMPUL;4KEMPLI",
    ";4JEGOGAN;4KEMPUL WITH JEGOGAN;4KEMPLI WITH JEGOGAN;4BENDE;4GONG;3RIGHT-HAND OPEN DUG;5DAG",
    ";4CLOSED TUK;5TAK;3LEFT-HAND OPEN PANG;5PUNG;4CLOSED PLAK;5PLUK;4OPEN PING;1PANTI LANTANG",
    ";1PAMADA LANTANG;@1B80;0SUNDANESE SIGN PANYECEK;2PANGLAYAR;2PANGWISAD;1LETTER A;2I;2U;2AE;2O",
    ";2E;2EU;2KA;2QA;2GA;2NGA;2CA;2JA;2ZA;2NYA;2TA;2DA;2NA;2PA;2FA;2VA;2BA;2MA;2YA;2RA;2LA;2WA",
    ";2SA;2XA;2HA;1CONSONANT SIGN PAMINGKAL;3PANYAKRA;3PANYIKU;1VOWEL SIGN PANGHULU;3PANYUKU",
    ";3PANAELAENG;3PANOLONG;3PAMEPET;3PANEULEUNG;1SIGN PAMAAEH;2VIRAMA",
    ";1CONSONANT SIGN PASANGAN MA;4WA;1LETTER KHA;2SYA;1DIGIT ZERO;2ONE;2TWO;2THREE;2FOUR;2FIVE",
    ";2SIX;2SEVEN;2EIGHT;2NINE;1AVAGRAHA;1LETTER REU;2LEU;2BHA;2FINAL K;3M;0BATAK LETTER A",
    ";2SIMALUNGUN A;2HA;2SIMALUNGUN HA;2MANDAILING HA;2BA;2KARO BA;2PA;2SIMALUNGUN PA;2NA",
    ";2MANDAILING NA;2WA;2SIMALUNGUN WA;2PAKPAK WA;2GA;2SIMALUNGUN GA;2JA;2DA;2RA;2SIMALUNGUN RA",
    ";2MA;2SIMALUNGUN MA;2SOUTHERN TA;2NORTHERN TA;2SA;2SIMALUNGUN SA;2MANDAILING SA;2YA",
    ";2SIMALUNGUN YA;2NGA;2LA;2SIMALUNGUN LA;2NYA;2CA;2NDA;2MBA;2I;2U;1SIGN TOMPI;1VOWEL SIGN E",
    ";3PAKPAK E;3EE;3I;3KARO I;3O;3KARO O;3U;4FOR SIMALUNGUN SA;1CONSONANT SIGN NG;3H;1PANGOLAT",
    ";1PANONGONAN;@1BFC;1SYMBOL BINDU NA METEK;3PINARBORAS;3JUDUL;3PANGOLAT;0LEPCHA LETTER KA",
    ";2KLA;2KHA;2GA;2GLA;2NGA;2CA;2CHA;2JA;2NYA;2TA;2THA;2DA;2NA;2PA;2PLA;2PHA;2FA;2FLA;2BA;2BLA",
    ";2MA;2MLA;2TSA;2TSHA;2DZA;2YA;2RA;2LA;2HA;2HLA;2VA;2SA;2SHA;2WA;2A;1SUBJOINED LETTER YA;3RA",
    ";1VOWEL SIGN AA;3I;3O;3OO;3U;3UU;3E;1CONSONANT SIGN K;3M;3L;3N;3P;3R;3T;3NYIN-DO;3KANG",
    ";1SIGN RAN;2NUKTA;@1C3B;1PUNCTUATION TA-ROL;2NYET THYOOM TA-ROL;2CER-WA;2TSHOOK CER-WA",
    ";2TSHOOK;1DIGIT ZERO;2ONE;2TWO;2THREE;2FOUR;2FIVE;2SIX;2SEVEN;2EIGHT;2NINE;@1C4D;1LETTER TTA",
    ";2TTHA;2DDA;0OL CHIKI DIGIT ZERO;3ONE;3TWO;3THREE;3FOUR;3FIVE;3SIX;3SEVEN;3EIGHT;3NINE",
    ";2LETTER LA;3AT;3AG;3ANG;3AL;3LAA;3AAK;3AAJ;3AAM;3AAW;3LI;3IS;3IH;3INY;3IR;3LU;3UC;3UD;3UNN",
    ";3UY;3LE;3EP;3EDD;3EN;3ERR;3LO;3OTT;3OB;3OV;3OH;2MU TTUDDAG;2GAAHLAA TTUDDAAG",
    ";2MU-GAAHLAA TTUDDAAG;2RELAA;2PHAARKAA;2AHAD;2PUNCTUATION MUCAAD;3DOUBLE MUCAAD",
    ";0CYRILLIC SMALL LETTER ROUNDED VE;3LONG-LEGGED DE;3NARROW O;3WIDE ES;3TALL TE",
    ";3THREE-LEGGED TE;3TALL HARD SIGN;4YAT;3UNBLENDED UK;@1C90",
    ";0GEORGIAN MTAVRULI CAPITAL LETTER AN;4BAN;4GAN;4DON;4EN;4VIN;4ZEN;4TAN;4IN;4KAN;4LAS;4MAN",
    ";4NAR;4ON;4PAR;4ZHAR;4RAE;4SAN;4TAR;4UN;4PHAR;4KHAR;4GHAN;4QAR;4SHIN;4CHIN;4CAN;4JIL;4CIL",
    ";4CHAR;4XAN;4JHAN;4HAE;4HE;4HIE;4WE;4HAR;4HOE;4FI;4YN;4ELIFI;4TURNED GAN;4AIN;@1CBD;4AEN",
    ";4HARD SIGN;4LABIAL SIGN;0SUNDANESE PUNCTUATION BINDU SURYA;3PANGLONG;3PURNAMA;3CAKRA",
    ";3LEU SATANGA;3KA SATANGA;3DA SATANGA;3BA SATANGA;@1CD0;0VEDIC TONE KARSHANA;2SHARA;2PRENKHA",
    ";1SIGN NIHSHVASA;2YAJURVEDIC MIDLINE SVARITA;1TONE YAJURVEDIC AGGRAVATED INDEPENDENT SVARITA",
    ";3INDEPENDENT SVARITA;3KATHAKA INDEPENDENT SVARITA;2CANDRA BELOW",
    ";2YAJURVEDIC KATHAKA INDEPENDENT SVARITA SCHROEDER;2DOUBLE SVARITA;2TRIPLE SVARITA",
    ";2KATHAKA ANUDATTA;2DOT BELOW;2TWO DOTS BELOW;2THREE DOTS BELOW",
    ";2RIGVEDIC KASHMIRI INDEPENDENT SVARITA;2ATHARVAVEDIC INDEPENDENT SVARITA",
    ";1SIGN VISARGA SVARITA;3UDATTA;2REVERSED VISARGA UDATTA;2VISARGA ANUDATTA",
    ";2REVERSED VISARGA ANUDATTA;2VISARGA UDATTA WITH TAIL;3ANUDATTA WITH TAIL",
    ";2ANUSVARA ANTARGOMUKHA;3BAHIRGOMUKHA;3VAMAGOMUKHA;4WITH TAIL;2TIRYAK",
    ";2HEXIFORM LONG ANUSVARA;2LONG ANUSVARA;2RTHANG LONG ANUSVARA;2ANUSVARA UBHAYATO MUKHA",
    ";2ARDHAVISARGA;2ROTATED ARDHAVISARGA;1TONE CANDRA ABOVE;1SIGN JIHVAMULIYA;2UPADHMANIYA",
    ";2ATIKRAMA;1TONE RING ABOVE;2DOUBLE RING ABOVE;1SIGN DOUBLE ANUSVARA ANTARGOMUKHA"],
   [";@1D00;0LATIN LETTER SMALL CAPITAL A;4AE;1SMALL LETTER TURNED AE",
    ";1LETTER SMALL CAPITAL BARRED B;4C;4D;4ETH;4E;1SMALL LETTER TURNED OPEN E;4I",
    ";1LETTER SMALL CAPITAL J;4K;4L WITH STROKE;4M;4REVERSED N;4O;4OPEN O",
    ";1SMALL LETTER SIDEWAYS O;4OPEN O;4O WITH STROKE;3TURNED OE;1LETTER SMALL CAPITAL OU",
    ";1SMALL LETTER TOP HALF O;3BOTTOM HALF O;1LETTER SMALL CAPITAL P;4REVERSED R;4TURNED R;4T;4U",
    ";1SMALL LETTER SIDEWAYS U;4DIAERESIZED U;4TURNED M;1LETTER SMALL CAPITAL V;4W;4Z;4EZH",
    ";2VOICED LARYNGEAL SPIRANT;2AIN;0GREEK LETTER SMALL CAPITAL GAMMA;4LAMDA;4PI;4RHO;4PSI",
    ";0CYRILLIC LETTER SMALL CAPITAL EL;0MODIFIER LETTER CAPITAL A;3AE;3B;3BARRED B;3D;3E",
    ";3REVERSED E;3G;3H;3I;3J;3K;3L;3M;3N;3REVERSED N;3O;3OU;3P;3R;3T;3U;3W;2SMALL A;3TURNED A",
    ";3ALPHA;3TURNED AE;3B;3D;3E;3SCHWA;3OPEN E;3TURNED OPEN E;3G;3TURNED I;3K;3M;3ENG;3O;3OPEN O",
    ";3TOP HALF O;3BOTTOM HALF O;3P;3T;3U;3SIDEWAYS U;3TURNED M;3V;3AIN;3BETA;3GREEK GAMMA;3DELTA",
    ";3GREEK PHI;3CHI;0LATIN SUBSCRIPT SMALL LETTER I;4R;4U;4V;0GREEK SUBSCRIPT SMALL LETTER BETA",
    ";4GAMMA;4RHO;4PHI;4CHI;0LATIN SMALL LETTER UE;3B WITH MIDDLE TILDE;3D WITH MIDDLE TILDE",
    ";3F WITH MIDDLE TILDE;3M WITH MIDDLE TILDE;3N WITH MIDDLE TILDE;3P WITH MIDDLE TILDE",
    ";3R WITH MIDDLE TILDE;5FISHHOOK AND MIDDLE TILDE;3S WITH MIDDLE TILDE;3T WITH MIDDLE TILDE",
    ";3Z WITH MIDDLE TILDE;3TURNED G;0MODIFIER LETTER CYRILLIC EN;0LATIN SMALL LETTER INSULAR G",
    ";3TH WITH STRIKETHROUGH;2CAPITAL LETTER I WITH STROKE;2LETTER IOTA WITH STROKE",
    ";3P WITH STROKE;2CAPITAL LETTER U WITH STROKE;2LETTER UPSILON WITH STROKE",
    ";3B WITH PALATAL HOOK;3D WITH PALATAL HOOK;3F WITH PALATAL HOOK;3G WITH PALATAL HOOK",
    ";3K WITH PALATAL HOOK;3L WITH PALATAL HOOK;3M WITH PALATAL HOOK;3N WITH PALATAL HOOK",
    ";3P WITH PALATAL HOOK;3R WITH PALATAL HOOK;3S WITH PALATAL HOOK;3ESH WITH PALATAL HOOK",
    ";3V WITH PALATAL HOOK;3X WITH PALATAL HOOK;3Z WITH PALATAL HOOK;3A WITH RETROFLEX HOOK",
    ";3ALPHA WITH RETROFLEX HOOK;3D WITH HOOK AND TAIL;3E WITH RETROFLEX HOOK",
    ";3OPEN E WITH RETROFLEX HOOK;3REVERSED OPEN E WITH RETROFLEX HOOK;3SCHWA WITH RETROFLEX HOOK",
    ";3I WITH RETROFLEX HOOK;3OPEN O WITH RETROFLEX HOOK;3ESH WITH RETROFLEX HOOK",
    ";3U WITH RETROFLEX HOOK;3EZH WITH RETROFLEX HOOK;0MODIFIER LETTER SMALL TURNED ALPHA;3C",
    ";4WITH CURL;3ETH;3REVERSED OPEN E;3F;3DOTLESS J WITH STROKE;3SCRIPT G;3TURNED H",
    ";3I WITH STROKE;3IOTA;3CAPITAL I;5WITH STROKE;3J WITH CROSSED-TAIL;3L WITH RETROFLEX HOOK",
    ";5PALATAL HOOK;3CAPITAL L;3M WITH HOOK;3TURNED M WITH LONG LEG;3N WITH LEFT HOOK",
    ";5RETROFLEX HOOK;3CAPITAL N;3BARRED O;3PHI;3S WITH HOOK;3ESH;3T WITH PALATAL HOOK;3U BAR",
    ";3UPSILON;3CAPITAL U;3V WITH HOOK;3TURNED V;3Z;4WITH RETROFLEX HOOK;5CURL;3EZH;3THETA",
    ";0COMBINING DOTTED GRAVE ACCENT;2ACUTE ACCENT;1SNAKE BELOW;1SUSPENSION MARK;1MACRON-ACUTE",
    ";1GRAVE-MACRON;1MACRON-GRAVE;1ACUTE-MACRON;1GRAVE-ACUTE-GRAVE;1ACUTE-GRAVE-ACUTE",
    ";1LATIN SMALL LETTER R BELOW;1BREVE-MACRON;1MACRON-BREVE;1DOUBLE CIRCUMFLEX ABOVE",
    ";1OGONEK ABOVE;1ZIGZAG BELOW;1IS BELOW;1UR ABOVE;1US ABOVE",
    ";1LATIN SMALL LETTER FLATTENED OPEN A ABOVE;4AE;4AO;4AV;4C CEDILLA;4INSULAR D;4ETH;4G",
    ";2LETTER SMALL CAPITAL G;2SMALL LETTER K;4L;2LETTER SMALL CAPITAL L;5M;2SMALL LETTER N",
    ";2LETTER SMALL CAPITAL N;5R;2SMALL LETTER R ROTUNDA;4S;4LONG S;4Z;4ALPHA;4B;4BETA;4SCHWA;4F",
    ";4L WITH DOUBLE MIDDLE TILDE;4O WITH LIGHT CENTRALIZATION STROKE;4P;4ESH",
    ";4U WITH LIGHT CENTRALIZATION STROKE;4W;4A WITH DIAERESIS;4O WITH DIAERESIS",
    ";4U WITH DIAERESIS;1UP TACK ABOVE;1KAVYKA ABOVE RIGHT;3LEFT;1DOT ABOVE LEFT",
    ";1WIDE INVERTED BRIDGE BELOW;1DOT BELOW LEFT;1DELETION MARK;1DOUBLE INVERTED BREVE BELOW",
    ";1ALMOST EQUAL TO BELOW;1LEFT ARROWHEAD ABOVE;1RIGHT ARROWHEAD AND DOWN ARROWHEAD BELOW",
    ";0LATIN CAPITAL LETTER A WITH RING BELOW;1SMALL LETTER A WITH RING BELOW",
    ";1CAPITAL LETTER B WITH DOT ABOVE;1SMALL LETTER B WITH DOT ABOVE",
    ";1CAPITAL LETTER B WITH DOT BELOW;1SMALL LETTER B WITH DOT BELOW",
    ";1CAPITAL LETTER B WITH LINE BELOW;1SMALL LETTER B WITH LINE BELOW",
    ";1CAPITAL LETTER C WITH CEDILLA AND ACUTE;1SMALL LETTER C WITH CEDILLA AND ACUTE",
    ";1CAPITAL LETTER D WITH DOT ABOVE;1SMALL LETTER D WITH DOT ABOVE",
    ";1CAPITAL LETTER D WITH DOT BELOW;1SMALL LETTER D WITH DOT BELOW",
    ";1CAPITAL LETTER D WITH LINE BELOW;1SMALL LETTER D WITH LINE BELOW",
    ";1CAPITAL LETTER D WITH CEDILLA;1SMALL LETTER D WITH CEDILLA",
    ";1CAPITAL LETTER D WITH CIRCUMFLEX BELOW;1SMALL LETTER D WITH CIRCUMFLEX BELOW",
    ";1CAPITAL LETTER E WITH MACRON AND GRAVE;1SMALL LETTER E WITH MACRON AND GRAVE",
    ";1CAPITAL LETTER E WITH MACRON AND ACUTE;1SMALL LETTER E WITH MACRON AND ACUTE",
    ";1CAPITAL LETTER E WITH CIRCUMFLEX BELOW;1SMALL LETTER E WITH CIRCUMFLEX BELOW",
    ";1CAPITAL LETTER E WITH TILDE BELOW;1SMALL LETTER E WITH TILDE BELOW",
    ";1CAPITAL LETTER E WITH CEDILLA AND BREVE;1SMALL LETTER E WITH CEDILLA AND BREVE",
    ";1CAPITAL LETTER F WITH DOT ABOVE;1SMALL LETTER F WITH DOT ABOVE",
    ";1CAPITAL LETTER G WITH MACRON;1SMALL LETTER G WITH MACRON;1CAPITAL LETTER H WITH DOT ABOVE",
    ";1SMALL LETTER H WITH DOT ABOVE"],
   [";1CAPITAL LETTER H WITH DOT BELOW;1SMALL LETTER H WITH DOT BELOW",
    ";1CAPITAL LETTER H WITH DIAERESIS;1SMALL LETTER H WITH DIAERESIS",
    ";1CAPITAL LETTER H WITH CEDILLA;1SMALL LETTER H WITH CEDILLA",
    ";1CAPITAL LETTER H WITH BREVE BELOW;1SMALL LETTER H WITH BREVE BELOW",
    ";1CAPITAL LETTER I WITH TILDE BELOW;1SMALL LETTER I WITH TILDE BELOW",
    ";1CAPITAL LETTER I WITH DIAERESIS AND ACUTE;1SMALL LETTER I WITH DIAERESIS AND ACUTE",
    ";1CAPITAL LETTER K WITH ACUTE;1SMALL LETTER K WITH ACUTE;1CAPITAL LETTER K WITH DOT BELOW",
    ";1SMALL LETTER K WITH DOT BELOW;1CAPITAL LETTER K WITH LINE BELOW",
    ";1SMALL LETTER K WITH LINE BELOW;1CAPITAL LETTER L WITH DOT BELOW",
    ";1SMALL LETTER L WITH DOT BELOW;1CAPITAL LETTER L WITH DOT BELOW AND MACRON",
    ";1SMALL LETTER L WITH DOT BELOW AND MACRON;1CAPITAL LETTER L WITH LINE BELOW",
    ";1SMALL LETTER L WITH LINE BELOW;1CAPITAL LETTER L WITH CIRCUMFLEX BELOW",
    ";1SMALL LETTER L WITH CIRCUMFLEX BELOW;1CAPITAL LETTER M WITH ACUTE",
    ";1SMALL LETTER M WITH ACUTE;1CAPITAL LETTER M WITH DOT ABOVE;1SMALL LETTER M WITH DOT ABOVE",
    ";1CAPITAL LETTER M WITH DOT BELOW;1SMALL LETTER M WITH DOT BELOW",
    ";1CAPITAL LETTER N WITH DOT ABOVE;1SMALL LETTER N WITH DOT ABOVE",
    ";1CAPITAL LETTER N WITH DOT BELOW;1SMALL LETTER N WITH DOT BELOW",
    ";1CAPITAL LETTER N WITH LINE BELOW;1SMALL LETTER N WITH LINE BELOW",
    ";1CAPITAL LETTER N WITH CIRCUMFLEX BELOW;1SMALL LETTER N WITH CIRCUMFLEX BELOW",
    ";1CAPITAL LETTER O WITH TILDE AND ACUTE;1SMALL LETTER O WITH TILDE AND ACUTE",
    ";1CAPITAL LETTER O WITH TILDE AND DIAERESIS;1SMALL LETTER O WITH TILDE AND DIAERESIS",
    ";1CAPITAL LETTER O WITH MACRON AND GRAVE;1SMALL LETTER O WITH MACRON AND GRAVE",
    ";1CAPITAL LETTER O WITH MACRON AND ACUTE;1SMALL LETTER O WITH MACRON AND ACUTE",
    ";1CAPITAL LETTER P WITH ACUTE;1SMALL LETTER P WITH ACUTE;1CAPITAL LETTER P WITH DOT ABOVE",
    ";1SMALL LETTER P WITH DOT ABOVE;1CAPITAL LETTER R WITH DOT ABOVE",
    ";1SMALL LETTER R WITH DOT ABOVE;1CAPITAL LETTER R WITH DOT BELOW",
    ";1SMALL LETTER R WITH DOT BELOW;1CAPITAL LETTER R WITH DOT BELOW AND MACRON",
    ";1SMALL LETTER R WITH DOT BELOW AND MACRON;1CAPITAL LETTER R WITH LINE BELOW",
    ";1SMALL LETTER R WITH LINE BELOW;1CAPITAL LETTER S WITH DOT ABOVE",
    ";1SMALL LETTER S WITH DOT ABOVE;1CAPITAL LETTER S WITH DOT BELOW",
    ";1SMALL LETTER S WITH DOT BELOW;1CAPITAL LETTER S WITH ACUTE AND DOT ABOVE",
    ";1SMALL LETTER S WITH ACUTE AND DOT ABOVE;1CAPITAL LETTER S WITH CARON AND DOT ABOVE",
    ";1SMALL LETTER S WITH CARON AND DOT ABOVE;1CAPITAL LETTER S WITH DOT BELOW AND DOT ABOVE",
    ";1SMALL LETTER S WITH DOT BELOW AND DOT ABOVE;1CAPITAL LETTER T WITH DOT ABOVE",
    ";1SMALL LETTER T WITH DOT ABOVE;1CAPITAL LETTER T WITH DOT BELOW",
    ";1SMALL LETTER T WITH DOT BELOW;1CAPITAL LETTER T WITH LINE BELOW",
    ";1SMALL LETTER T WITH LINE BELOW;1CAPITAL LETTER T WITH CIRCUMFLEX BELOW",
    ";1SMALL LETTER T WITH CIRCUMFLEX BELOW;1CAPITAL LETTER U WITH DIAERESIS BELOW",
    ";1SMALL LETTER U WITH DIAERESIS BELOW;1CAPITAL LETTER U WITH TILDE BELOW",
    ";1SMALL LETTER U WITH TILDE BELOW;1CAPITAL LETTER U WITH CIRCUMFLEX BELOW",
    ";1SMALL LETTER U WITH CIRCUMFLEX BELOW;1CAPITAL LETTER U WITH TILDE AND ACUTE",
    ";1SMALL LETTER U WITH TILDE AND ACUTE;1CAPITAL LETTER U WITH MACRON AND DIAERESIS",
    ";1SMALL LETTER U WITH MACRON AND DIAERESIS;1CAPITAL LETTER V WITH TILDE",
    ";1SMALL LETTER V WITH TILDE;1CAPITAL LETTER V WITH DOT BELOW;1SMALL LETTER V WITH DOT BELOW",
    ";1CAPITAL LETTER W WITH GRAVE;1SMALL LETTER W WITH GRAVE;1CAPITAL LETTER W WITH ACUTE",
    ";1SMALL LETTER W WITH ACUTE;1CAPITAL LETTER W WITH DIAERESIS;1SMALL LETTER W WITH DIAERESIS",
    ";1CAPITAL LETTER W WITH DOT ABOVE;1SMALL LETTER W WITH DOT ABOVE",
    ";1CAPITAL LETTER W WITH DOT BELOW;1SMALL LETTER W WITH DOT BELOW",
    ";1CAPITAL LETTER X WITH DOT ABOVE;1SMALL LETTER X WITH DOT ABOVE",
    ";1CAPITAL LETTER X WITH DIAERESIS;1SMALL LETTER X WITH DIAERESIS",
    ";1CAPITAL LETTER Y WITH DOT ABOVE;1SMALL LETTER Y WITH DOT ABOVE",
    ";1CAPITAL LETTER Z WITH CIRCUMFLEX;1SMALL LETTER Z WITH CIRCUMFLEX",
    ";1CAPITAL LETTER Z WITH DOT BELOW;1SMALL LETTER Z WITH DOT BELOW",
    ";1CAPITAL LETTER Z WITH LINE BELOW;1SMALL LETTER Z WITH LINE BELOW;3H WITH LINE BELOW",
    ";3T WITH DIAERESIS;3W WITH RING ABOVE;3Y WITH RING ABOVE;3A WITH RIGHT HALF RING",
    ";3LONG S WITH DOT ABOVE;6DIAGONAL STROKE;6HIGH STROKE;1CAPITAL LETTER SHARP S",
    ";1SMALL LETTER DELTA;1CAPITAL LETTER A WITH DOT BELOW;1SMALL LETTER A WITH DOT BELOW",
    ";1CAPITAL LETTER A WITH HOOK ABOVE;1SMALL LETTER A WITH HOOK ABOVE",
    ";1CAPITAL LETTER A WITH CIRCUMFLEX AND ACUTE;1SMALL LETTER A WITH CIRCUMFLEX AND ACUTE",
    ";1CAPITAL LETTER A WITH CIRCUMFLEX AND GRAVE;1SMALL LETTER A WITH CIRCUMFLEX AND GRAVE",
    ";1CAPITAL LETTER A WITH CIRCUMFLEX AND HOOK ABOVE"],
   [";1SMALL LETTER A WITH CIRCUMFLEX AND HOOK ABOVE;1CAPITAL LETTER A WITH CIRCUMFLEX AND TILDE",
    ";1SMALL LETTER A WITH CIRCUMFLEX AND TILDE;1CAPITAL LETTER A WITH CIRCUMFLEX AND DOT BELOW",
    ";1SMALL LETTER A WITH CIRCUMFLEX AND DOT BELOW;1CAPITAL LETTER A WITH BREVE AND ACUTE",
    ";1SMALL LETTER A WITH BREVE AND ACUTE;1CAPITAL LETTER A WITH BREVE AND GRAVE",
    ";1SMALL LETTER A WITH BREVE AND GRAVE;1CAPITAL LETTER A WITH BREVE AND HOOK ABOVE",
    ";1SMALL LETTER A WITH BREVE AND HOOK ABOVE;1CAPITAL LETTER A WITH BREVE AND TILDE",
    ";1SMALL LETTER A WITH BREVE AND TILDE;1CAPITAL LETTER A WITH BREVE AND DOT BELOW",
    ";1SMALL LETTER A WITH BREVE AND DOT BELOW;1CAPITAL LETTER E WITH DOT BELOW",
    ";1SMALL LETTER E WITH DOT BELOW;1CAPITAL LETTER E WITH HOOK ABOVE",
    ";1SMALL LETTER E WITH HOOK ABOVE;1CAPITAL LETTER E WITH TILDE;1SMALL LETTER E WITH TILDE",
    ";1CAPITAL LETTER E WITH CIRCUMFLEX AND ACUTE;1SMALL LETTER E WITH CIRCUMFLEX AND ACUTE",
    ";1CAPITAL LETTER E WITH CIRCUMFLEX AND GRAVE;1SMALL LETTER E WITH CIRCUMFLEX AND GRAVE",
    ";1CAPITAL LETTER E WITH CIRCUMFLEX AND HOOK ABOVE",
    ";1SMALL LETTER E WITH CIRCUMFLEX AND HOOK ABOVE;1CAPITAL LETTER E WITH CIRCUMFLEX AND TILDE",
    ";1SMALL LETTER E WITH CIRCUMFLEX AND TILDE;1CAPITAL LETTER E WITH CIRCUMFLEX AND DOT BELOW",
    ";1SMALL LETTER E WITH CIRCUMFLEX AND DOT BELOW;1CAPITAL LETTER I WITH HOOK ABOVE",
    ";1SMALL LETTER I WITH HOOK ABOVE;1CAPITAL LETTER I WITH DOT BELOW",
    ";1SMALL LETTER I WITH DOT BELOW;1CAPITAL LETTER O WITH DOT BELOW",
    ";1SMALL LETTER O WITH DOT BELOW;1CAPITAL LETTER O WITH HOOK ABOVE",
    ";1SMALL LETTER O WITH HOOK ABOVE;1CAPITAL LETTER O WITH CIRCUMFLEX AND ACUTE",
    ";1SMALL LETTER O WITH CIRCUMFLEX AND ACUTE;1CAPITAL LETTER O WITH CIRCUMFLEX AND GRAVE",
    ";1SMALL LETTER O WITH CIRCUMFLEX AND GRAVE;1CAPITAL LETTER O WITH CIRCUMFLEX AND HOOK ABOVE",
    ";1SMALL LETTER O WITH CIRCUMFLEX AND HOOK ABOVE;1CAPITAL LETTER O WITH CIRCUMFLEX AND TILDE",
    ";1SMALL LETTER O WITH CIRCUMFLEX AND TILDE;1CAPITAL LETTER O WITH CIRCUMFLEX AND DOT BELOW",
    ";1SMALL LETTER O WITH CIRCUMFLEX AND DOT BELOW;1CAPITAL LETTER O WITH HORN AND ACUTE",
    ";1SMALL LETTER O WITH HORN AND ACUTE;1CAPITAL LETTER O WITH HORN AND GRAVE",
    ";1SMALL LETTER O WITH HORN AND GRAVE;1CAPITAL LETTER O WITH HORN AND HOOK ABOVE",
    ";1SMALL LETTER O WITH HORN AND HOOK ABOVE;1CAPITAL LETTER O WITH HORN AND TILDE",
    ";1SMALL LETTER O WITH HORN AND TILDE;1CAPITAL LETTER O WITH HORN AND DOT BELOW",
    ";1SMALL LETTER O WITH HORN AND DOT BELOW;1CAPITAL LETTER U WITH DOT BELOW",
    ";1SMALL LETTER U WITH DOT BELOW;1CAPITAL LETTER U WITH HOOK ABOVE",
    ";1SMALL LETTER U WITH HOOK ABOVE;1CAPITAL LETTER U WITH HORN AND ACUTE",
    ";1SMALL LETTER U WITH HORN AND ACUTE;1CAPITAL LETTER U WITH HORN AND GRAVE",
    ";1SMALL LETTER U WITH HORN AND GRAVE;1CAPITAL LETTER U WITH HORN AND HOOK ABOVE",
    ";1SMALL LETTER U WITH HORN AND HOOK ABOVE;1CAPITAL LETTER U WITH HORN AND TILDE",
    ";1SMALL LETTER U WITH HORN AND TILDE;1CAPITAL LETTER U WITH HORN AND DOT BELOW",
    ";1SMALL LETTER U WITH HORN AND DOT BELOW;1CAPITAL LETTER Y WITH GRAVE",
    ";1SMALL LETTER Y WITH GRAVE;1CAPITAL LETTER Y WITH DOT BELOW;1SMALL LETTER Y WITH DOT BELOW",
    ";1CAPITAL LETTER Y WITH HOOK ABOVE;1SMALL LETTER Y WITH HOOK ABOVE",
    ";1CAPITAL LETTER Y WITH TILDE;1SMALL LETTER Y WITH TILDE;1CAPITAL LETTER MIDDLE-WELSH LL",
    ";1SMALL LETTER MIDDLE-WELSH LL;1CAPITAL LETTER MIDDLE-WELSH V;1SMALL LETTER MIDDLE-WELSH V",
    ";1CAPITAL LETTER Y WITH LOOP;1SMALL LETTER Y WITH LOOP;0GREEK SMALL LETTER ALPHA WITH PSILI",
    ";5DASIA;5PSILI AND VARIA;5DASIA AND VARIA;5PSILI AND OXIA;5DASIA AND OXIA",
    ";5PSILI AND PERISPOMENI;5DASIA AND PERISPOMENI;1CAPITAL LETTER ALPHA WITH PSILI;5DASIA",
    ";5PSILI AND VARIA;5DASIA AND VARIA;5PSILI AND OXIA;5DASIA AND OXIA;5PSILI AND PERISPOMENI",
    ";5DASIA AND PERISPOMENI;1SMALL LETTER EPSILON WITH PSILI;5DASIA;5PSILI AND VARIA",
    ";5DASIA AND VARIA;5PSILI AND OXIA;5DASIA AND OXIA"],
   [";@1F18;1CAPITAL LETTER EPSILON WITH PSILI;5DASIA;5PSILI AND VARIA;5DASIA AND VARIA",
    ";5PSILI AND OXIA;5DASIA AND OXIA;@1F20;1SMALL LETTER ETA WITH PSILI;5DASIA;5PSILI AND VARIA",
    ";5DASIA AND VARIA;5PSILI AND OXIA;5DASIA AND OXIA;5PSILI AND PERISPOMENI",
    ";5DASIA AND PERISPOMENI;1CAPITAL LETTER ETA WITH PSILI;5DASIA;5PSILI AND VARIA",
    ";5DASIA AND VARIA;5PSILI AND OXIA;5DASIA AND OXIA;5PSILI AND PERISPOMENI",
    ";5DASIA AND PERISPOMENI;1SMALL LETTER IOTA WITH PSILI;5DASIA;5PSILI AND VARIA",
    ";5DASIA AND VARIA;5PSILI AND OXIA;5DASIA AND OXIA;5PSILI AND PERISPOMENI",
    ";5DASIA AND PERISPOMENI;1CAPITAL LETTER IOTA WITH PSILI;5DASIA;5PSILI AND VARIA",
    ";5DASIA AND VARIA;5PSILI AND OXIA;5DASIA AND OXIA;5PSILI AND PERISPOMENI",
    ";5DASIA AND PERISPOMENI;1SMALL LETTER OMICRON WITH PSILI;5DASIA;5PSILI AND VARIA",
    ";5DASIA AND VARIA;5PSILI AND OXIA;5DASIA AND OXIA;@1F48;1CAPITAL LETTER OMICRON WITH PSILI",
    ";5DASIA;5PSILI AND VARIA;5DASIA AND VARIA;5PSILI AND OXIA;5DASIA AND OXIA;@1F50",
    ";1SMALL LETTER UPSILON WITH PSILI;5DASIA;5PSILI AND VARIA;5DASIA AND VARIA;5PSILI AND OXIA",
    ";5DASIA AND OXIA;5PSILI AND PERISPOMENI;5DASIA AND PERISPOMENI;@1F59",
    ";1CAPITAL LETTER UPSILON WITH DASIA;@1F5B;6AND VARIA;@1F5D;7OXIA;@1F5F;7PERISPOMENI",
    ";1SMALL LETTER OMEGA WITH PSILI;5DASIA;5PSILI AND VARIA;5DASIA AND VARIA;5PSILI AND OXIA",
    ";5DASIA AND OXIA;5PSILI AND PERISPOMENI;5DASIA AND PERISPOMENI",
    ";1CAPITAL LETTER OMEGA WITH PSILI;5DASIA;5PSILI AND VARIA;5DASIA AND VARIA;5PSILI AND OXIA",
    ";5DASIA AND OXIA;5PSILI AND PERISPOMENI;5DASIA AND PERISPOMENI",
    ";1SMALL LETTER ALPHA WITH VARIA;5OXIA;3EPSILON WITH VARIA;5OXIA;3ETA WITH VARIA;5OXIA",
    ";3IOTA WITH VARIA;5OXIA;3OMICRON WITH VARIA;5OXIA;3UPSILON WITH VARIA;5OXIA",
    ";3OMEGA WITH VARIA;5OXIA;@1F80;3ALPHA WITH PSILI AND YPOGEGRAMMENI;5DASIA AND YPOGEGRAMMENI",
    ";5PSILI AND VARIA AND YPOGEGRAMMENI;5DASIA AND VARIA AND YPOGEGRAMMENI",
    ";5PSILI AND OXIA AND YPOGEGRAMMENI;5DASIA AND OXIA AND YPOGEGRAMMENI",
    ";5PSILI AND PERISPOMENI AND YPOGEGRAMMENI;5DASIA AND PERISPOMENI AND YPOGEGRAMMENI",
    ";1CAPITAL LETTER ALPHA WITH PSILI AND PROSGEGRAMMENI;5DASIA AND PROSGEGRAMMENI",
    ";5PSILI AND VARIA AND PROSGEGRAMMENI;5DASIA AND VARIA AND PROSGEGRAMMENI",
    ";5PSILI AND OXIA AND PROSGEGRAMMENI;5DASIA AND OXIA AND PROSGEGRAMMENI",
    ";5PSILI AND PERISPOMENI AND PROSGEGRAMMENI;5DASIA AND PERISPOMENI AND PROSGEGRAMMENI",
    ";1SMALL LETTER ETA WITH PSILI AND YPOGEGRAMMENI;5DASIA AND YPOGEGRAMMENI",
    ";5PSILI AND VARIA AND YPOGEGRAMMENI;5DASIA AND VARIA AND YPOGEGRAMMENI",
    ";5PSILI AND OXIA AND YPOGEGRAMMENI;5DASIA AND OXIA AND YPOGEGRAMMENI",
    ";5PSILI AND PERISPOMENI AND YPOGEGRAMMENI;5DASIA AND PERISPOMENI AND YPOGEGRAMMENI",
    ";1CAPITAL LETTER ETA WITH PSILI AND PROSGEGRAMMENI;5DASIA AND PROSGEGRAMMENI",
    ";5PSILI AND VARIA AND PROSGEGRAMMENI;5DASIA AND VARIA AND PROSGEGRAMMENI",
    ";5PSILI AND OXIA AND PROSGEGRAMMENI;5DASIA AND OXIA AND PROSGEGRAMMENI",
    ";5PSILI AND PERISPOMENI AND PROSGEGRAMMENI;5DASIA AND PERISPOMENI AND PROSGEGRAMMENI",
    ";1SMALL LETTER OMEGA WITH PSILI AND YPOGEGRAMMENI;5DASIA AND YPOGEGRAMMENI",
    ";5PSILI AND VARIA AND YPOGEGRAMMENI;5DASIA AND VARIA AND YPOGEGRAMMENI",
    ";5PSILI AND OXIA AND YPOGEGRAMMENI;5DASIA AND OXIA AND YPOGEGRAMMENI",
    ";5PSILI AND PERISPOMENI AND YPOGEGRAMMENI;5DASIA AND PERISPOMENI AND YPOGEGRAMMENI",
    ";1CAPITAL LETTER OMEGA WITH PSILI AND PROSGEGRAMMENI;5DASIA AND PROSGEGRAMMENI",
    ";5PSILI AND VARIA AND PROSGEGRAMMENI;5DASIA AND VARIA AND PROSGEGRAMMENI",
    ";5PSILI AND OXIA AND PROSGEGRAMMENI;5DASIA AND OXIA AND PROSGEGRAMMENI",
    ";5PSILI AND PERISPOMENI AND PROSGEGRAMMENI;5DASIA AND PERISPOMENI AND PROSGEGRAMMENI",
    ";1SMALL LETTER ALPHA WITH VRACHY;5MACRON;5VARIA AND YPOGEGRAMMENI;5YPOGEGRAMMENI",
    ";5OXIA AND YPOGEGRAMMENI"],
   [";@1FB6;5PERISPOMENI;6AND YPOGEGRAMMENI;1CAPITAL LETTER ALPHA WITH VRACHY;5MACRON;5VARIA",
    ";5OXIA;5PROSGEGRAMMENI;1KORONIS;1PROSGEGRAMMENI;1PSILI;1PERISPOMENI",
    ";1DIALYTIKA AND PERISPOMENI;1SMALL LETTER ETA WITH VARIA AND YPOGEGRAMMENI;5YPOGEGRAMMENI",
    ";5OXIA AND YPOGEGRAMMENI;@1FC6;5PERISPOMENI;6AND YPOGEGRAMMENI",
    ";1CAPITAL LETTER EPSILON WITH VARIA;5OXIA;3ETA WITH VARIA;5OXIA;5PROSGEGRAMMENI",
    ";1PSILI AND VARIA;3OXIA;3PERISPOMENI;1SMALL LETTER IOTA WITH VRACHY;5MACRON",
    ";5DIALYTIKA AND VARIA;7OXIA;@1FD6;5PERISPOMENI;5DIALYTIKA AND PERISPOMENI",
    ";1CAPITAL LETTER IOTA WITH VRACHY;5MACRON;5VARIA;5OXIA;@1FDD;1DASIA AND VARIA;3OXIA",
    ";3PERISPOMENI;1SMALL LETTER UPSILON WITH VRACHY;5MACRON;5DIALYTIKA AND VARIA;7OXIA",
    ";3RHO WITH PSILI;5DASIA;3UPSILON WITH PERISPOMENI;5DIALYTIKA AND PERISPOMENI",
    ";1CAPITAL LETTER UPSILON WITH VRACHY;5MACRON;5VARIA;5OXIA;3RHO WITH DASIA",
    ";1DIALYTIKA AND VARIA;3OXIA;1VARIA;@1FF2;1SMALL LETTER OMEGA WITH VARIA AND YPOGEGRAMMENI",
    ";5YPOGEGRAMMENI;5OXIA AND YPOGEGRAMMENI;@1FF6;5PERISPOMENI;6AND YPOGEGRAMMENI",
    ";1CAPITAL LETTER OMICRON WITH VARIA;5OXIA;3OMEGA WITH VARIA;5OXIA;5PROSGEGRAMMENI;1OXIA",
    ";1DASIA;@2000;0EN QUAD;0EM QUAD;0EN SPACE;0EM SPACE;0THREE-PER-EM SPACE;0FOUR-PER-EM SPACE",
    ";0SIX-PER-EM SPACE;0FIGURE SPACE;0PUNCTUATION SPACE;0THIN SPACE;0HAIR SPACE",
    ";0ZERO WIDTH SPACE;2NON-JOINER;2JOINER;0LEFT-TO-RIGHT MARK;0RIGHT-TO-LEFT MARK;0HYPHEN",
    ";0NON-BREAKING HYPHEN;0FIGURE DASH;0EN DASH;0EM DASH;0HORIZONTAL BAR;0DOUBLE VERTICAL LINE",
    ";1LOW LINE;0LEFT SINGLE QUOTATION MARK;0RIGHT SINGLE QUOTATION MARK",
    ";0SINGLE LOW-9 QUOTATION MARK;1HIGH-REVERSED-9 QUOTATION MARK;0LEFT DOUBLE QUOTATION MARK",
    ";0RIGHT DOUBLE QUOTATION MARK;0DOUBLE LOW-9 QUOTATION MARK;1HIGH-REVERSED-9 QUOTATION MARK",
    ";0DAGGER;0DOUBLE DAGGER;0BULLET;0TRIANGULAR BULLET;0ONE DOT LEADER;0TWO DOT LEADER",
    ";0HORIZONTAL ELLIPSIS;0HYPHENATION POINT;0LINE SEPARATOR;0PARAGRAPH SEPARATOR",
    ";0LEFT-TO-RIGHT EMBEDDING;0RIGHT-TO-LEFT EMBEDDING;0POP DIRECTIONAL FORMATTING",
    ";0LEFT-TO-RIGHT OVERRIDE;0RIGHT-TO-LEFT OVERRIDE;0NARROW NO-BREAK SPACE;0PER MILLE SIGN",
    ";1TEN THOUSAND SIGN;0PRIME;0DOUBLE PRIME;0TRIPLE PRIME;0REVERSED PRIME;1DOUBLE PRIME",
    ";1TRIPLE PRIME;0CARET;0SINGLE LEFT-POINTING ANGLE QUOTATION MARK",
    ";1RIGHT-POINTING ANGLE QUOTATION MARK;0REFERENCE MARK;0DOUBLE EXCLAMATION MARK;0INTERROBANG",
    ";0OVERLINE;0UNDERTIE;0CHARACTER TIE;0CARET INSERTION POINT;0ASTERISM;0HYPHEN BULLET",
    ";0FRACTION SLASH;0LEFT SQUARE BRACKET WITH QUILL;0RIGHT SQUARE BRACKET WITH QUILL",
    ";0DOUBLE QUESTION MARK;0QUESTION EXCLAMATION MARK;0EXCLAMATION QUESTION MARK",
    ";0TIRONIAN SIGN ET;0REVERSED PILCROW SIGN;0BLACK LEFTWARDS BULLET;1RIGHTWARDS BULLET",
    ";0LOW ASTERISK;0REVERSED SEMICOLON;0CLOSE UP;0TWO ASTERISKS ALIGNED VERTICALLY",
    ";0COMMERCIAL MINUS SIGN;0SWUNG DASH;0INVERTED UNDERTIE;0FLOWER PUNCTUATION MARK",
    ";0THREE DOT PUNCTUATION;0QUADRUPLE PRIME;0FOUR DOT PUNCTUATION;0FIVE DOT PUNCTUATION",
    ";0TWO DOT PUNCTUATION;0FOUR DOT MARK;0DOTTED CROSS;0TRICOLON;0VERTICAL FOUR DOTS",
    ";0MEDIUM MATHEMATICAL SPACE;0WORD JOINER;0FUNCTION APPLICATION;0INVISIBLE TIMES;1SEPARATOR",
    ";1PLUS;@2066;0LEFT-TO-RIGHT ISOLATE;0RIGHT-TO-LEFT ISOLATE;0FIRST STRONG ISOLATE",
    ";0POP DIRECTIONAL ISOLATE;0INHIBIT SYMMETRIC SWAPPING;0ACTIVATE SYMMETRIC SWAPPING",
    ";0INHIBIT ARABIC FORM SHAPING;0ACTIVATE ARABIC FORM SHAPING;0NATIONAL DIGIT SHAPES",
    ";0NOMINAL DIGIT SHAPES;0SUPERSCRIPT ZERO;1LATIN SMALL LETTER I"],
   [";@2074;1FOUR;1FIVE;1SIX;1SEVEN;1EIGHT;1NINE;1PLUS SIGN;1MINUS;1EQUALS SIGN;1LEFT PARENTHESIS",
    ";1RIGHT PARENTHESIS;1LATIN SMALL LETTER N;0SUBSCRIPT ZERO;1ONE;1TWO;1THREE;1FOUR;1FIVE;1SIX",
    ";1SEVEN;1EIGHT;1NINE;1PLUS SIGN;1MINUS;1EQUALS SIGN;1LEFT PARENTHESIS;1RIGHT PARENTHESIS",
    ";@2090;0LATIN SUBSCRIPT SMALL LETTER A;4E;4O;4X;4SCHWA;4H;4K;4L;4M;4N;4P;4S;4T;@20A0",
    ";0EURO-CURRENCY SIGN;0COLON SIGN;0CRUZEIRO SIGN;0FRENCH FRANC SIGN;0LIRA SIGN;0MILL SIGN",
    ";0NAIRA SIGN;0PESETA SIGN;0RUPEE SIGN;0WON SIGN;0NEW SHEQEL SIGN;0DONG SIGN;0EURO SIGN",
    ";0KIP SIGN;0TUGRIK SIGN;0DRACHMA SIGN;0GERMAN PENNY SIGN;0PESO SIGN;0GUARANI SIGN",
    ";0AUSTRAL SIGN;0HRYVNIA SIGN;0CEDI SIGN;0LIVRE TOURNOIS SIGN;0SPESMILO SIGN;0TENGE SIGN",
    ";0INDIAN RUPEE SIGN;0TURKISH LIRA SIGN;0NORDIC MARK SIGN;0MANAT SIGN;0RUBLE SIGN;0LARI SIGN",
    ";0BITCOIN SIGN;0SOM SIGN;@20D0;0COMBINING LEFT HARPOON ABOVE;1RIGHT HARPOON ABOVE",
    ";1LONG VERTICAL LINE OVERLAY;1SHORT VERTICAL LINE OVERLAY;1ANTICLOCKWISE ARROW ABOVE",
    ";1CLOCKWISE ARROW ABOVE;1LEFT ARROW ABOVE;1RIGHT ARROW ABOVE;1RING OVERLAY",
    ";1CLOCKWISE RING OVERLAY;1ANTICLOCKWISE RING OVERLAY;1THREE DOTS ABOVE;1FOUR DOTS ABOVE",
    ";1ENCLOSING CIRCLE;2SQUARE;2DIAMOND;2CIRCLE BACKSLASH;1LEFT RIGHT ARROW ABOVE",
    ";1ENCLOSING SCREEN;2KEYCAP;2UPWARD POINTING TRIANGLE;1REVERSE SOLIDUS OVERLAY",
    ";1DOUBLE VERTICAL STROKE OVERLAY;1ANNUITY SYMBOL;1TRIPLE UNDERDOT;1WIDE BRIDGE ABOVE",
    ";1LEFTWARDS ARROW OVERLAY;1LONG DOUBLE SOLIDUS OVERLAY",
    ";1RIGHTWARDS HARPOON WITH BARB DOWNWARDS;1LEFTWARDS HARPOON WITH BARB DOWNWARDS",
    ";1LEFT ARROW BELOW;1RIGHT ARROW BELOW;1ASTERISK ABOVE;@2100;0ACCOUNT OF",
    ";0ADDRESSED TO THE SUBJECT;0DOUBLE-STRUCK CAPITAL C;0DEGREE CELSIUS;0CENTRE LINE SYMBOL",
    ";0CARE OF;0CADA UNA;0EULER CONSTANT;0SCRUPLE;0DEGREE FAHRENHEIT;0SCRIPT SMALL G;1CAPITAL H",
    ";0BLACK-LETTER CAPITAL H;0DOUBLE-STRUCK CAPITAL H;0PLANCK CONSTANT;2OVER TWO PI",
    ";0SCRIPT CAPITAL I;0BLACK-LETTER CAPITAL I;0SCRIPT CAPITAL L;1SMALL L;0L B BAR SYMBOL",
    ";0DOUBLE-STRUCK CAPITAL N;0NUMERO SIGN;0SOUND RECORDING COPYRIGHT;0SCRIPT CAPITAL P",
    ";0DOUBLE-STRUCK CAPITAL P;2Q;0SCRIPT CAPITAL R;0BLACK-LETTER CAPITAL R",
    ";0DOUBLE-STRUCK CAPITAL R;0PRESCRIPTION TAKE;0RESPONSE;0SERVICE MARK;0TELEPHONE SIGN",
    ";0TRADE MARK SIGN;0VERSICLE;0DOUBLE-STRUCK CAPITAL Z;0OUNCE SIGN;0OHM SIGN",
    ";0INVERTED OHM SIGN;0BLACK-LETTER CAPITAL Z;0TURNED GREEK SMALL LETTER IOTA;0KELVIN SIGN",
    ";0ANGSTROM SIGN;0SCRIPT CAPITAL B;0BLACK-LETTER CAPITAL C;0ESTIMATED SYMBOL;0SCRIPT SMALL E",
    ";1CAPITAL E;2F;0TURNED CAPITAL F;0SCRIPT CAPITAL M;1SMALL O;0ALEF SYMBOL;0BET SYMBOL",
    ";0GIMEL SYMBOL;0DALET SYMBOL;0INFORMATION SOURCE;0ROTATED CAPITAL Q;0FACSIMILE SIGN",
    ";0DOUBLE-STRUCK SMALL PI;2GAMMA;1CAPITAL GAMMA;2PI;1N-ARY SUMMATION",
    ";0TURNED SANS-SERIF CAPITAL G;3L;0REVERSED SANS-SERIF CAPITAL L;0TURNED SANS-SERIF CAPITAL Y",
    ";0DOUBLE-STRUCK ITALIC CAPITAL D;2SMALL D;3E;3I;3J;0PROPERTY LINE;0TURNED AMPERSAND",
    ";0PER SIGN;0AKTIESELSKAB;0TURNED SMALL F;0SYMBOL FOR SAMARITAN SOURCE",
    ";0VULGAR FRACTION ONE SEVENTH;3NINTH;3TENTH;3THIRD;2TWO THIRDS;2ONE FIFTH;2TWO FIFTHS",
    ";2THREE FIFTHS;2FOUR FIFTHS;2ONE SIXTH;2FIVE SIXTHS;2ONE EIGHTH;2THREE EIGHTHS;2FIVE EIGHTHS",
    ";2SEVEN EIGHTHS;0FRACTION NUMERATOR ONE;0ROMAN NUMERAL ONE;2TWO;2THREE;2FOUR;2FIVE;2SIX",
    ";2SEVEN;2EIGHT;2NINE;2TEN;2ELEVEN;2TWELVE;2FIFTY;2ONE HUNDRED;2FIVE HUNDRED;2ONE THOUSAND",
    ";0SMALL ROMAN NUMERAL ONE;3TWO;3THREE;3FOUR;3FIVE;3SIX;3SEVEN;3EIGHT;3NINE;3TEN;3ELEVEN",
    ";3TWELVE;3FIFTY;3ONE HUNDRED;3FIVE HUNDRED;3ONE THOUSAND;0ROMAN NUMERAL ONE THOUSAND C D",
    ";2FIVE THOUSAND;2TEN THOUSAND;2REVERSED ONE HUNDRED;0LATIN SMALL LETTER REVERSED C",
    ";0ROMAN NUMERAL SIX LATE FORM;2FIFTY EARLY FORM;3THOUSAND;2ONE HUNDRED THOUSAND",
    ";0VULGAR FRACTION ZERO THIRDS;0TURNED DIGIT TWO;2THREE"],
   [";@2190;0LEFTWARDS ARROW;0UPWARDS ARROW;0RIGHTWARDS ARROW;0DOWNWARDS ARROW;0LEFT RIGHT ARROW",
    ";0UP DOWN ARROW;0NORTH WEST ARROW;1EAST ARROW;0SOUTH EAST ARROW;1WEST ARROW",
    ";0LEFTWARDS ARROW WITH STROKE;0RIGHTWARDS ARROW WITH STROKE;0LEFTWARDS WAVE ARROW",
    ";0RIGHTWARDS WAVE ARROW;0LEFTWARDS TWO HEADED ARROW;0UPWARDS TWO HEADED ARROW",
    ";0RIGHTWARDS TWO HEADED ARROW;0DOWNWARDS TWO HEADED ARROW;0LEFTWARDS ARROW WITH TAIL",
    ";0RIGHTWARDS ARROW WITH TAIL;0LEFTWARDS ARROW FROM BAR;0UPWARDS ARROW FROM BAR",
    ";0RIGHTWARDS ARROW FROM BAR;0DOWNWARDS ARROW FROM BAR;0UP DOWN ARROW WITH BASE",
    ";0LEFTWARDS ARROW WITH HOOK;0RIGHTWARDS ARROW WITH HOOK;0LEFTWARDS ARROW WITH LOOP",
    ";0RIGHTWARDS ARROW WITH LOOP;0LEFT RIGHT WAVE ARROW;2ARROW WITH STROKE",
    ";0DOWNWARDS ZIGZAG ARROW;0UPWARDS ARROW WITH TIP LEFTWARDS;4RIGHTWARDS",
    ";0DOWNWARDS ARROW WITH TIP LEFTWARDS;4RIGHTWARDS;0RIGHTWARDS ARROW WITH CORNER DOWNWARDS",
    ";0DOWNWARDS ARROW WITH CORNER LEFTWARDS;0ANTICLOCKWISE TOP SEMICIRCLE ARROW",
    ";0CLOCKWISE TOP SEMICIRCLE ARROW;0NORTH WEST ARROW TO LONG BAR",
    ";0LEFTWARDS ARROW TO BAR OVER RIGHTWARDS ARROW TO BAR;0ANTICLOCKWISE OPEN CIRCLE ARROW",
    ";0CLOCKWISE OPEN CIRCLE ARROW;0LEFTWARDS HARPOON WITH BARB UPWARDS;4DOWNWARDS",
    ";0UPWARDS HARPOON WITH BARB RIGHTWARDS;4LEFTWARDS;0RIGHTWARDS HARPOON WITH BARB UPWARDS",
    ";4DOWNWARDS;0DOWNWARDS HARPOON WITH BARB RIGHTWARDS;4LEFTWARDS",
    ";0RIGHTWARDS ARROW OVER LEFTWARDS ARROW;0UPWARDS ARROW LEFTWARDS OF DOWNWARDS ARROW",
    ";0LEFTWARDS ARROW OVER RIGHTWARDS ARROW;1PAIRED ARROWS;0UPWARDS PAIRED ARROWS",
    ";0RIGHTWARDS PAIRED ARROWS;0DOWNWARDS PAIRED ARROWS",
    ";0LEFTWARDS HARPOON OVER RIGHTWARDS HARPOON;0RIGHTWARDS HARPOON OVER LEFTWARDS HARPOON",
    ";0LEFTWARDS DOUBLE ARROW WITH STROKE;0LEFT RIGHT DOUBLE ARROW WITH STROKE",
    ";0RIGHTWARDS DOUBLE ARROW WITH STROKE;0LEFTWARDS DOUBLE ARROW;0UPWARDS DOUBLE ARROW",
    ";0RIGHTWARDS DOUBLE ARROW;0DOWNWARDS DOUBLE ARROW;0LEFT RIGHT DOUBLE ARROW",
    ";0UP DOWN DOUBLE ARROW;0NORTH WEST DOUBLE ARROW;1EAST DOUBLE ARROW;0SOUTH EAST DOUBLE ARROW",
    ";1WEST DOUBLE ARROW;0LEFTWARDS TRIPLE ARROW;0RIGHTWARDS TRIPLE ARROW",
    ";0LEFTWARDS SQUIGGLE ARROW;0RIGHTWARDS SQUIGGLE ARROW;0UPWARDS ARROW WITH DOUBLE STROKE",
    ";0DOWNWARDS ARROW WITH DOUBLE STROKE;0LEFTWARDS DASHED ARROW;0UPWARDS DASHED ARROW",
    ";0RIGHTWARDS DASHED ARROW;0DOWNWARDS DASHED ARROW;0LEFTWARDS ARROW TO BAR",
    ";0RIGHTWARDS ARROW TO BAR;0LEFTWARDS WHITE ARROW;0UPWARDS WHITE ARROW",
    ";0RIGHTWARDS WHITE ARROW;0DOWNWARDS WHITE ARROW;0UPWARDS WHITE ARROW FROM BAR;3ON PEDESTAL",
    ";5WITH HORIZONTAL BAR;6VERTICAL BAR;2DOUBLE ARROW;4ON PEDESTAL",
    ";0RIGHTWARDS WHITE ARROW FROM WALL;0NORTH WEST ARROW TO CORNER;0SOUTH EAST ARROW TO CORNER",
    ";0UP DOWN WHITE ARROW;0RIGHT ARROW WITH SMALL CIRCLE",
    ";0DOWNWARDS ARROW LEFTWARDS OF UPWARDS ARROW;0THREE RIGHTWARDS ARROWS",
    ";0LEFTWARDS ARROW WITH VERTICAL STROKE;0RIGHTWARDS ARROW WITH VERTICAL STROKE",
    ";0LEFT RIGHT ARROW WITH VERTICAL STROKE;0LEFTWARDS ARROW WITH DOUBLE VERTICAL STROKE",
    ";0RIGHTWARDS ARROW WITH DOUBLE VERTICAL STROKE;0LEFT RIGHT ARROW WITH DOUBLE VERTICAL STROKE",
    ";0LEFTWARDS OPEN-HEADED ARROW;0RIGHTWARDS OPEN-HEADED ARROW;0LEFT RIGHT OPEN-HEADED ARROW",
    ";0FOR ALL;0COMPLEMENT;0PARTIAL DIFFERENTIAL;0THERE EXISTS;1DOES NOT EXIST;0EMPTY SET",
    ";0INCREMENT;0NABLA;0ELEMENT OF;0NOT AN ELEMENT OF;0SMALL ELEMENT OF;0CONTAINS AS MEMBER",
    ";0DOES NOT CONTAIN AS MEMBER;0SMALL CONTAINS AS MEMBER;0END OF PROOF;0N-ARY PRODUCT",
    ";1COPRODUCT;1SUMMATION;0MINUS SIGN;0MINUS-OR-PLUS SIGN;0DOT PLUS;0DIVISION SLASH;0SET MINUS",
    ";0ASTERISK OPERATOR;0RING OPERATOR;0BULLET OPERATOR;0SQUARE ROOT;0CUBE ROOT;0FOURTH ROOT",
    ";0PROPORTIONAL TO;0INFINITY;0RIGHT ANGLE;0ANGLE;0MEASURED ANGLE;0SPHERICAL ANGLE;0DIVIDES",
    ";0DOES NOT DIVIDE;0PARALLEL TO;0NOT PARALLEL TO;0LOGICAL AND;1OR;0INTERSECTION;0UNION",
    ";0INTEGRAL;0DOUBLE INTEGRAL;0TRIPLE INTEGRAL;0CONTOUR INTEGRAL;0SURFACE INTEGRAL",
    ";0VOLUME INTEGRAL;0CLOCKWISE INTEGRAL;1CONTOUR INTEGRAL;0ANTICLOCKWISE CONTOUR INTEGRAL",
    ";0THEREFORE;0BECAUSE;0RATIO;0PROPORTION;0DOT MINUS;0EXCESS;0GEOMETRIC PROPORTION;0HOMOTHETIC",
    ";0TILDE OPERATOR;0REVERSED TILDE;0INVERTED LAZY S;0SINE WAVE;0WREATH PRODUCT;0NOT TILDE",
    ";0MINUS TILDE;0ASYMPTOTICALLY EQUAL TO;0NOT ASYMPTOTICALLY EQUAL TO;0APPROXIMATELY EQUAL TO",
    ";1BUT NOT ACTUALLY EQUAL TO;0NEITHER APPROXIMATELY NOR ACTUALLY EQUAL TO;0ALMOST EQUAL TO",
    ";0NOT ALMOST EQUAL TO;0ALMOST EQUAL OR EQUAL TO;0TRIPLE TILDE;0ALL EQUAL TO;0EQUIVALENT TO",
    ";0GEOMETRICALLY EQUIVALENT TO;0DIFFERENCE BETWEEN;0APPROACHES THE LIMIT",
    ";0GEOMETRICALLY EQUAL TO;0APPROXIMATELY EQUAL TO OR THE IMAGE OF",
    ";0IMAGE OF OR APPROXIMATELY EQUAL TO;0COLON EQUALS;0EQUALS COLON;0RING IN EQUAL TO;1EQUAL TO",
    ";0CORRESPONDS TO;0ESTIMATES;0EQUIANGULAR TO;0STAR EQUALS;0DELTA EQUAL TO",
    ";0EQUAL TO BY DEFINITION;0MEASURED BY;0QUESTIONED EQUAL TO;0NOT EQUAL TO;0IDENTICAL TO",
    ";0NOT IDENTICAL TO;0STRICTLY EQUIVALENT TO;0LESS-THAN OR EQUAL TO;0GREATER-THAN OR EQUAL TO",
    ";0LESS-THAN OVER EQUAL TO;0GREATER-THAN OVER EQUAL TO;0LESS-THAN BUT NOT EQUAL TO",
    ";0GREATER-THAN BUT NOT EQUAL TO"],
   [";0MUCH LESS-THAN;1GREATER-THAN;0BETWEEN;0NOT EQUIVALENT TO;1LESS-THAN;1GREATER-THAN",
    ";0NEITHER LESS-THAN NOR EQUAL TO;1GREATER-THAN NOR EQUAL TO;0LESS-THAN OR EQUIVALENT TO",
    ";0GREATER-THAN OR EQUIVALENT TO;0NEITHER LESS-THAN NOR EQUIVALENT TO",
    ";1GREATER-THAN NOR EQUIVALENT TO;0LESS-THAN OR GREATER-THAN;0GREATER-THAN OR LESS-THAN",
    ";0NEITHER LESS-THAN NOR GREATER-THAN;1GREATER-THAN NOR LESS-THAN;0PRECEDES;0SUCCEEDS",
    ";0PRECEDES OR EQUAL TO;0SUCCEEDS OR EQUAL TO;0PRECEDES OR EQUIVALENT TO",
    ";0SUCCEEDS OR EQUIVALENT TO;0DOES NOT PRECEDE;2SUCCEED;0SUBSET OF;0SUPERSET OF",
    ";0NOT A SUBSET OF;2SUPERSET OF;0SUBSET OF OR EQUAL TO;0SUPERSET OF OR EQUAL TO",
    ";0NEITHER A SUBSET OF NOR EQUAL TO;2SUPERSET OF NOR EQUAL TO;0SUBSET OF WITH NOT EQUAL TO",
    ";0SUPERSET OF WITH NOT EQUAL TO;0MULTISET;1MULTIPLICATION;1UNION;0SQUARE IMAGE OF",
    ";1ORIGINAL OF;1IMAGE OF OR EQUAL TO;1ORIGINAL OF OR EQUAL TO;1CAP;1CUP;0CIRCLED PLUS;1MINUS",
    ";1TIMES;1DIVISION SLASH;1DOT OPERATOR;1RING OPERATOR;1ASTERISK OPERATOR;1EQUALS;1DASH",
    ";0SQUARED PLUS;1MINUS;1TIMES;1DOT OPERATOR;0RIGHT TACK;0LEFT TACK;0DOWN TACK;0UP TACK",
    ";0ASSERTION;0MODELS;0TRUE;0FORCES;0TRIPLE VERTICAL BAR RIGHT TURNSTILE",
    ";0DOUBLE VERTICAL BAR DOUBLE RIGHT TURNSTILE;0DOES NOT PROVE;0NOT TRUE;0DOES NOT FORCE",
    ";0NEGATED DOUBLE VERTICAL BAR DOUBLE RIGHT TURNSTILE;0PRECEDES UNDER RELATION",
    ";0SUCCEEDS UNDER RELATION;0NORMAL SUBGROUP OF;0CONTAINS AS NORMAL SUBGROUP",
    ";0NORMAL SUBGROUP OF OR EQUAL TO;0CONTAINS AS NORMAL SUBGROUP OR EQUAL TO;0ORIGINAL OF",
    ";0IMAGE OF;0MULTIMAP;0HERMITIAN CONJUGATE MATRIX;0INTERCALATE;0XOR;0NAND;0NOR",
    ";0RIGHT ANGLE WITH ARC;1TRIANGLE;0N-ARY LOGICAL AND;2OR;1INTERSECTION;1UNION",
    ";0DIAMOND OPERATOR;0DOT OPERATOR;0STAR OPERATOR;0DIVISION TIMES;0BOWTIE",
    ";0LEFT NORMAL FACTOR SEMIDIRECT PRODUCT;0RIGHT NORMAL FACTOR SEMIDIRECT PRODUCT",
    ";0LEFT SEMIDIRECT PRODUCT;0RIGHT SEMIDIRECT PRODUCT;0REVERSED TILDE EQUALS;0CURLY LOGICAL OR",
    ";2AND;0DOUBLE SUBSET;1SUPERSET;1INTERSECTION;1UNION;0PITCHFORK;0EQUAL AND PARALLEL TO",
    ";0LESS-THAN WITH DOT;0GREATER-THAN WITH DOT;0VERY MUCH LESS-THAN;2GREATER-THAN",
    ";0LESS-THAN EQUAL TO OR GREATER-THAN;0GREATER-THAN EQUAL TO OR LESS-THAN",
    ";0EQUAL TO OR LESS-THAN;3GREATER-THAN;3PRECEDES;3SUCCEEDS;0DOES NOT PRECEDE OR EQUAL",
    ";2SUCCEED OR EQUAL;0NOT SQUARE IMAGE OF OR EQUAL TO;2ORIGINAL OF OR EQUAL TO",
    ";0SQUARE IMAGE OF OR NOT EQUAL TO;1ORIGINAL OF OR NOT EQUAL TO",
    ";0LESS-THAN BUT NOT EQUIVALENT TO;0GREATER-THAN BUT NOT EQUIVALENT TO",
    ";0PRECEDES BUT NOT EQUIVALENT TO;0SUCCEEDS BUT NOT EQUIVALENT TO;0NOT NORMAL SUBGROUP OF",
    ";0DOES NOT CONTAIN AS NORMAL SUBGROUP;0NOT NORMAL SUBGROUP OF OR EQUAL TO",
    ";0DOES NOT CONTAIN AS NORMAL SUBGROUP OR EQUAL;0VERTICAL ELLIPSIS",
    ";0MIDLINE HORIZONTAL ELLIPSIS;0UP RIGHT DIAGONAL ELLIPSIS;0DOWN RIGHT DIAGONAL ELLIPSIS",
    ";0ELEMENT OF WITH LONG HORIZONTAL STROKE;3VERTICAL BAR AT END OF HORIZONTAL STROKE",
    ";0SMALL ELEMENT OF WITH VERTICAL BAR AT END OF HORIZONTAL STROKE;0ELEMENT OF WITH DOT ABOVE",
    ";3OVERBAR;0SMALL ELEMENT OF WITH OVERBAR;0ELEMENT OF WITH UNDERBAR;3TWO HORIZONTAL STROKES",
    ";0CONTAINS WITH LONG HORIZONTAL STROKE;2VERTICAL BAR AT END OF HORIZONTAL STROKE",
    ";0SMALL CONTAINS WITH VERTICAL BAR AT END OF HORIZONTAL STROKE;0CONTAINS WITH OVERBAR",
    ";0SMALL CONTAINS WITH OVERBAR;0Z NOTATION BAG MEMBERSHIP;0DIAMETER SIGN;0ELECTRIC ARROW",
    ";0HOUSE;0UP ARROWHEAD;0DOWN ARROWHEAD;0PROJECTIVE;0PERSPECTIVE;0WAVY LINE;0LEFT CEILING",
    ";0RIGHT CEILING;0LEFT FLOOR;0RIGHT FLOOR;0BOTTOM RIGHT CROP;1LEFT CROP;0TOP RIGHT CROP",
    ";1LEFT CROP;0REVERSED NOT SIGN;0SQUARE LOZENGE;0ARC;0SEGMENT;0SECTOR;0TELEPHONE RECORDER",
    ";0POSITION INDICATOR;0VIEWDATA SQUARE;0PLACE OF INTEREST SIGN;0TURNED NOT SIGN;0WATCH",
    ";0HOURGLASS;0TOP LEFT CORNER;1RIGHT CORNER;0BOTTOM LEFT CORNER;1RIGHT CORNER",
    ";0TOP HALF INTEGRAL;0BOTTOM HALF INTEGRAL;0FROWN;0SMILE",
    ";0UP ARROWHEAD BETWEEN TWO HORIZONTAL BARS;0OPTION KEY;0ERASE TO THE RIGHT",
    ";0X IN A RECTANGLE BOX;0KEYBOARD;0LEFT-POINTING ANGLE BRACKET;0RIGHT-POINTING ANGLE BRACKET",
    ";0ERASE TO THE LEFT;0BENZENE RING;0CYLINDRICITY;0ALL AROUND-PROFILE;0SYMMETRY;0TOTAL RUNOUT",
    ";0DIMENSION ORIGIN;0CONICAL TAPER;0SLOPE;0COUNTERBORE;0COUNTERSINK",
    ";0APL FUNCTIONAL SYMBOL I-BEAM;3SQUISH QUAD;3QUAD EQUAL;4DIVIDE;4DIAMOND;4JOT;4CIRCLE",
    ";3CIRCLE STILE;4JOT;3SLASH BAR;3BACKSLASH BAR;3QUAD SLASH;4BACKSLASH;4LESS-THAN",
    ";4GREATER-THAN;3LEFTWARDS VANE;3RIGHTWARDS VANE;3QUAD LEFTWARDS ARROW;4RIGHTWARDS ARROW",
    ";3CIRCLE BACKSLASH;3DOWN TACK UNDERBAR;3DELTA STILE;3QUAD DOWN CARET;4DELTA;3DOWN TACK JOT",
    ";3UPWARDS VANE;3QUAD UPWARDS ARROW;3UP TACK OVERBAR;3DEL STILE;3QUAD UP CARET;4DEL",
    ";3UP TACK JOT;3DOWNWARDS VANE;3QUAD DOWNWARDS ARROW;3QUOTE UNDERBAR;3DELTA UNDERBAR",
    ";3DIAMOND UNDERBAR;3JOT UNDERBAR;3CIRCLE UNDERBAR;3UP SHOE JOT;3QUOTE QUAD;3CIRCLE STAR",
    ";3QUAD COLON;3UP TACK DIAERESIS;3DEL DIAERESIS;3STAR DIAERESIS;3JOT DIAERESIS",
    ";3CIRCLE DIAERESIS;3DOWN SHOE STILE;3LEFT SHOE STILE;3TILDE DIAERESIS",
    ";3GREATER-THAN DIAERESIS;3COMMA BAR;3DEL TILDE;3ZILDE;3STILE TILDE;3SEMICOLON UNDERBAR",
    ";3QUAD NOT EQUAL"],
   [";4QUESTION;3DOWN CARET TILDE;3UP CARET TILDE;3IOTA;3RHO;3OMEGA;3ALPHA UNDERBAR",
    ";3EPSILON UNDERBAR;3IOTA UNDERBAR;3OMEGA UNDERBAR;3ALPHA;0NOT CHECK MARK",
    ";0RIGHT ANGLE WITH DOWNWARDS ZIGZAG ARROW;0SHOULDERED OPEN BOX;0BELL SYMBOL",
    ";0VERTICAL LINE WITH MIDDLE DOT;0INSERTION SYMBOL;0CONTINUOUS UNDERLINE SYMBOL",
    ";0DISCONTINUOUS UNDERLINE SYMBOL;0EMPHASIS SYMBOL;0COMPOSITION SYMBOL",
    ";0WHITE SQUARE WITH CENTRE VERTICAL LINE;0ENTER SYMBOL;0ALTERNATIVE KEY SYMBOL;0HELM SYMBOL",
    ";0CIRCLED HORIZONTAL BAR WITH NOTCH;1TRIANGLE DOWN;0BROKEN CIRCLE WITH NORTHWEST ARROW",
    ";0UNDO SYMBOL;0MONOSTABLE SYMBOL;0HYSTERESIS SYMBOL;0OPEN-CIRCUIT-OUTPUT H-TYPE SYMBOL",
    ";1L-TYPE SYMBOL;0PASSIVE-PULL-DOWN-OUTPUT SYMBOL;0PASSIVE-PULL-UP-OUTPUT SYMBOL",
    ";0DIRECT CURRENT SYMBOL FORM TWO;0SOFTWARE-FUNCTION SYMBOL;0APL FUNCTIONAL SYMBOL QUAD",
    ";0DECIMAL SEPARATOR KEY SYMBOL;0PREVIOUS PAGE;0NEXT PAGE;0PRINT SCREEN SYMBOL",
    ";0CLEAR SCREEN SYMBOL;0LEFT PARENTHESIS UPPER HOOK;2EXTENSION;2LOWER HOOK",
    ";0RIGHT PARENTHESIS UPPER HOOK;2EXTENSION;2LOWER HOOK;0LEFT SQUARE BRACKET UPPER CORNER",
    ";3EXTENSION;3LOWER CORNER;0RIGHT SQUARE BRACKET UPPER CORNER;3EXTENSION;3LOWER CORNER",
    ";0LEFT CURLY BRACKET UPPER HOOK;3MIDDLE PIECE;3LOWER HOOK;0CURLY BRACKET EXTENSION",
    ";0RIGHT CURLY BRACKET UPPER HOOK;3MIDDLE PIECE;3LOWER HOOK;0INTEGRAL EXTENSION",
    ";0HORIZONTAL LINE EXTENSION;0UPPER LEFT OR LOWER RIGHT CURLY BRACKET SECTION",
    ";1RIGHT OR LOWER LEFT CURLY BRACKET SECTION;0SUMMATION TOP;1BOTTOM;0TOP SQUARE BRACKET",
    ";0BOTTOM SQUARE BRACKET;3OVER TOP SQUARE BRACKET;0RADICAL SYMBOL BOTTOM",
    ";0LEFT VERTICAL BOX LINE;0RIGHT VERTICAL BOX LINE;0HORIZONTAL SCAN LINE-1;2LINE-3;2LINE-7",
    ";2LINE-9;0DENTISTRY SYMBOL LIGHT VERTICAL AND TOP RIGHT;5BOTTOM RIGHT;4WITH CIRCLE",
    ";3DOWN AND HORIZONTAL WITH CIRCLE;3UP AND HORIZONTAL WITH CIRCLE;3VERTICAL WITH TRIANGLE",
    ";3DOWN AND HORIZONTAL WITH TRIANGLE;3UP AND HORIZONTAL WITH TRIANGLE;3VERTICAL AND WAVE",
    ";3DOWN AND HORIZONTAL WITH WAVE;3UP AND HORIZONTAL WITH WAVE;3DOWN AND HORIZONTAL",
    ";3UP AND HORIZONTAL;3VERTICAL AND TOP LEFT;5BOTTOM LEFT;0SQUARE FOOT;0RETURN SYMBOL",
    ";0EJECT SYMBOL;0VERTICAL LINE EXTENSION;0METRICAL BREVE;1LONG OVER SHORT;1SHORT OVER LONG",
    ";1LONG OVER TWO SHORTS;1TWO SHORTS OVER LONG;3JOINED;1TRISEME;1TETRASEME;1PENTASEME",
    ";0EARTH GROUND;0FUSE;0TOP PARENTHESIS;0BOTTOM PARENTHESIS;0TOP CURLY BRACKET",
    ";0BOTTOM CURLY BRACKET;0TOP TORTOISE SHELL BRACKET;0BOTTOM TORTOISE SHELL BRACKET",
    ";0WHITE TRAPEZIUM;0BENZENE RING WITH CIRCLE;0STRAIGHTNESS;0FLATNESS;0AC CURRENT",
    ";0ELECTRICAL INTERSECTION;0DECIMAL EXPONENT SYMBOL;0BLACK RIGHT-POINTING DOUBLE TRIANGLE",
    ";1LEFT-POINTING DOUBLE TRIANGLE;1UP-POINTING DOUBLE TRIANGLE;1DOWN-POINTING DOUBLE TRIANGLE",
    ";1RIGHT-POINTING DOUBLE TRIANGLE WITH VERTICAL BAR",
    ";1LEFT-POINTING DOUBLE TRIANGLE WITH VERTICAL BAR",
    ";1RIGHT-POINTING TRIANGLE WITH DOUBLE VERTICAL BAR;0ALARM CLOCK;0STOPWATCH;0TIMER CLOCK",
    ";0HOURGLASS WITH FLOWING SAND;0BLACK MEDIUM LEFT-POINTING TRIANGLE;2RIGHT-POINTING TRIANGLE",
    ";2UP-POINTING TRIANGLE;2DOWN-POINTING TRIANGLE;0DOUBLE VERTICAL BAR;0BLACK SQUARE FOR STOP",
    ";1CIRCLE FOR RECORD;0POWER SYMBOL;1ON-OFF SYMBOL;1ON SYMBOL;1SLEEP SYMBOL",
    ";0OBSERVER EYE SYMBOL;0SYMBOL FOR NULL;2START OF HEADING;4TEXT;2END OF TEXT;4TRANSMISSION",
    ";2ENQUIRY;2ACKNOWLEDGE;2BELL;2BACKSPACE;2HORIZONTAL TABULATION;2LINE FEED",
    ";2VERTICAL TABULATION;2FORM FEED;2CARRIAGE RETURN;2SHIFT OUT;3IN;2DATA LINK ESCAPE",
    ";2DEVICE CONTROL ONE;4TWO;4THREE;4FOUR;2NEGATIVE ACKNOWLEDGE;2SYNCHRONOUS IDLE",
    ";2END OF TRANSMISSION BLOCK;2CANCEL;2END OF MEDIUM;2SUBSTITUTE;2ESCAPE;2FILE SEPARATOR",
    ";2GROUP SEPARATOR;2RECORD SEPARATOR;2UNIT SEPARATOR;2SPACE;2DELETE;0BLANK SYMBOL;0OPEN BOX",
    ";0SYMBOL FOR NEWLINE;2DELETE FORM TWO;2SUBSTITUTE FORM TWO"],
   [";@2440;0OCR HOOK;1CHAIR;1FORK;1INVERTED FORK;1BELT BUCKLE;1BOW TIE",
    ";1BRANCH BANK IDENTIFICATION;1AMOUNT OF CHECK;1DASH;1CUSTOMER ACCOUNT NUMBER",
    ";1DOUBLE BACKSLASH;@2460;0CIRCLED DIGIT ONE;2TWO;2THREE;2FOUR;2FIVE;2SIX;2SEVEN;2EIGHT;2NINE",
    ";1NUMBER TEN;2ELEVEN;2TWELVE;2THIRTEEN;2FOURTEEN;2FIFTEEN;2SIXTEEN;2SEVENTEEN;2EIGHTEEN",
    ";2NINETEEN;2TWENTY;0PARENTHESIZED DIGIT ONE;2TWO;2THREE;2FOUR;2FIVE;2SIX;2SEVEN;2EIGHT;2NINE",
    ";1NUMBER TEN;2ELEVEN;2TWELVE;2THIRTEEN;2FOURTEEN;2FIFTEEN;2SIXTEEN;2SEVENTEEN;2EIGHTEEN",
    ";2NINETEEN;2TWENTY;0DIGIT ONE FULL STOP;1TWO FULL STOP;1THREE FULL STOP;1FOUR FULL STOP",
    ";1FIVE FULL STOP;1SIX FULL STOP;1SEVEN FULL STOP;1EIGHT FULL STOP;1NINE FULL STOP",
    ";0NUMBER TEN FULL STOP;1ELEVEN FULL STOP;1TWELVE FULL STOP;1THIRTEEN FULL STOP",
    ";1FOURTEEN FULL STOP;1FIFTEEN FULL STOP;1SIXTEEN FULL STOP;1SEVENTEEN FULL STOP",
    ";1EIGHTEEN FULL STOP;1NINETEEN FULL STOP;1TWENTY FULL STOP",
    ";0PARENTHESIZED LATIN SMALL LETTER A;4B;4C;4D;4E;4F;4G;4H;4I;4J;4K;4L;4M;4N;4O;4P;4Q;4R;4S",
    ";4T;4U;4V;4W;4X;4Y;4Z;0CIRCLED LATIN CAPITAL LETTER A;4B;4C;4D;4E;4F;4G;4H;4I;4J;4K;4L;4M;4N",
    ";4O;4P;4Q;4R;4S;4T;4U;4V;4W;4X;4Y;4Z;2SMALL LETTER A;4B;4C;4D;4E;4F;4G;4H;4I;4J;4K;4L;4M;4N",
    ";4O;4P;4Q;4R;4S;4T;4U;4V;4W;4X;4Y;4Z;1DIGIT ZERO;0NEGATIVE CIRCLED NUMBER ELEVEN;3TWELVE",
    ";3THIRTEEN;3FOURTEEN;3FIFTEEN;3SIXTEEN;3SEVENTEEN;3EIGHTEEN;3NINETEEN;3TWENTY",
    ";0DOUBLE CIRCLED DIGIT ONE;3TWO;3THREE;3FOUR;3FIVE;3SIX;3SEVEN;3EIGHT;3NINE;2NUMBER TEN",
    ";0NEGATIVE CIRCLED DIGIT ZERO;0BOX DRAWINGS LIGHT HORIZONTAL;2HEAVY HORIZONTAL",
    ";2LIGHT VERTICAL;2HEAVY VERTICAL;2LIGHT TRIPLE DASH HORIZONTAL;2HEAVY TRIPLE DASH HORIZONTAL",
    ";2LIGHT TRIPLE DASH VERTICAL;2HEAVY TRIPLE DASH VERTICAL;2LIGHT QUADRUPLE DASH HORIZONTAL",
    ";2HEAVY QUADRUPLE DASH HORIZONTAL;2LIGHT QUADRUPLE DASH VERTICAL",
    ";2HEAVY QUADRUPLE DASH VERTICAL;2LIGHT DOWN AND RIGHT;2DOWN LIGHT AND RIGHT HEAVY",
    ";3HEAVY AND RIGHT LIGHT;2HEAVY DOWN AND RIGHT;2LIGHT DOWN AND LEFT",
    ";2DOWN LIGHT AND LEFT HEAVY;3HEAVY AND LEFT LIGHT;2HEAVY DOWN AND LEFT;2LIGHT UP AND RIGHT",
    ";2UP LIGHT AND RIGHT HEAVY;3HEAVY AND RIGHT LIGHT;2HEAVY UP AND RIGHT;2LIGHT UP AND LEFT",
    ";2UP LIGHT AND LEFT HEAVY;3HEAVY AND LEFT LIGHT;2HEAVY UP AND LEFT;2LIGHT VERTICAL AND RIGHT",
    ";2VERTICAL LIGHT AND RIGHT HEAVY;2UP HEAVY AND RIGHT DOWN LIGHT",
    ";2DOWN HEAVY AND RIGHT UP LIGHT;2VERTICAL HEAVY AND RIGHT LIGHT",
    ";2DOWN LIGHT AND RIGHT UP HEAVY;2UP LIGHT AND RIGHT DOWN HEAVY;2HEAVY VERTICAL AND RIGHT",
    ";2LIGHT VERTICAL AND LEFT;2VERTICAL LIGHT AND LEFT HEAVY;2UP HEAVY AND LEFT DOWN LIGHT",
    ";2DOWN HEAVY AND LEFT UP LIGHT;2VERTICAL HEAVY AND LEFT LIGHT;2DOWN LIGHT AND LEFT UP HEAVY",
    ";2UP LIGHT AND LEFT DOWN HEAVY;2HEAVY VERTICAL AND LEFT;2LIGHT DOWN AND HORIZONTAL",
    ";2LEFT HEAVY AND RIGHT DOWN LIGHT;2RIGHT HEAVY AND LEFT DOWN LIGHT",
    ";2DOWN LIGHT AND HORIZONTAL HEAVY;3HEAVY AND HORIZONTAL LIGHT",
    ";2RIGHT LIGHT AND LEFT DOWN HEAVY;2LEFT LIGHT AND RIGHT DOWN HEAVY",
    ";2HEAVY DOWN AND HORIZONTAL;2LIGHT UP AND HORIZONTAL;2LEFT HEAVY AND RIGHT UP LIGHT",
    ";2RIGHT HEAVY AND LEFT UP LIGHT;2UP LIGHT AND HORIZONTAL HEAVY;3HEAVY AND HORIZONTAL LIGHT",
    ";2RIGHT LIGHT AND LEFT UP HEAVY;2LEFT LIGHT AND RIGHT UP HEAVY;2HEAVY UP AND HORIZONTAL",
    ";2LIGHT VERTICAL AND HORIZONTAL;2LEFT HEAVY AND RIGHT VERTICAL LIGHT",
    ";2RIGHT HEAVY AND LEFT VERTICAL LIGHT;2VERTICAL LIGHT AND HORIZONTAL HEAVY",
    ";2UP HEAVY AND DOWN HORIZONTAL LIGHT;2DOWN HEAVY AND UP HORIZONTAL LIGHT",
    ";2VERTICAL HEAVY AND HORIZONTAL LIGHT;2LEFT UP HEAVY AND RIGHT DOWN LIGHT",
    ";2RIGHT UP HEAVY AND LEFT DOWN LIGHT;2LEFT DOWN HEAVY AND RIGHT UP LIGHT",
    ";2RIGHT DOWN HEAVY AND LEFT UP LIGHT;2DOWN LIGHT AND UP HORIZONTAL HEAVY",
    ";2UP LIGHT AND DOWN HORIZONTAL HEAVY;2RIGHT LIGHT AND LEFT VERTICAL HEAVY",
    ";2LEFT LIGHT AND RIGHT VERTICAL HEAVY;2HEAVY VERTICAL AND HORIZONTAL",
    ";2LIGHT DOUBLE DASH HORIZONTAL;2HEAVY DOUBLE DASH HORIZONTAL;2LIGHT DOUBLE DASH VERTICAL",
    ";2HEAVY DOUBLE DASH VERTICAL;2DOUBLE HORIZONTAL;3VERTICAL;2DOWN SINGLE AND RIGHT DOUBLE",
    ";3DOUBLE AND RIGHT SINGLE;2DOUBLE DOWN AND RIGHT;2DOWN SINGLE AND LEFT DOUBLE",
    ";3DOUBLE AND LEFT SINGLE;2DOUBLE DOWN AND LEFT;2UP SINGLE AND RIGHT DOUBLE",
    ";3DOUBLE AND RIGHT SINGLE;2DOUBLE UP AND RIGHT;2UP SINGLE AND LEFT DOUBLE",
    ";3DOUBLE AND LEFT SINGLE;2DOUBLE UP AND LEFT;2VERTICAL SINGLE AND RIGHT DOUBLE",
    ";3DOUBLE AND RIGHT SINGLE;2DOUBLE VERTICAL AND RIGHT;2VERTICAL SINGLE AND LEFT DOUBLE",
    ";3DOUBLE AND LEFT SINGLE;2DOUBLE VERTICAL AND LEFT;2DOWN SINGLE AND HORIZONTAL DOUBLE",
    ";3DOUBLE AND HORIZONTAL SINGLE;2DOUBLE DOWN AND HORIZONTAL;2UP SINGLE AND HORIZONTAL DOUBLE",
    ";3DOUBLE AND HORIZONTAL SINGLE;2DOUBLE UP AND HORIZONTAL",
    ";2VERTICAL SINGLE AND HORIZONTAL DOUBLE;3DOUBLE AND HORIZONTAL SINGLE",
    ";2DOUBLE VERTICAL AND HORIZONTAL;2LIGHT ARC DOWN AND RIGHT;6LEFT;4UP AND LEFT;6RIGHT",
    ";3DIAGONAL UPPER RIGHT TO LOWER LEFT;5LEFT TO LOWER RIGHT;4CROSS;3LEFT;3UP;3RIGHT;3DOWN",
    ";2HEAVY LEFT;3UP;3RIGHT;3DOWN;2LIGHT LEFT AND HEAVY RIGHT;3UP AND HEAVY DOWN",
    ";2HEAVY LEFT AND LIGHT RIGHT"],
   [";3UP AND LIGHT DOWN;0UPPER HALF BLOCK;0LOWER ONE EIGHTH BLOCK;2QUARTER BLOCK",
    ";1THREE EIGHTHS BLOCK;1HALF BLOCK;1FIVE EIGHTHS BLOCK;1THREE QUARTERS BLOCK",
    ";1SEVEN EIGHTHS BLOCK;0FULL BLOCK;0LEFT SEVEN EIGHTHS BLOCK;1THREE QUARTERS BLOCK",
    ";1FIVE EIGHTHS BLOCK;1HALF BLOCK;1THREE EIGHTHS BLOCK;1ONE QUARTER BLOCK;2EIGHTH BLOCK",
    ";0RIGHT HALF BLOCK;0LIGHT SHADE;0MEDIUM SHADE;0DARK SHADE;0UPPER ONE EIGHTH BLOCK",
    ";0RIGHT ONE EIGHTH BLOCK;0QUADRANT LOWER LEFT;2RIGHT;1UPPER LEFT",
    ";3AND LOWER LEFT AND LOWER RIGHT;5RIGHT;4UPPER RIGHT AND LOWER LEFT;8RIGHT;2RIGHT",
    ";3AND LOWER LEFT;6AND LOWER RIGHT;0BLACK SQUARE;0WHITE SQUARE;2WITH ROUNDED CORNERS",
    ";2CONTAINING BLACK SMALL SQUARE;0SQUARE WITH HORIZONTAL FILL;2VERTICAL FILL",
    ";2ORTHOGONAL CROSSHATCH FILL;2UPPER LEFT TO LOWER RIGHT FILL;3RIGHT TO LOWER LEFT FILL",
    ";2DIAGONAL CROSSHATCH FILL;0BLACK SMALL SQUARE;0WHITE SMALL SQUARE;0BLACK RECTANGLE",
    ";0WHITE RECTANGLE;0BLACK VERTICAL RECTANGLE;0WHITE VERTICAL RECTANGLE;0BLACK PARALLELOGRAM",
    ";0WHITE PARALLELOGRAM;0BLACK UP-POINTING TRIANGLE;0WHITE UP-POINTING TRIANGLE",
    ";0BLACK UP-POINTING SMALL TRIANGLE;0WHITE UP-POINTING SMALL TRIANGLE",
    ";0BLACK RIGHT-POINTING TRIANGLE;0WHITE RIGHT-POINTING TRIANGLE",
    ";0BLACK RIGHT-POINTING SMALL TRIANGLE;0WHITE RIGHT-POINTING SMALL TRIANGLE",
    ";0BLACK RIGHT-POINTING POINTER;0WHITE RIGHT-POINTING POINTER;0BLACK DOWN-POINTING TRIANGLE",
    ";0WHITE DOWN-POINTING TRIANGLE;0BLACK DOWN-POINTING SMALL TRIANGLE",
    ";0WHITE DOWN-POINTING SMALL TRIANGLE;0BLACK LEFT-POINTING TRIANGLE",
    ";0WHITE LEFT-POINTING TRIANGLE;0BLACK LEFT-POINTING SMALL TRIANGLE",
    ";0WHITE LEFT-POINTING SMALL TRIANGLE;0BLACK LEFT-POINTING POINTER",
    ";0WHITE LEFT-POINTING POINTER;0BLACK DIAMOND;0WHITE DIAMOND;2CONTAINING BLACK SMALL DIAMOND",
    ";0FISHEYE;0LOZENGE;0WHITE CIRCLE;0DOTTED CIRCLE;0CIRCLE WITH VERTICAL FILL;0BULLSEYE",
    ";0BLACK CIRCLE;0CIRCLE WITH LEFT HALF BLACK;2RIGHT HALF BLACK;2LOWER HALF BLACK",
    ";2UPPER HALF BLACK;3RIGHT QUADRANT BLACK;2ALL BUT UPPER LEFT QUADRANT BLACK",
    ";0LEFT HALF BLACK CIRCLE;0RIGHT HALF BLACK CIRCLE;0INVERSE BULLET;1WHITE CIRCLE",
    ";0UPPER HALF INVERSE WHITE CIRCLE;0LOWER HALF INVERSE WHITE CIRCLE",
    ";0UPPER LEFT QUADRANT CIRCULAR ARC;1RIGHT QUADRANT CIRCULAR ARC",
    ";0LOWER RIGHT QUADRANT CIRCULAR ARC;1LEFT QUADRANT CIRCULAR ARC;0UPPER HALF CIRCLE",
    ";0LOWER HALF CIRCLE;0BLACK LOWER RIGHT TRIANGLE;2LEFT TRIANGLE;1UPPER LEFT TRIANGLE",
    ";2RIGHT TRIANGLE;0WHITE BULLET;0SQUARE WITH LEFT HALF BLACK;2RIGHT HALF BLACK",
    ";2UPPER LEFT DIAGONAL HALF BLACK;2LOWER RIGHT DIAGONAL HALF BLACK",
    ";0WHITE SQUARE WITH VERTICAL BISECTING LINE;1UP-POINTING TRIANGLE WITH DOT",
    ";0UP-POINTING TRIANGLE WITH LEFT HALF BLACK;3RIGHT HALF BLACK;0LARGE CIRCLE",
    ";0WHITE SQUARE WITH UPPER LEFT QUADRANT;3LOWER LEFT QUADRANT;4RIGHT QUADRANT",
    ";3UPPER RIGHT QUADRANT;1CIRCLE WITH UPPER LEFT QUADRANT;3LOWER LEFT QUADRANT;4RIGHT QUADRANT",
    ";3UPPER RIGHT QUADRANT;0UPPER LEFT TRIANGLE;1RIGHT TRIANGLE;0LOWER LEFT TRIANGLE",
    ";0WHITE MEDIUM SQUARE;0BLACK MEDIUM SQUARE;0WHITE MEDIUM SMALL SQUARE",
    ";0BLACK MEDIUM SMALL SQUARE;0LOWER RIGHT TRIANGLE;0BLACK SUN WITH RAYS;0CLOUD;0UMBRELLA",
    ";0SNOWMAN;0COMET;0BLACK STAR;0WHITE STAR;0LIGHTNING;0THUNDERSTORM;0SUN;0ASCENDING NODE",
    ";0DESCENDING NODE;0CONJUNCTION;0OPPOSITION;0BLACK TELEPHONE;0WHITE TELEPHONE;0BALLOT BOX",
    ";2WITH CHECK;3X;0SALTIRE;0UMBRELLA WITH RAIN DROPS;0HOT BEVERAGE;0WHITE SHOGI PIECE",
    ";0BLACK SHOGI PIECE;0SHAMROCK;0REVERSED ROTATED FLORAL HEART BULLET",
    ";0BLACK LEFT POINTING INDEX;1RIGHT POINTING INDEX;0WHITE LEFT POINTING INDEX",
    ";1UP POINTING INDEX;1RIGHT POINTING INDEX;1DOWN POINTING INDEX;0SKULL AND CROSSBONES",
    ";0CAUTION SIGN;0RADIOACTIVE SIGN;0BIOHAZARD SIGN;0CADUCEUS;0ANKH;0ORTHODOX CROSS;0CHI RHO",
    ";0CROSS OF LORRAINE;2JERUSALEM;0STAR AND CRESCENT;0FARSI SYMBOL;0ADI SHAKTI",
    ";0HAMMER AND SICKLE;0PEACE SYMBOL;0YIN YANG;0TRIGRAM FOR HEAVEN;2LAKE;2FIRE;2THUNDER;2WIND",
    ";2WATER;2MOUNTAIN;2EARTH;0WHEEL OF DHARMA;0WHITE FROWNING FACE;1SMILING FACE",
    ";0BLACK SMILING FACE;0WHITE SUN WITH RAYS;0FIRST QUARTER MOON;0LAST QUARTER MOON;0MERCURY",
    ";0FEMALE SIGN;0EARTH;0MALE SIGN;0JUPITER;0SATURN;0URANUS;0NEPTUNE;0PLUTO;0ARIES;0TAURUS",
    ";0GEMINI;0CANCER;0LEO;0VIRGO;0LIBRA;0SCORPIUS;0SAGITTARIUS;0CAPRICORN;0AQUARIUS;0PISCES",
    ";0WHITE CHESS KING;2QUEEN;2ROOK;2BISHOP;2KNIGHT;2PAWN;0BLACK CHESS KING;2QUEEN;2ROOK;2BISHOP",
    ";2KNIGHT;2PAWN;1SPADE SUIT;0WHITE HEART SUIT;1DIAMOND SUIT;0BLACK CLUB SUIT",
    ";0WHITE SPADE SUIT;0BLACK HEART SUIT;1DIAMOND SUIT;0WHITE CLUB SUIT;0HOT SPRINGS",
    ";0QUARTER NOTE;0EIGHTH NOTE;0BEAMED EIGHTH NOTES;1SIXTEENTH NOTES;0MUSIC FLAT SIGN",
    ";1NATURAL SIGN;1SHARP SIGN;0WEST SYRIAC CROSS;0EAST SYRIAC CROSS;0UNIVERSAL RECYCLING SYMBOL",
    ";0RECYCLING SYMBOL FOR TYPE-1 PLASTICS;3TYPE-2 PLASTICS;3TYPE-3 PLASTICS;3TYPE-4 PLASTICS",
    ";3TYPE-5 PLASTICS;3TYPE-6 PLASTICS;3TYPE-7 PLASTICS;3GENERIC MATERIALS",
    ";0BLACK UNIVERSAL RECYCLING SYMBOL;0RECYCLED PAPER SYMBOL;0PARTIALLY-RECYCLED PAPER SYMBOL",
    ";0PERMANENT PAPER SIGN"],
   [";0WHEELCHAIR SYMBOL;0DIE FACE-1;1FACE-2;1FACE-3;1FACE-4;1FACE-5;1FACE-6",
    ";0WHITE CIRCLE WITH DOT RIGHT;3TWO DOTS;0BLACK CIRCLE WITH WHITE DOT RIGHT;3TWO WHITE DOTS",
    ";0MONOGRAM FOR YANG;2YIN;0DIGRAM FOR GREATER YANG;2LESSER YIN;3YANG;2GREATER YIN;0WHITE FLAG",
    ";0BLACK FLAG;0HAMMER AND PICK;0ANCHOR;0CROSSED SWORDS;0STAFF OF AESCULAPIUS;0SCALES;0ALEMBIC",
    ";0FLOWER;0GEAR;0STAFF OF HERMES;0ATOM SYMBOL;0FLEUR-DE-LIS;0OUTLINED WHITE STAR",
    ";0THREE LINES CONVERGING RIGHT;3LEFT;0WARNING SIGN;0HIGH VOLTAGE SIGN;0DOUBLED FEMALE SIGN",
    ";1MALE SIGN;0INTERLOCKED FEMALE AND MALE SIGN;0MALE AND FEMALE SIGN;1WITH STROKE SIGN",
    ";3AND MALE AND FEMALE SIGN;0VERTICAL MALE WITH STROKE SIGN;0HORIZONTAL MALE WITH STROKE SIGN",
    ";0MEDIUM WHITE CIRCLE;1BLACK CIRCLE;1SMALL WHITE CIRCLE;0MARRIAGE SYMBOL;0DIVORCE SYMBOL",
    ";0UNMARRIED PARTNERSHIP SYMBOL;0COFFIN;0FUNERAL URN;0NEUTER;0CERES;0PALLAS;0JUNO;0VESTA",
    ";0CHIRON;0BLACK MOON LILITH;0SEXTILE;0SEMISEXTILE;0QUINCUNX;0SESQUIQUADRATE;0SOCCER BALL",
    ";0BASEBALL;0SQUARED KEY;0WHITE DRAUGHTS MAN;2KING;0BLACK DRAUGHTS MAN;2KING",
    ";0SNOWMAN WITHOUT SNOW;0SUN BEHIND CLOUD;0RAIN;0BLACK SNOWMAN;0THUNDER CLOUD AND RAIN",
    ";0TURNED WHITE SHOGI PIECE;1BLACK SHOGI PIECE;0WHITE DIAMOND IN SQUARE;0CROSSING LANES",
    ";0DISABLED CAR;0OPHIUCHUS;0PICK;0CAR SLIDING;0HELMET WITH WHITE CROSS",
    ";0CIRCLED CROSSING LANES;0CHAINS;0NO ENTRY;0ALTERNATE ONE-WAY LEFT WAY TRAFFIC",
    ";0BLACK TWO-WAY LEFT WAY TRAFFIC;0WHITE TWO-WAY LEFT WAY TRAFFIC;0BLACK LEFT LANE MERGE",
    ";0WHITE LEFT LANE MERGE;0DRIVE SLOW SIGN;0HEAVY WHITE DOWN-POINTING TRIANGLE",
    ";0LEFT CLOSED ENTRY;0SQUARED SALTIRE;0FALLING DIAGONAL IN WHITE CIRCLE IN BLACK SQUARE",
    ";0BLACK TRUCK;0RESTRICTED LEFT ENTRY-1;2ENTRY-2;0ASTRONOMICAL SYMBOL FOR URANUS",
    ";0HEAVY CIRCLE WITH STROKE AND TWO DOTS ABOVE;0PENTAGRAM;0RIGHT-HANDED INTERLACED PENTAGRAM",
    ";0LEFT-HANDED INTERLACED PENTAGRAM;0INVERTED PENTAGRAM;0BLACK CROSS ON SHIELD;0SHINTO SHRINE",
    ";0CHURCH;0CASTLE;0HISTORIC SITE;0GEAR WITHOUT HUB;1WITH HANDLES;0MAP SYMBOL FOR LIGHTHOUSE",
    ";0MOUNTAIN;0UMBRELLA ON GROUND;0FOUNTAIN;0FLAG IN HOLE;0FERRY;0SAILBOAT;0SQUARE FOUR CORNERS",
    ";0SKIER;0ICE SKATE;0PERSON WITH BALL;0TENT;0JAPANESE BANK SYMBOL;0HEADSTONE GRAVEYARD SYMBOL",
    ";0FUEL PUMP;0CUP ON BLACK SQUARE;0WHITE FLAG WITH HORIZONTAL MIDDLE BLACK STRIPE",
    ";0BLACK SAFETY SCISSORS;0UPPER BLADE SCISSORS;0BLACK SCISSORS;0LOWER BLADE SCISSORS",
    ";0WHITE SCISSORS;1HEAVY CHECK MARK;0TELEPHONE LOCATION SIGN;0TAPE DRIVE;0AIRPLANE;0ENVELOPE",
    ";0RAISED FIST;1HAND;0VICTORY HAND;0WRITING HAND;0LOWER RIGHT PENCIL;0PENCIL",
    ";0UPPER RIGHT PENCIL;0WHITE NIB;0BLACK NIB;0CHECK MARK;0HEAVY CHECK MARK;0MULTIPLICATION X",
    ";0HEAVY MULTIPLICATION X;0BALLOT X;0HEAVY BALLOT X;0OUTLINED GREEK CROSS;0HEAVY GREEK CROSS",
    ";0OPEN CENTRE CROSS;0HEAVY OPEN CENTRE CROSS;0LATIN CROSS;0SHADOWED WHITE LATIN CROSS",
    ";0OUTLINED LATIN CROSS;0MALTESE CROSS;0STAR OF DAVID;0FOUR TEARDROP-SPOKED ASTERISK",
    ";1BALLOON-SPOKED ASTERISK;0HEAVY FOUR BALLOON-SPOKED ASTERISK;0FOUR CLUB-SPOKED ASTERISK",
    ";0BLACK FOUR POINTED STAR;0WHITE FOUR POINTED STAR;0SPARKLES;0STRESS OUTLINED WHITE STAR",
    ";0CIRCLED WHITE STAR;0OPEN CENTRE BLACK STAR;0BLACK CENTRE WHITE STAR;0OUTLINED BLACK STAR",
    ";0HEAVY OUTLINED BLACK STAR;0PINWHEEL STAR;0SHADOWED WHITE STAR;0HEAVY ASTERISK",
    ";0OPEN CENTRE ASTERISK;0EIGHT SPOKED ASTERISK;1POINTED BLACK STAR;2PINWHEEL STAR",
    ";0SIX POINTED BLACK STAR;0EIGHT POINTED RECTILINEAR BLACK STAR",
    ";0HEAVY EIGHT POINTED RECTILINEAR BLACK STAR;0TWELVE POINTED BLACK STAR",
    ";0SIXTEEN POINTED ASTERISK;0TEARDROP-SPOKED ASTERISK;0OPEN CENTRE TEARDROP-SPOKED ASTERISK",
    ";0HEAVY TEARDROP-SPOKED ASTERISK;0SIX PETALLED BLACK AND WHITE FLORETTE;0BLACK FLORETTE",
    ";0WHITE FLORETTE;0EIGHT PETALLED OUTLINED BLACK FLORETTE",
    ";0CIRCLED OPEN CENTRE EIGHT POINTED STAR;0HEAVY TEARDROP-SPOKED PINWHEEL ASTERISK;0SNOWFLAKE",
    ";0TIGHT TRIFOLIATE SNOWFLAKE;0HEAVY CHEVRON SNOWFLAKE;0SPARKLE;0HEAVY SPARKLE",
    ";0BALLOON-SPOKED ASTERISK;0EIGHT TEARDROP-SPOKED PROPELLER ASTERISK",
    ";0HEAVY EIGHT TEARDROP-SPOKED PROPELLER ASTERISK;0CROSS MARK;0SHADOWED WHITE CIRCLE",
    ";0NEGATIVE SQUARED CROSS MARK;0LOWER RIGHT DROP-SHADOWED WHITE SQUARE",
    ";0UPPER RIGHT DROP-SHADOWED WHITE SQUARE;0LOWER RIGHT SHADOWED WHITE SQUARE",
    ";0UPPER RIGHT SHADOWED WHITE SQUARE;0BLACK QUESTION MARK ORNAMENT",
    ";0WHITE QUESTION MARK ORNAMENT;1EXCLAMATION MARK ORNAMENT;0BLACK DIAMOND MINUS WHITE X",
    ";0HEAVY EXCLAMATION MARK SYMBOL;0LIGHT VERTICAL BAR;0MEDIUM VERTICAL BAR;0HEAVY VERTICAL BAR",
    ";1SINGLE TURNED COMMA QUOTATION MARK ORNAMENT;2COMMA QUOTATION MARK ORNAMENT",
    ";1DOUBLE TURNED COMMA QUOTATION MARK ORNAMENT;2COMMA QUOTATION MARK ORNAMENT",
    ";1LOW SINGLE COMMA QUOTATION MARK ORNAMENT;2DOUBLE COMMA QUOTATION MARK ORNAMENT",
    ";0CURVED STEM PARAGRAPH SIGN ORNAMENT;0HEAVY EXCLAMATION MARK ORNAMENT",
    ";1HEART EXCLAMATION MARK ORNAMENT;1BLACK HEART;0ROTATED HEAVY BLACK HEART BULLET",
    ";0FLORAL HEART;0ROTATED FLORAL HEART BULLET;0MEDIUM LEFT PARENTHESIS ORNAMENT",
    ";1RIGHT PARENTHESIS ORNAMENT;1FLATTENED LEFT PARENTHESIS ORNAMENT",
    ";2RIGHT PARENTHESIS ORNAMENT;1LEFT-POINTING ANGLE BRACKET ORNAMENT",
    ";1RIGHT-POINTING ANGLE BRACKET ORNAMENT"],
   [";0HEAVY LEFT-POINTING ANGLE QUOTATION MARK ORNAMENT",
    ";1RIGHT-POINTING ANGLE QUOTATION MARK ORNAMENT;1LEFT-POINTING ANGLE BRACKET ORNAMENT",
    ";1RIGHT-POINTING ANGLE BRACKET ORNAMENT;0LIGHT LEFT TORTOISE SHELL BRACKET ORNAMENT",
    ";1RIGHT TORTOISE SHELL BRACKET ORNAMENT;0MEDIUM LEFT CURLY BRACKET ORNAMENT",
    ";1RIGHT CURLY BRACKET ORNAMENT;0DINGBAT NEGATIVE CIRCLED DIGIT ONE;4TWO;4THREE;4FOUR;4FIVE",
    ";4SIX;4SEVEN;4EIGHT;4NINE;3NUMBER TEN;1CIRCLED SANS-SERIF DIGIT ONE;4TWO;4THREE;4FOUR;4FIVE",
    ";4SIX;4SEVEN;4EIGHT;4NINE;3NUMBER TEN;1NEGATIVE CIRCLED SANS-SERIF DIGIT ONE;5TWO;5THREE",
    ";5FOUR;5FIVE;5SIX;5SEVEN;5EIGHT;5NINE;4NUMBER TEN;0HEAVY WIDE-HEADED RIGHTWARDS ARROW",
    ";1PLUS SIGN;1MINUS SIGN;1DIVISION SIGN;1SOUTH EAST ARROW;1RIGHTWARDS ARROW;1NORTH EAST ARROW",
    ";0DRAFTING POINT RIGHTWARDS ARROW;0HEAVY ROUND-TIPPED RIGHTWARDS ARROW",
    ";0TRIANGLE-HEADED RIGHTWARDS ARROW;0HEAVY TRIANGLE-HEADED RIGHTWARDS ARROW",
    ";0DASHED TRIANGLE-HEADED RIGHTWARDS ARROW;0HEAVY DASHED TRIANGLE-HEADED RIGHTWARDS ARROW",
    ";0BLACK RIGHTWARDS ARROW;0THREE-D TOP-LIGHTED RIGHTWARDS ARROWHEAD",
    ";1BOTTOM-LIGHTED RIGHTWARDS ARROWHEAD;0BLACK RIGHTWARDS ARROWHEAD",
    ";0HEAVY BLACK CURVED DOWNWARDS AND RIGHTWARDS ARROW;3UPWARDS AND RIGHTWARDS ARROW",
    ";0SQUAT BLACK RIGHTWARDS ARROW;0HEAVY CONCAVE-POINTED BLACK RIGHTWARDS ARROW",
    ";0RIGHT-SHADED WHITE RIGHTWARDS ARROW;0LEFT-SHADED WHITE RIGHTWARDS ARROW",
    ";0BACK-TILTED SHADOWED WHITE RIGHTWARDS ARROW;0FRONT-TILTED SHADOWED WHITE RIGHTWARDS ARROW",
    ";0HEAVY LOWER RIGHT-SHADOWED WHITE RIGHTWARDS ARROW",
    ";1UPPER RIGHT-SHADOWED WHITE RIGHTWARDS ARROW",
    ";0NOTCHED LOWER RIGHT-SHADOWED WHITE RIGHTWARDS ARROW;0CURLY LOOP",
    ";0NOTCHED UPPER RIGHT-SHADOWED WHITE RIGHTWARDS ARROW;0CIRCLED HEAVY WHITE RIGHTWARDS ARROW",
    ";0WHITE-FEATHERED RIGHTWARDS ARROW;0BLACK-FEATHERED SOUTH EAST ARROW;1RIGHTWARDS ARROW",
    ";1NORTH EAST ARROW;0HEAVY BLACK-FEATHERED SOUTH EAST ARROW;2RIGHTWARDS ARROW",
    ";2NORTH EAST ARROW;0TEARDROP-BARBED RIGHTWARDS ARROW",
    ";0HEAVY TEARDROP-SHANKED RIGHTWARDS ARROW;0WEDGE-TAILED RIGHTWARDS ARROW",
    ";0HEAVY WEDGE-TAILED RIGHTWARDS ARROW;0OPEN-OUTLINED RIGHTWARDS ARROW;0DOUBLE CURLY LOOP",
    ";0THREE DIMENSIONAL ANGLE;0WHITE TRIANGLE CONTAINING SMALL WHITE TRIANGLE;0PERPENDICULAR",
    ";0OPEN SUBSET;1SUPERSET;0LEFT S-SHAPED BAG DELIMITER;0RIGHT S-SHAPED BAG DELIMITER",
    ";0OR WITH DOT INSIDE;0REVERSE SOLIDUS PRECEDING SUBSET;0SUPERSET PRECEDING SOLIDUS",
    ";0VERTICAL BAR WITH HORIZONTAL STROKE;0MATHEMATICAL RISING DIAGONAL;0LONG DIVISION",
    ";0MATHEMATICAL FALLING DIAGONAL;0SQUARED LOGICAL AND;2OR;0WHITE DIAMOND WITH CENTRED DOT",
    ";0AND WITH DOT;0ELEMENT OF OPENING UPWARDS;0LOWER RIGHT CORNER WITH DOT",
    ";0UPPER LEFT CORNER WITH DOT;0LEFT OUTER JOIN;0RIGHT OUTER JOIN;0FULL OUTER JOIN",
    ";0LARGE UP TACK;1DOWN TACK;0LEFT AND RIGHT DOUBLE TURNSTILE;3TACK;1MULTIMAP;0LONG RIGHT TACK",
    ";1LEFT TACK;0UP TACK WITH CIRCLE ABOVE;0LOZENGE DIVIDED BY HORIZONTAL RULE",
    ";0WHITE CONCAVE-SIDED DIAMOND;3WITH LEFTWARDS TICK;4RIGHTWARDS TICK",
    ";1SQUARE WITH LEFTWARDS TICK;3RIGHTWARDS TICK;0MATHEMATICAL LEFT WHITE SQUARE BRACKET",
    ";1RIGHT WHITE SQUARE BRACKET;1LEFT ANGLE BRACKET;1RIGHT ANGLE BRACKET",
    ";1LEFT DOUBLE ANGLE BRACKET;1RIGHT DOUBLE ANGLE BRACKET;1LEFT WHITE TORTOISE SHELL BRACKET",
    ";1RIGHT WHITE TORTOISE SHELL BRACKET;1LEFT FLATTENED PARENTHESIS",
    ";1RIGHT FLATTENED PARENTHESIS;0UPWARDS QUADRUPLE ARROW;0DOWNWARDS QUADRUPLE ARROW",
    ";0ANTICLOCKWISE GAPPED CIRCLE ARROW;0CLOCKWISE GAPPED CIRCLE ARROW",
    ";0RIGHT ARROW WITH CIRCLED PLUS;0LONG LEFTWARDS ARROW;1RIGHTWARDS ARROW;1LEFT RIGHT ARROW",
    ";1LEFTWARDS DOUBLE ARROW;1RIGHTWARDS DOUBLE ARROW;1LEFT RIGHT DOUBLE ARROW",
    ";1LEFTWARDS ARROW FROM BAR;1RIGHTWARDS ARROW FROM BAR;1LEFTWARDS DOUBLE ARROW FROM BAR",
    ";1RIGHTWARDS DOUBLE ARROW FROM BAR;2SQUIGGLE ARROW;0BRAILLE PATTERN BLANK;2DOTS-1;2DOTS-2",
    ";2DOTS-12;2DOTS-3;2DOTS-13;2DOTS-23;2DOTS-123;2DOTS-4;2DOTS-14;2DOTS-24;2DOTS-124;2DOTS-34",
    ";2DOTS-134;2DOTS-234;2DOTS-1234;2DOTS-5;2DOTS-15;2DOTS-25;2DOTS-125;2DOTS-35;2DOTS-135",
    ";2DOTS-235;2DOTS-1235;2DOTS-45;2DOTS-145;2DOTS-245;2DOTS-1245;2DOTS-345;2DOTS-1345",
    ";2DOTS-2345;2DOTS-12345;2DOTS-6;2DOTS-16;2DOTS-26;2DOTS-126;2DOTS-36;2DOTS-136;2DOTS-236",
    ";2DOTS-1236;2DOTS-46;2DOTS-146;2DOTS-246;2DOTS-1246;2DOTS-346;2DOTS-1346;2DOTS-2346",
    ";2DOTS-12346;2DOTS-56;2DOTS-156;2DOTS-256;2DOTS-1256;2DOTS-356;2DOTS-1356;2DOTS-2356",
    ";2DOTS-12356;2DOTS-456;2DOTS-1456;2DOTS-2456;2DOTS-12456;2DOTS-3456;2DOTS-13456;2DOTS-23456",
    ";2DOTS-123456;2DOTS-7;2DOTS-17;2DOTS-27;2DOTS-127;2DOTS-37;2DOTS-137;2DOTS-237;2DOTS-1237",
    ";2DOTS-47;2DOTS-147;2DOTS-247;2DOTS-1247;2DOTS-347;2DOTS-1347;2DOTS-2347;2DOTS-12347",
    ";2DOTS-57;2DOTS-157;2DOTS-257;2DOTS-1257;2DOTS-357;2DOTS-1357;2DOTS-2357;2DOTS-12357",
    ";2DOTS-457;2DOTS-1457;2DOTS-2457;2DOTS-12457;2DOTS-3457;2DOTS-13457;2DOTS-23457;2DOTS-123457",
    ";2DOTS-67;2DOTS-167;2DOTS-267;2DOTS-1267;2DOTS-367;2DOTS-1367;2DOTS-2367;2DOTS-12367",
    ";2DOTS-467;2DOTS-1467;2DOTS-2467;2DOTS-12467;2DOTS-3467;2DOTS-13467;2DOTS-23467;2DOTS-123467",
    ";2DOTS-567"],
   [";2DOTS-1567;2DOTS-2567;2DOTS-12567;2DOTS-3567;2DOTS-13567;2DOTS-23567;2DOTS-123567",
    ";2DOTS-4567;2DOTS-14567;2DOTS-24567;2DOTS-124567;2DOTS-34567;2DOTS-134567;2DOTS-234567",
    ";2DOTS-1234567;2DOTS-8;2DOTS-18;2DOTS-28;2DOTS-128;2DOTS-38;2DOTS-138;2DOTS-238;2DOTS-1238",
    ";2DOTS-48;2DOTS-148;2DOTS-248;2DOTS-1248;2DOTS-348;2DOTS-1348;2DOTS-2348;2DOTS-12348",
    ";2DOTS-58;2DOTS-158;2DOTS-258;2DOTS-1258;2DOTS-358;2DOTS-1358;2DOTS-2358;2DOTS-12358",
    ";2DOTS-458;2DOTS-1458;2DOTS-2458;2DOTS-12458;2DOTS-3458;2DOTS-13458;2DOTS-23458;2DOTS-123458",
    ";2DOTS-68;2DOTS-168;2DOTS-268;2DOTS-1268;2DOTS-368;2DOTS-1368;2DOTS-2368;2DOTS-12368",
    ";2DOTS-468;2DOTS-1468;2DOTS-2468;2DOTS-12468;2DOTS-3468;2DOTS-13468;2DOTS-23468;2DOTS-123468",
    ";2DOTS-568;2DOTS-1568;2DOTS-2568;2DOTS-12568;2DOTS-3568;2DOTS-13568;2DOTS-23568;2DOTS-123568",
    ";2DOTS-4568;2DOTS-14568;2DOTS-24568;2DOTS-124568;2DOTS-34568;2DOTS-134568;2DOTS-234568",
    ";2DOTS-1234568;2DOTS-78;2DOTS-178;2DOTS-278;2DOTS-1278;2DOTS-378;2DOTS-1378;2DOTS-2378",
    ";2DOTS-12378;2DOTS-478;2DOTS-1478;2DOTS-2478;2DOTS-12478;2DOTS-3478;2DOTS-13478;2DOTS-23478",
    ";2DOTS-123478;2DOTS-578;2DOTS-1578;2DOTS-2578;2DOTS-12578;2DOTS-3578;2DOTS-13578;2DOTS-23578",
    ";2DOTS-123578;2DOTS-4578;2DOTS-14578;2DOTS-24578;2DOTS-124578;2DOTS-34578;2DOTS-134578",
    ";2DOTS-234578;2DOTS-1234578;2DOTS-678;2DOTS-1678;2DOTS-2678;2DOTS-12678;2DOTS-3678",
    ";2DOTS-13678;2DOTS-23678;2DOTS-123678;2DOTS-4678;2DOTS-14678;2DOTS-24678;2DOTS-124678",
    ";2DOTS-34678;2DOTS-134678;2DOTS-234678;2DOTS-1234678;2DOTS-5678;2DOTS-15678;2DOTS-25678",
    ";2DOTS-125678;2DOTS-35678;2DOTS-135678;2DOTS-235678;2DOTS-1235678;2DOTS-45678;2DOTS-145678",
    ";2DOTS-245678;2DOTS-1245678;2DOTS-345678;2DOTS-1345678;2DOTS-2345678;2DOTS-12345678",
    ";0RIGHTWARDS TWO-HEADED ARROW WITH VERTICAL STROKE;4DOUBLE VERTICAL STROKE",
    ";0LEFTWARDS DOUBLE ARROW WITH VERTICAL STROKE;0RIGHTWARDS DOUBLE ARROW WITH VERTICAL STROKE",
    ";0LEFT RIGHT DOUBLE ARROW WITH VERTICAL STROKE;0RIGHTWARDS TWO-HEADED ARROW FROM BAR",
    ";0LEFTWARDS DOUBLE ARROW FROM BAR;0RIGHTWARDS DOUBLE ARROW FROM BAR",
    ";0DOWNWARDS ARROW WITH HORIZONTAL STROKE;0UPWARDS ARROW WITH HORIZONTAL STROKE;1TRIPLE ARROW",
    ";0DOWNWARDS TRIPLE ARROW;0LEFTWARDS DOUBLE DASH ARROW;0RIGHTWARDS DOUBLE DASH ARROW",
    ";0LEFTWARDS TRIPLE DASH ARROW;0RIGHTWARDS TRIPLE DASH ARROW;1TWO-HEADED TRIPLE DASH ARROW",
    ";1ARROW WITH DOTTED STEM;0UPWARDS ARROW TO BAR;0DOWNWARDS ARROW TO BAR",
    ";0RIGHTWARDS ARROW WITH TAIL WITH VERTICAL STROKE;5DOUBLE VERTICAL STROKE",
    ";1TWO-HEADED ARROW WITH TAIL;5WITH VERTICAL STROKE;6DOUBLE VERTICAL STROKE",
    ";0LEFTWARDS ARROW-TAIL;0RIGHTWARDS ARROW-TAIL;0LEFTWARDS DOUBLE ARROW-TAIL",
    ";0RIGHTWARDS DOUBLE ARROW-TAIL;0LEFTWARDS ARROW TO BLACK DIAMOND",
    ";0RIGHTWARDS ARROW TO BLACK DIAMOND;0LEFTWARDS ARROW FROM BAR TO BLACK DIAMOND",
    ";0RIGHTWARDS ARROW FROM BAR TO BLACK DIAMOND;0NORTH WEST AND SOUTH EAST ARROW",
    ";1EAST AND SOUTH WEST ARROW;1WEST ARROW WITH HOOK;1EAST ARROW WITH HOOK",
    ";0SOUTH EAST ARROW WITH HOOK;1WEST ARROW WITH HOOK;0NORTH WEST ARROW AND NORTH EAST ARROW",
    ";1EAST ARROW AND SOUTH EAST ARROW;0SOUTH EAST ARROW AND SOUTH WEST ARROW",
    ";1WEST ARROW AND NORTH WEST ARROW;0RISING DIAGONAL CROSSING FALLING DIAGONAL",
    ";0FALLING DIAGONAL CROSSING RISING DIAGONAL;0SOUTH EAST ARROW CROSSING NORTH EAST ARROW",
    ";0NORTH EAST ARROW CROSSING SOUTH EAST ARROW;0FALLING DIAGONAL CROSSING NORTH EAST ARROW",
    ";0RISING DIAGONAL CROSSING SOUTH EAST ARROW;0NORTH EAST ARROW CROSSING NORTH WEST ARROW",
    ";1WEST ARROW CROSSING NORTH EAST ARROW;0WAVE ARROW POINTING DIRECTLY RIGHT",
    ";0ARROW POINTING RIGHTWARDS THEN CURVING UPWARDS;5DOWNWARDS",
    ";2DOWNWARDS THEN CURVING LEFTWARDS;5RIGHTWARDS;0RIGHT-SIDE ARC CLOCKWISE ARROW",
    ";0LEFT-SIDE ARC ANTICLOCKWISE ARROW;0TOP ARC ANTICLOCKWISE ARROW",
    ";0BOTTOM ARC ANTICLOCKWISE ARROW;0TOP ARC CLOCKWISE ARROW WITH MINUS",
    ";2ANTICLOCKWISE ARROW WITH PLUS;0LOWER RIGHT SEMICIRCULAR CLOCKWISE ARROW",
    ";1LEFT SEMICIRCULAR ANTICLOCKWISE ARROW;0ANTICLOCKWISE CLOSED CIRCLE ARROW",
    ";0CLOCKWISE CLOSED CIRCLE ARROW;0RIGHTWARDS ARROW ABOVE SHORT LEFTWARDS ARROW",
    ";0LEFTWARDS ARROW ABOVE SHORT RIGHTWARDS ARROW;0SHORT RIGHTWARDS ARROW ABOVE LEFTWARDS ARROW",
    ";0RIGHTWARDS ARROW WITH PLUS BELOW;0LEFTWARDS ARROW WITH PLUS BELOW",
    ";0RIGHTWARDS ARROW THROUGH X;0LEFT RIGHT ARROW THROUGH SMALL CIRCLE",
    ";0UPWARDS TWO-HEADED ARROW FROM SMALL CIRCLE;0LEFT BARB UP RIGHT BARB DOWN HARPOON",
    ";2DOWN RIGHT BARB UP HARPOON;0UP BARB RIGHT DOWN BARB LEFT HARPOON",
    ";2LEFT DOWN BARB RIGHT HARPOON;0LEFT BARB UP RIGHT BARB UP HARPOON",
    ";0UP BARB RIGHT DOWN BARB RIGHT HARPOON;0LEFT BARB DOWN RIGHT BARB DOWN HARPOON",
    ";0UP BARB LEFT DOWN BARB LEFT HARPOON;0LEFTWARDS HARPOON WITH BARB UP TO BAR",
    ";0RIGHTWARDS HARPOON WITH BARB UP TO BAR;0UPWARDS HARPOON WITH BARB RIGHT TO BAR",
    ";0DOWNWARDS HARPOON WITH BARB RIGHT TO BAR;0LEFTWARDS HARPOON WITH BARB DOWN TO BAR",
    ";0RIGHTWARDS HARPOON WITH BARB DOWN TO BAR;0UPWARDS HARPOON WITH BARB LEFT TO BAR",
    ";0DOWNWARDS HARPOON WITH BARB LEFT TO BAR;0LEFTWARDS HARPOON WITH BARB UP FROM BAR",
    ";0RIGHTWARDS HARPOON WITH BARB UP FROM BAR"],
   [";0UPWARDS HARPOON WITH BARB RIGHT FROM BAR;0DOWNWARDS HARPOON WITH BARB RIGHT FROM BAR",
    ";0LEFTWARDS HARPOON WITH BARB DOWN FROM BAR;0RIGHTWARDS HARPOON WITH BARB DOWN FROM BAR",
    ";0UPWARDS HARPOON WITH BARB LEFT FROM BAR;0DOWNWARDS HARPOON WITH BARB LEFT FROM BAR",
    ";0LEFTWARDS HARPOON WITH BARB UP ABOVE LEFTWARDS HARPOON WITH BARB DOWN",
    ";0UPWARDS HARPOON WITH BARB LEFT BESIDE UPWARDS HARPOON WITH BARB RIGHT",
    ";0RIGHTWARDS HARPOON WITH BARB UP ABOVE RIGHTWARDS HARPOON WITH BARB DOWN",
    ";0DOWNWARDS HARPOON WITH BARB LEFT BESIDE DOWNWARDS HARPOON WITH BARB RIGHT",
    ";0LEFTWARDS HARPOON WITH BARB UP ABOVE RIGHTWARDS HARPOON WITH BARB UP",
    ";4DOWN ABOVE RIGHTWARDS HARPOON WITH BARB DOWN",
    ";0RIGHTWARDS HARPOON WITH BARB UP ABOVE LEFTWARDS HARPOON WITH BARB UP",
    ";4DOWN ABOVE LEFTWARDS HARPOON WITH BARB DOWN",
    ";0LEFTWARDS HARPOON WITH BARB UP ABOVE LONG DASH;4DOWN BELOW LONG DASH",
    ";0RIGHTWARDS HARPOON WITH BARB UP ABOVE LONG DASH;4DOWN BELOW LONG DASH",
    ";0UPWARDS HARPOON WITH BARB LEFT BESIDE DOWNWARDS HARPOON WITH BARB RIGHT",
    ";0DOWNWARDS HARPOON WITH BARB LEFT BESIDE UPWARDS HARPOON WITH BARB RIGHT",
    ";0RIGHT DOUBLE ARROW WITH ROUNDED HEAD;0EQUALS SIGN ABOVE RIGHTWARDS ARROW",
    ";0TILDE OPERATOR ABOVE RIGHTWARDS ARROW;0LEFTWARDS ARROW ABOVE TILDE OPERATOR",
    ";0RIGHTWARDS ARROW ABOVE TILDE OPERATOR;3ALMOST EQUAL TO;0LESS-THAN ABOVE LEFTWARDS ARROW",
    ";0LEFTWARDS ARROW THROUGH LESS-THAN;0GREATER-THAN ABOVE RIGHTWARDS ARROW",
    ";0SUBSET ABOVE RIGHTWARDS ARROW;0LEFTWARDS ARROW THROUGH SUBSET",
    ";0SUPERSET ABOVE LEFTWARDS ARROW;0LEFT FISH TAIL;0RIGHT FISH TAIL;0UP FISH TAIL",
    ";0DOWN FISH TAIL;0TRIPLE VERTICAL BAR DELIMITER;0Z NOTATION SPOT;2TYPE COLON",
    ";0LEFT WHITE CURLY BRACKET;0RIGHT WHITE CURLY BRACKET;0LEFT WHITE PARENTHESIS",
    ";0RIGHT WHITE PARENTHESIS;0Z NOTATION LEFT IMAGE BRACKET;2RIGHT IMAGE BRACKET",
    ";2LEFT BINDING BRACKET;2RIGHT BINDING BRACKET;0LEFT SQUARE BRACKET WITH UNDERBAR",
    ";0RIGHT SQUARE BRACKET WITH UNDERBAR;0LEFT SQUARE BRACKET WITH TICK IN TOP CORNER",
    ";0RIGHT SQUARE BRACKET WITH TICK IN BOTTOM CORNER",
    ";0LEFT SQUARE BRACKET WITH TICK IN BOTTOM CORNER",
    ";0RIGHT SQUARE BRACKET WITH TICK IN TOP CORNER;0LEFT ANGLE BRACKET WITH DOT",
    ";0RIGHT ANGLE BRACKET WITH DOT;0LEFT ARC LESS-THAN BRACKET;0RIGHT ARC GREATER-THAN BRACKET",
    ";0DOUBLE LEFT ARC GREATER-THAN BRACKET;1RIGHT ARC LESS-THAN BRACKET",
    ";0LEFT BLACK TORTOISE SHELL BRACKET;0RIGHT BLACK TORTOISE SHELL BRACKET;0DOTTED FENCE",
    ";0VERTICAL ZIGZAG LINE;0MEASURED ANGLE OPENING LEFT;0RIGHT ANGLE VARIANT WITH SQUARE",
    ";0MEASURED RIGHT ANGLE WITH DOT;0ANGLE WITH S INSIDE;0ACUTE ANGLE",
    ";0SPHERICAL ANGLE OPENING LEFT;3UP;0TURNED ANGLE;0REVERSED ANGLE;0ANGLE WITH UNDERBAR",
    ";0REVERSED ANGLE WITH UNDERBAR;0OBLIQUE ANGLE OPENING UP;3DOWN",
    ";0MEASURED ANGLE WITH OPEN ARM ENDING IN ARROW POINTING UP AND RIGHT;9UP AND LEFT",
    ";9DOWN AND RIGHT;9DOWN AND LEFT;9RIGHT AND UP;9LEFT AND UP;9RIGHT AND DOWN;9LEFT AND DOWN",
    ";0REVERSED EMPTY SET;0EMPTY SET WITH OVERBAR;3SMALL CIRCLE ABOVE;3RIGHT ARROW ABOVE",
    ";3LEFT ARROW ABOVE;0CIRCLE WITH HORIZONTAL BAR;0CIRCLED VERTICAL BAR;1PARALLEL",
    ";1REVERSE SOLIDUS;1PERPENDICULAR",
    ";0CIRCLE DIVIDED BY HORIZONTAL BAR AND TOP HALF DIVIDED BY VERTICAL BAR;1WITH SUPERIMPOSED X",
    ";0CIRCLED ANTICLOCKWISE-ROTATED DIVISION SIGN;0UP ARROW THROUGH CIRCLE;0CIRCLED WHITE BULLET",
    ";1BULLET;1LESS-THAN;1GREATER-THAN;0CIRCLE WITH SMALL CIRCLE TO THE RIGHT",
    ";2TWO HORIZONTAL STROKES TO THE RIGHT;0SQUARED RISING DIAGONAL SLASH;1FALLING DIAGONAL SLASH",
    ";1ASTERISK;1SMALL CIRCLE;1SQUARE;0TWO JOINED SQUARES;0TRIANGLE WITH DOT ABOVE;2UNDERBAR",
    ";0S IN TRIANGLE;0TRIANGLE WITH SERIFS AT BOTTOM;0RIGHT TRIANGLE ABOVE LEFT TRIANGLE",
    ";0LEFT TRIANGLE BESIDE VERTICAL BAR;0VERTICAL BAR BESIDE RIGHT TRIANGLE",
    ";0BOWTIE WITH LEFT HALF BLACK;2RIGHT HALF BLACK;0BLACK BOWTIE;0TIMES WITH LEFT HALF BLACK",
    ";2RIGHT HALF BLACK;0WHITE HOURGLASS;0BLACK HOURGLASS;0LEFT WIGGLY FENCE;0RIGHT WIGGLY FENCE",
    ";0LEFT DOUBLE WIGGLY FENCE;0RIGHT DOUBLE WIGGLY FENCE;0INCOMPLETE INFINITY",
    ";0TIE OVER INFINITY;0INFINITY NEGATED WITH VERTICAL BAR;0DOUBLE-ENDED MULTIMAP",
    ";0SQUARE WITH CONTOURED OUTLINE;0INCREASES AS;0SHUFFLE PRODUCT",
    ";0EQUALS SIGN AND SLANTED PARALLEL;5WITH TILDE ABOVE;0IDENTICAL TO AND SLANTED PARALLEL",
    ";0GLEICH STARK;0THERMODYNAMIC;0DOWN-POINTING TRIANGLE WITH LEFT HALF BLACK;3RIGHT HALF BLACK",
    ";0BLACK DIAMOND WITH DOWN ARROW;1LOZENGE;0WHITE CIRCLE WITH DOWN ARROW",
    ";0BLACK CIRCLE WITH DOWN ARROW;0ERROR-BARRED WHITE SQUARE;1BLACK SQUARE;1WHITE DIAMOND",
    ";1BLACK DIAMOND;1WHITE CIRCLE;1BLACK CIRCLE;0RULE-DELAYED;0REVERSE SOLIDUS OPERATOR",
    ";0SOLIDUS WITH OVERBAR;0REVERSE SOLIDUS WITH HORIZONTAL STROKE;0BIG SOLIDUS;1REVERSE SOLIDUS",
    ";0DOUBLE PLUS;0TRIPLE PLUS;0LEFT-POINTING CURVED ANGLE BRACKET",
    ";0RIGHT-POINTING CURVED ANGLE BRACKET"],
   [";0TINY;0MINY;0N-ARY CIRCLED DOT OPERATOR;2PLUS OPERATOR;2TIMES OPERATOR",
    ";1UNION OPERATOR WITH DOT;4PLUS;1SQUARE INTERSECTION OPERATOR;2UNION OPERATOR",
    ";0TWO LOGICAL AND OPERATOR;2OR OPERATOR;0N-ARY TIMES OPERATOR;0MODULO TWO SUM",
    ";0SUMMATION WITH INTEGRAL;0QUADRUPLE INTEGRAL OPERATOR;0FINITE PART INTEGRAL",
    ";0INTEGRAL WITH DOUBLE STROKE;1AVERAGE WITH SLASH;0CIRCULATION FUNCTION",
    ";0ANTICLOCKWISE INTEGRATION;0LINE INTEGRATION WITH RECTANGULAR PATH AROUND POLE",
    ";3SEMICIRCULAR PATH AROUND POLE;2NOT INCLUDING THE POLE;0INTEGRAL AROUND A POINT OPERATOR",
    ";0QUATERNION INTEGRAL OPERATOR;0INTEGRAL WITH LEFTWARDS ARROW WITH HOOK;2TIMES SIGN",
    ";2INTERSECTION;2UNION;2OVERBAR;2UNDERBAR;0JOIN;0LARGE LEFT TRIANGLE OPERATOR",
    ";0Z NOTATION SCHEMA COMPOSITION;3PIPING;3PROJECTION;0PLUS SIGN WITH SMALL CIRCLE ABOVE",
    ";3CIRCUMFLEX ACCENT ABOVE;3TILDE ABOVE;3DOT BELOW;3TILDE BELOW;3SUBSCRIPT TWO",
    ";3BLACK TRIANGLE;0MINUS SIGN WITH COMMA ABOVE;3DOT BELOW;3FALLING DOTS;3RISING DOTS",
    ";0PLUS SIGN IN LEFT HALF CIRCLE;3RIGHT HALF CIRCLE;0VECTOR OR CROSS PRODUCT",
    ";0MULTIPLICATION SIGN WITH DOT ABOVE;3UNDERBAR;0SEMIDIRECT PRODUCT WITH BOTTOM CLOSED",
    ";0SMASH PRODUCT;0MULTIPLICATION SIGN IN LEFT HALF CIRCLE;3RIGHT HALF CIRCLE",
    ";0CIRCLED MULTIPLICATION SIGN WITH CIRCUMFLEX ACCENT;0MULTIPLICATION SIGN IN DOUBLE CIRCLE",
    ";0CIRCLED DIVISION SIGN;0PLUS SIGN IN TRIANGLE;0MINUS SIGN IN TRIANGLE",
    ";0MULTIPLICATION SIGN IN TRIANGLE;0INTERIOR PRODUCT;0RIGHTHAND INTERIOR PRODUCT",
    ";0Z NOTATION RELATIONAL COMPOSITION;0AMALGAMATION OR COPRODUCT;0INTERSECTION WITH DOT",
    ";0UNION WITH MINUS SIGN;2OVERBAR;0INTERSECTION WITH OVERBAR;2LOGICAL AND",
    ";0UNION WITH LOGICAL OR;1ABOVE INTERSECTION;0INTERSECTION ABOVE UNION",
    ";0UNION ABOVE BAR ABOVE INTERSECTION;0INTERSECTION ABOVE BAR ABOVE UNION",
    ";0UNION BESIDE AND JOINED WITH UNION;0INTERSECTION BESIDE AND JOINED WITH INTERSECTION",
    ";0CLOSED UNION WITH SERIFS;1INTERSECTION WITH SERIFS;0DOUBLE SQUARE INTERSECTION;2UNION",
    ";0CLOSED UNION WITH SERIFS AND SMASH PRODUCT;0LOGICAL AND WITH DOT ABOVE;1OR WITH DOT ABOVE",
    ";0DOUBLE LOGICAL AND;2OR;0TWO INTERSECTING LOGICAL AND;3OR;0SLOPING LARGE OR;2AND",
    ";0LOGICAL OR OVERLAPPING LOGICAL AND;1AND WITH MIDDLE STEM;1OR WITH MIDDLE STEM",
    ";1AND WITH HORIZONTAL DASH;1OR WITH HORIZONTAL DASH;1AND WITH DOUBLE OVERBAR;3UNDERBAR",
    ";3DOUBLE UNDERBAR;0SMALL VEE WITH UNDERBAR;0LOGICAL OR WITH DOUBLE OVERBAR;4UNDERBAR",
    ";0Z NOTATION DOMAIN ANTIRESTRICTION;2RANGE ANTIRESTRICTION;0EQUALS SIGN WITH DOT BELOW",
    ";0IDENTICAL WITH DOT ABOVE;0TRIPLE HORIZONTAL BAR WITH DOUBLE VERTICAL STROKE",
    ";4TRIPLE VERTICAL STROKE;0TILDE OPERATOR WITH DOT ABOVE;3RISING DOTS;0SIMILAR MINUS SIMILAR",
    ";0CONGRUENT WITH DOT ABOVE;0EQUALS WITH ASTERISK;0ALMOST EQUAL TO WITH CIRCUMFLEX ACCENT",
    ";0APPROXIMATELY EQUAL OR EQUAL TO;0EQUALS SIGN ABOVE PLUS SIGN;0PLUS SIGN ABOVE EQUALS SIGN",
    ";0EQUALS SIGN ABOVE TILDE OPERATOR;0DOUBLE COLON EQUAL;0TWO CONSECUTIVE EQUALS SIGNS",
    ";0THREE CONSECUTIVE EQUALS SIGNS;0EQUALS SIGN WITH TWO DOTS ABOVE AND TWO DOTS BELOW",
    ";0EQUIVALENT WITH FOUR DOTS ABOVE;0LESS-THAN WITH CIRCLE INSIDE",
    ";0GREATER-THAN WITH CIRCLE INSIDE;0LESS-THAN WITH QUESTION MARK ABOVE",
    ";0GREATER-THAN WITH QUESTION MARK ABOVE;0LESS-THAN OR SLANTED EQUAL TO",
    ";0GREATER-THAN OR SLANTED EQUAL TO;0LESS-THAN OR SLANTED EQUAL TO WITH DOT INSIDE",
    ";0GREATER-THAN OR SLANTED EQUAL TO WITH DOT INSIDE",
    ";0LESS-THAN OR SLANTED EQUAL TO WITH DOT ABOVE",
    ";0GREATER-THAN OR SLANTED EQUAL TO WITH DOT ABOVE",
    ";0LESS-THAN OR SLANTED EQUAL TO WITH DOT ABOVE RIGHT",
    ";0GREATER-THAN OR SLANTED EQUAL TO WITH DOT ABOVE LEFT;0LESS-THAN OR APPROXIMATE",
    ";0GREATER-THAN OR APPROXIMATE;0LESS-THAN AND SINGLE-LINE NOT EQUAL TO",
    ";0GREATER-THAN AND SINGLE-LINE NOT EQUAL TO;0LESS-THAN AND NOT APPROXIMATE",
    ";0GREATER-THAN AND NOT APPROXIMATE;0LESS-THAN ABOVE DOUBLE-LINE EQUAL ABOVE GREATER-THAN",
    ";0GREATER-THAN ABOVE DOUBLE-LINE EQUAL ABOVE LESS-THAN;0LESS-THAN ABOVE SIMILAR OR EQUAL",
    ";0GREATER-THAN ABOVE SIMILAR OR EQUAL;0LESS-THAN ABOVE SIMILAR ABOVE GREATER-THAN",
    ";0GREATER-THAN ABOVE SIMILAR ABOVE LESS-THAN",
    ";0LESS-THAN ABOVE GREATER-THAN ABOVE DOUBLE-LINE EQUAL",
    ";0GREATER-THAN ABOVE LESS-THAN ABOVE DOUBLE-LINE EQUAL",
    ";0LESS-THAN ABOVE SLANTED EQUAL ABOVE GREATER-THAN ABOVE SLANTED EQUAL",
    ";0GREATER-THAN ABOVE SLANTED EQUAL ABOVE LESS-THAN ABOVE SLANTED EQUAL",
    ";0SLANTED EQUAL TO OR LESS-THAN;4GREATER-THAN;4LESS-THAN WITH DOT INSIDE",
    ";4GREATER-THAN WITH DOT INSIDE;0DOUBLE-LINE EQUAL TO OR LESS-THAN;4GREATER-THAN",
    ";1SLANTED EQUAL TO OR LESS-THAN;5GREATER-THAN;0SIMILAR OR LESS-THAN;2GREATER-THAN",
    ";1ABOVE LESS-THAN ABOVE EQUALS SIGN;2GREATER-THAN ABOVE EQUALS SIGN;0DOUBLE NESTED LESS-THAN",
    ";2GREATER-THAN;2LESS-THAN WITH UNDERBAR;0GREATER-THAN OVERLAPPING LESS-THAN",
    ";1BESIDE LESS-THAN"],
   [";0LESS-THAN CLOSED BY CURVE;0GREATER-THAN CLOSED BY CURVE",
    ";0LESS-THAN CLOSED BY CURVE ABOVE SLANTED EQUAL",
    ";0GREATER-THAN CLOSED BY CURVE ABOVE SLANTED EQUAL;0SMALLER THAN;0LARGER THAN",
    ";0SMALLER THAN OR EQUAL TO;0LARGER THAN OR EQUAL TO;0EQUALS SIGN WITH BUMPY ABOVE",
    ";0PRECEDES ABOVE SINGLE-LINE EQUALS SIGN;0SUCCEEDS ABOVE SINGLE-LINE EQUALS SIGN",
    ";0PRECEDES ABOVE SINGLE-LINE NOT EQUAL TO;0SUCCEEDS ABOVE SINGLE-LINE NOT EQUAL TO",
    ";0PRECEDES ABOVE EQUALS SIGN;0SUCCEEDS ABOVE EQUALS SIGN;0PRECEDES ABOVE NOT EQUAL TO",
    ";0SUCCEEDS ABOVE NOT EQUAL TO;0PRECEDES ABOVE ALMOST EQUAL TO",
    ";0SUCCEEDS ABOVE ALMOST EQUAL TO;0PRECEDES ABOVE NOT ALMOST EQUAL TO",
    ";0SUCCEEDS ABOVE NOT ALMOST EQUAL TO;0DOUBLE PRECEDES;1SUCCEEDS;0SUBSET WITH DOT",
    ";0SUPERSET WITH DOT;0SUBSET WITH PLUS SIGN BELOW;0SUPERSET WITH PLUS SIGN BELOW",
    ";0SUBSET WITH MULTIPLICATION SIGN BELOW;0SUPERSET WITH MULTIPLICATION SIGN BELOW",
    ";0SUBSET OF OR EQUAL TO WITH DOT ABOVE;0SUPERSET OF OR EQUAL TO WITH DOT ABOVE",
    ";0SUBSET OF ABOVE EQUALS SIGN;0SUPERSET OF ABOVE EQUALS SIGN;0SUBSET OF ABOVE TILDE OPERATOR",
    ";0SUPERSET OF ABOVE TILDE OPERATOR;0SUBSET OF ABOVE ALMOST EQUAL TO",
    ";0SUPERSET OF ABOVE ALMOST EQUAL TO;0SUBSET OF ABOVE NOT EQUAL TO",
    ";0SUPERSET OF ABOVE NOT EQUAL TO;0SQUARE LEFT OPEN BOX OPERATOR;1RIGHT OPEN BOX OPERATOR",
    ";0CLOSED SUBSET;1SUPERSET;1SUBSET OR EQUAL TO;1SUPERSET OR EQUAL TO;0SUBSET ABOVE SUPERSET",
    ";0SUPERSET ABOVE SUBSET;0SUBSET ABOVE SUBSET;0SUPERSET ABOVE SUPERSET;1BESIDE SUBSET",
    ";2AND JOINED BY DASH WITH SUBSET;0ELEMENT OF OPENING DOWNWARDS;0PITCHFORK WITH TEE TOP",
    ";0TRANSVERSAL INTERSECTION;0FORKING;0NONFORKING;0SHORT LEFT TACK;1DOWN TACK;1UP TACK",
    ";0PERPENDICULAR WITH S;0VERTICAL BAR TRIPLE RIGHT TURNSTILE",
    ";0DOUBLE VERTICAL BAR LEFT TURNSTILE;0VERTICAL BAR DOUBLE LEFT TURNSTILE",
    ";0DOUBLE VERTICAL BAR DOUBLE LEFT TURNSTILE;0LONG DASH FROM LEFT MEMBER OF DOUBLE VERTICAL",
    ";0SHORT DOWN TACK WITH OVERBAR;1UP TACK WITH UNDERBAR;3ABOVE SHORT DOWN TACK",
    ";0DOUBLE DOWN TACK;1UP TACK;1STROKE NOT SIGN;0REVERSED DOUBLE STROKE NOT SIGN",
    ";0DOES NOT DIVIDE WITH REVERSED NEGATION SLASH;0VERTICAL LINE WITH CIRCLE ABOVE;4BELOW",
    ";0DOWN TACK WITH CIRCLE BELOW;0PARALLEL WITH HORIZONTAL STROKE;2TILDE OPERATOR",
    ";0TRIPLE VERTICAL BAR BINARY RELATION;3WITH HORIZONTAL STROKE;1COLON OPERATOR",
    ";1NESTED LESS-THAN;2GREATER-THAN;0DOUBLE-LINE SLANTED LESS-THAN OR EQUAL TO",
    ";2GREATER-THAN OR EQUAL TO;0TRIPLE SOLIDUS BINARY RELATION",
    ";0LARGE TRIPLE VERTICAL BAR OPERATOR;0DOUBLE SOLIDUS OPERATOR;0WHITE VERTICAL BAR",
    ";0N-ARY WHITE VERTICAL BAR;0NORTH EAST WHITE ARROW;1WEST WHITE ARROW;0SOUTH EAST WHITE ARROW",
    ";1WEST WHITE ARROW;0LEFT RIGHT WHITE ARROW;0LEFTWARDS BLACK ARROW;0UPWARDS BLACK ARROW",
    ";0DOWNWARDS BLACK ARROW;0NORTH EAST BLACK ARROW;1WEST BLACK ARROW;0SOUTH EAST BLACK ARROW",
    ";1WEST BLACK ARROW;0LEFT RIGHT BLACK ARROW;0UP DOWN BLACK ARROW",
    ";0RIGHTWARDS ARROW WITH TIP DOWNWARDS;4UPWARDS;0LEFTWARDS ARROW WITH TIP DOWNWARDS;4UPWARDS",
    ";0SQUARE WITH TOP HALF BLACK;2BOTTOM HALF BLACK;2UPPER RIGHT DIAGONAL HALF BLACK",
    ";2LOWER LEFT DIAGONAL HALF BLACK;0DIAMOND WITH LEFT HALF BLACK;2RIGHT HALF BLACK",
    ";2TOP HALF BLACK;2BOTTOM HALF BLACK;0DOTTED SQUARE;0BLACK LARGE SQUARE;0WHITE LARGE SQUARE",
    ";0BLACK VERY SMALL SQUARE;0WHITE VERY SMALL SQUARE;0BLACK PENTAGON;0WHITE PENTAGON;1HEXAGON",
    ";0BLACK HEXAGON;0HORIZONTAL BLACK HEXAGON;0BLACK LARGE CIRCLE;1MEDIUM DIAMOND",
    ";0WHITE MEDIUM DIAMOND;0BLACK MEDIUM LOZENGE;0WHITE MEDIUM LOZENGE;0BLACK SMALL DIAMOND",
    ";2LOZENGE;0WHITE SMALL LOZENGE;0BLACK HORIZONTAL ELLIPSE;0WHITE HORIZONTAL ELLIPSE",
    ";0BLACK VERTICAL ELLIPSE;0WHITE VERTICAL ELLIPSE;0LEFT ARROW WITH SMALL CIRCLE",
    ";0THREE LEFTWARDS ARROWS;0LEFT ARROW WITH CIRCLED PLUS;0LONG LEFTWARDS SQUIGGLE ARROW",
    ";0LEFTWARDS TWO-HEADED ARROW WITH VERTICAL STROKE;4DOUBLE VERTICAL STROKE;3FROM BAR",
    ";2TRIPLE DASH ARROW;1ARROW WITH DOTTED STEM;3TAIL WITH VERTICAL STROKE",
    ";5DOUBLE VERTICAL STROKE;1TWO-HEADED ARROW WITH TAIL;5WITH VERTICAL STROKE",
    ";6DOUBLE VERTICAL STROKE;1ARROW THROUGH X;0WAVE ARROW POINTING DIRECTLY LEFT",
    ";0EQUALS SIGN ABOVE LEFTWARDS ARROW;0REVERSE TILDE OPERATOR ABOVE LEFTWARDS ARROW",
    ";0LEFTWARDS ARROW ABOVE REVERSE ALMOST EQUAL TO;0RIGHTWARDS ARROW THROUGH GREATER-THAN",
    ";3SUPERSET;0LEFTWARDS QUADRUPLE ARROW;0RIGHTWARDS QUADRUPLE ARROW",
    ";0REVERSE TILDE OPERATOR ABOVE RIGHTWARDS ARROW",
    ";0RIGHTWARDS ARROW ABOVE REVERSE ALMOST EQUAL TO;0TILDE OPERATOR ABOVE LEFTWARDS ARROW",
    ";0LEFTWARDS ARROW ABOVE ALMOST EQUAL TO;3REVERSE TILDE OPERATOR",
    ";0RIGHTWARDS ARROW ABOVE REVERSE TILDE OPERATOR;0DOWNWARDS TRIANGLE-HEADED ZIGZAG ARROW",
    ";0SHORT SLANTED NORTH ARROW;1BACKSLANTED SOUTH ARROW;0WHITE MEDIUM STAR;0BLACK SMALL STAR",
    ";0WHITE SMALL STAR;0BLACK RIGHT-POINTING PENTAGON;0WHITE RIGHT-POINTING PENTAGON",
    ";0HEAVY LARGE CIRCLE;1OVAL WITH OVAL INSIDE;1CIRCLE WITH CIRCLE INSIDE;1CIRCLE",
    ";1CIRCLED SALTIRE"],
   [";0SLANTED NORTH ARROW WITH HOOKED HEAD;0BACKSLANTED SOUTH ARROW WITH HOOKED TAIL",
    ";0SLANTED NORTH ARROW WITH HORIZONTAL TAIL;0BACKSLANTED SOUTH ARROW WITH HORIZONTAL TAIL",
    ";0BENT ARROW POINTING DOWNWARDS THEN NORTH EAST",
    ";0SHORT BENT ARROW POINTING DOWNWARDS THEN NORTH EAST;0LEFTWARDS TRIANGLE-HEADED ARROW",
    ";0UPWARDS TRIANGLE-HEADED ARROW;0RIGHTWARDS TRIANGLE-HEADED ARROW",
    ";0DOWNWARDS TRIANGLE-HEADED ARROW;0LEFT RIGHT TRIANGLE-HEADED ARROW",
    ";0UP DOWN TRIANGLE-HEADED ARROW;0NORTH WEST TRIANGLE-HEADED ARROW",
    ";1EAST TRIANGLE-HEADED ARROW;0SOUTH EAST TRIANGLE-HEADED ARROW;1WEST TRIANGLE-HEADED ARROW",
    ";0LEFTWARDS TRIANGLE-HEADED DASHED ARROW;0UPWARDS TRIANGLE-HEADED DASHED ARROW",
    ";0RIGHTWARDS TRIANGLE-HEADED DASHED ARROW;0DOWNWARDS TRIANGLE-HEADED DASHED ARROW",
    ";0CLOCKWISE TRIANGLE-HEADED OPEN CIRCLE ARROW",
    ";0ANTICLOCKWISE TRIANGLE-HEADED OPEN CIRCLE ARROW;0LEFTWARDS TRIANGLE-HEADED ARROW TO BAR",
    ";0UPWARDS TRIANGLE-HEADED ARROW TO BAR;0RIGHTWARDS TRIANGLE-HEADED ARROW TO BAR",
    ";0DOWNWARDS TRIANGLE-HEADED ARROW TO BAR;@2B76;0NORTH WEST TRIANGLE-HEADED ARROW TO BAR",
    ";1EAST TRIANGLE-HEADED ARROW TO BAR;0SOUTH EAST TRIANGLE-HEADED ARROW TO BAR",
    ";1WEST TRIANGLE-HEADED ARROW TO BAR",
    ";0LEFTWARDS TRIANGLE-HEADED ARROW WITH DOUBLE HORIZONTAL STROKE",
    ";0UPWARDS TRIANGLE-HEADED ARROW WITH DOUBLE HORIZONTAL STROKE",
    ";0RIGHTWARDS TRIANGLE-HEADED ARROW WITH DOUBLE HORIZONTAL STROKE",
    ";0DOWNWARDS TRIANGLE-HEADED ARROW WITH DOUBLE HORIZONTAL STROKE;0HORIZONTAL TAB KEY",
    ";0VERTICAL TAB KEY;0LEFTWARDS TRIANGLE-HEADED ARROW OVER RIGHTWARDS TRIANGLE-HEADED ARROW",
    ";0UPWARDS TRIANGLE-HEADED ARROW LEFTWARDS OF DOWNWARDS TRIANGLE-HEADED ARROW",
    ";0RIGHTWARDS TRIANGLE-HEADED ARROW OVER LEFTWARDS TRIANGLE-HEADED ARROW",
    ";0DOWNWARDS TRIANGLE-HEADED ARROW LEFTWARDS OF UPWARDS TRIANGLE-HEADED ARROW",
    ";0LEFTWARDS TRIANGLE-HEADED PAIRED ARROWS;0UPWARDS TRIANGLE-HEADED PAIRED ARROWS",
    ";0RIGHTWARDS TRIANGLE-HEADED PAIRED ARROWS;0DOWNWARDS TRIANGLE-HEADED PAIRED ARROWS",
    ";0LEFTWARDS BLACK CIRCLED WHITE ARROW;0UPWARDS BLACK CIRCLED WHITE ARROW",
    ";0RIGHTWARDS BLACK CIRCLED WHITE ARROW;0DOWNWARDS BLACK CIRCLED WHITE ARROW",
    ";0ANTICLOCKWISE TRIANGLE-HEADED RIGHT U-SHAPED ARROW;2BOTTOM U-SHAPED ARROW",
    ";2LEFT U-SHAPED ARROW;2TOP U-SHAPED ARROW;0RETURN LEFT;1RIGHT;0NEWLINE LEFT;1RIGHT",
    ";0FOUR CORNER ARROWS CIRCLING ANTICLOCKWISE;0RIGHTWARDS BLACK ARROW;@2B97",
    ";0SYMBOL FOR TYPE A ELECTRONICS;0THREE-D TOP-LIGHTED LEFTWARDS EQUILATERAL ARROWHEAD",
    ";1RIGHT-LIGHTED UPWARDS EQUILATERAL ARROWHEAD;1TOP-LIGHTED RIGHTWARDS EQUILATERAL ARROWHEAD",
    ";1LEFT-LIGHTED DOWNWARDS EQUILATERAL ARROWHEAD;0BLACK LEFTWARDS EQUILATERAL ARROWHEAD",
    ";1UPWARDS EQUILATERAL ARROWHEAD;1RIGHTWARDS EQUILATERAL ARROWHEAD",
    ";1DOWNWARDS EQUILATERAL ARROWHEAD;0DOWNWARDS TRIANGLE-HEADED ARROW WITH LONG TIP LEFTWARDS",
    ";6RIGHTWARDS;0UPWARDS TRIANGLE-HEADED ARROW WITH LONG TIP LEFTWARDS;6RIGHTWARDS",
    ";0LEFTWARDS TRIANGLE-HEADED ARROW WITH LONG TIP UPWARDS",
    ";0RIGHTWARDS TRIANGLE-HEADED ARROW WITH LONG TIP UPWARDS",
    ";0LEFTWARDS TRIANGLE-HEADED ARROW WITH LONG TIP DOWNWARDS",
    ";0RIGHTWARDS TRIANGLE-HEADED ARROW WITH LONG TIP DOWNWARDS",
    ";0BLACK CURVED DOWNWARDS AND LEFTWARDS ARROW;4RIGHTWARDS ARROW;2UPWARDS AND LEFTWARDS ARROW",
    ";4RIGHTWARDS ARROW;2LEFTWARDS AND UPWARDS ARROW;2RIGHTWARDS AND UPWARDS ARROW",
    ";2LEFTWARDS AND DOWNWARDS ARROW;2RIGHTWARDS AND DOWNWARDS ARROW;0RIBBON ARROW DOWN LEFT",
    ";3RIGHT;2UP LEFT;3RIGHT;2LEFT UP;2RIGHT UP;2LEFT DOWN;2RIGHT DOWN",
    ";0UPWARDS WHITE ARROW FROM BAR WITH HORIZONTAL BAR;0UP ARROWHEAD IN A RECTANGLE BOX",
    ";0OVERLAPPING WHITE SQUARES;2AND BLACK SQUARES;1BLACK SQUARES;0BALLOT BOX WITH LIGHT X",
    ";0CIRCLED X;1BOLD X;0BLACK SQUARE CENTRED;1DIAMOND CENTRED;0TURNED BLACK PENTAGON",
    ";0HORIZONTAL BLACK OCTAGON;0BLACK OCTAGON;1MEDIUM UP-POINTING TRIANGLE CENTRED",
    ";2DOWN-POINTING TRIANGLE CENTRED;2LEFT-POINTING TRIANGLE CENTRED",
    ";2RIGHT-POINTING TRIANGLE CENTRED;0NEPTUNE FORM TWO;0TOP HALF BLACK CIRCLE",
    ";0BOTTOM HALF BLACK CIRCLE;0LIGHT FOUR POINTED BLACK CUSP",
    ";0ROTATED LIGHT FOUR POINTED BLACK CUSP;0WHITE FOUR POINTED CUSP",
    ";0ROTATED WHITE FOUR POINTED CUSP;0SQUARE POSITION INDICATOR;0UNCERTAINTY SIGN;0GROUP MARK",
    ";0PLUTO FORM TWO;2THREE;2FOUR;2FIVE;0TRANSPLUTO;0PROSERPINA;0ASTRAEA;0HYGIEA;0PHOLUS;0NESSUS",
    ";0WHITE MOON SELENA;0BLACK DIAMOND ON CROSS;0TRUE LIGHT MOON ARTA;0CUPIDO;0HADES;0ZEUS",
    ";0KRONOS;0APOLLON;0ADMETOS;0VULCANUS;0POSEIDON;0LEFT HALF BLACK STAR;0RIGHT HALF BLACK STAR",
    ";0STAR WITH LEFT HALF BLACK;2RIGHT HALF BLACK",
    ";0LEFTWARDS TWO-HEADED ARROW WITH TRIANGLE ARROWHEADS",
    ";0UPWARDS TWO-HEADED ARROW WITH TRIANGLE ARROWHEADS",
    ";0RIGHTWARDS TWO-HEADED ARROW WITH TRIANGLE ARROWHEADS"],
   [";0DOWNWARDS TWO-HEADED ARROW WITH TRIANGLE ARROWHEADS;0ERIS FORM ONE;2TWO;0SEDNA",
    ";0RUSSIAN ASTROLOGICAL SYMBOL VIGINTILE;3NOVILE;3QUINTILE;3BINOVILE;3SENTAGON;3TREDECILE",
    ";0EQUALS SIGN WITH INFINITY BELOW;0UNITED SYMBOL;0SEPARATED SYMBOL;0DOUBLED SYMBOL",
    ";0PASSED SYMBOL;0REVERSED RIGHT ANGLE;0HELLSCHREIBER PAUSE SYMBOL",
    ";0GLAGOLITIC CAPITAL LETTER AZU;3BUKY;3VEDE;3GLAGOLI;3DOBRO;3YESTU;3ZHIVETE;3DZELO;3ZEMLJA",
    ";3IZHE;3INITIAL IZHE;3I;3DJERVI;3KAKO;3LJUDIJE;3MYSLITE;3NASHI;3ONU;3POKOJI;3RITSI;3SLOVO",
    ";3TVRIDO;3UKU;3FRITU;3HERU;3OTU;3PE;3SHTA;3TSI;3CHRIVI;3SHA;3YERU;3YERI;3YATI;3SPIDERY HA",
    ";3YU;3SMALL YUS;5WITH TAIL;3YO;3IOTATED SMALL YUS;3BIG YUS;3IOTATED BIG YUS;3FITA;3IZHITSA",
    ";3SHTAPIC;3TROKUTASTI A;3LATINATE MYSLITE;3CAUDATE CHRIVI;1SMALL LETTER AZU;3BUKY;3VEDE",
    ";3GLAGOLI;3DOBRO;3YESTU;3ZHIVETE;3DZELO;3ZEMLJA;3IZHE;3INITIAL IZHE;3I;3DJERVI;3KAKO",
    ";3LJUDIJE;3MYSLITE;3NASHI;3ONU;3POKOJI;3RITSI;3SLOVO;3TVRIDO;3UKU;3FRITU;3HERU;3OTU;3PE",
    ";3SHTA;3TSI;3CHRIVI;3SHA;3YERU;3YERI;3YATI;3SPIDERY HA;3YU;3SMALL YUS;5WITH TAIL;3YO",
    ";3IOTATED SMALL YUS;3BIG YUS;3IOTATED BIG YUS;3FITA;3IZHITSA;3SHTAPIC;3TROKUTASTI A",
    ";3LATINATE MYSLITE;3CAUDATE CHRIVI;0LATIN CAPITAL LETTER L WITH DOUBLE BAR",
    ";1SMALL LETTER L WITH DOUBLE BAR;1CAPITAL LETTER L WITH MIDDLE TILDE;3P WITH STROKE",
    ";3R WITH TAIL;1SMALL LETTER A WITH STROKE;3T WITH DIAGONAL STROKE",
    ";1CAPITAL LETTER H WITH DESCENDER;1SMALL LETTER H WITH DESCENDER",
    ";1CAPITAL LETTER K WITH DESCENDER;1SMALL LETTER K WITH DESCENDER",
    ";1CAPITAL LETTER Z WITH DESCENDER;1SMALL LETTER Z WITH DESCENDER;1CAPITAL LETTER ALPHA",
    ";3M WITH HOOK;3TURNED A;4ALPHA;1SMALL LETTER V WITH RIGHT HOOK;1CAPITAL LETTER W WITH HOOK",
    ";1SMALL LETTER W WITH HOOK;3V WITH CURL;1CAPITAL LETTER HALF H;1SMALL LETTER HALF H",
    ";3TAILLESS PHI;3E WITH NOTCH;3TURNED R WITH TAIL;3O WITH LOW RING INSIDE",
    ";1LETTER SMALL CAPITAL TURNED E;1SUBSCRIPT SMALL LETTER J;0MODIFIER LETTER CAPITAL V",
    ";0LATIN CAPITAL LETTER S WITH SWASH TAIL;3Z WITH SWASH TAIL;0COPTIC CAPITAL LETTER ALFA",
    ";1SMALL LETTER ALFA;1CAPITAL LETTER VIDA;1SMALL LETTER VIDA;1CAPITAL LETTER GAMMA",
    ";1SMALL LETTER GAMMA;1CAPITAL LETTER DALDA;1SMALL LETTER DALDA;1CAPITAL LETTER EIE",
    ";1SMALL LETTER EIE;1CAPITAL LETTER SOU;1SMALL LETTER SOU;1CAPITAL LETTER ZATA",
    ";1SMALL LETTER ZATA;1CAPITAL LETTER HATE;1SMALL LETTER HATE;1CAPITAL LETTER THETHE",
    ";1SMALL LETTER THETHE;1CAPITAL LETTER IAUDA;1SMALL LETTER IAUDA;1CAPITAL LETTER KAPA",
    ";1SMALL LETTER KAPA;1CAPITAL LETTER LAULA;1SMALL LETTER LAULA;1CAPITAL LETTER MI",
    ";1SMALL LETTER MI;1CAPITAL LETTER NI;1SMALL LETTER NI;1CAPITAL LETTER KSI;1SMALL LETTER KSI",
    ";1CAPITAL LETTER O;1SMALL LETTER O;1CAPITAL LETTER PI;1SMALL LETTER PI;1CAPITAL LETTER RO",
    ";1SMALL LETTER RO;1CAPITAL LETTER SIMA;1SMALL LETTER SIMA;1CAPITAL LETTER TAU",
    ";1SMALL LETTER TAU;1CAPITAL LETTER UA;1SMALL LETTER UA;1CAPITAL LETTER FI;1SMALL LETTER FI",
    ";1CAPITAL LETTER KHI;1SMALL LETTER KHI;1CAPITAL LETTER PSI;1SMALL LETTER PSI",
    ";1CAPITAL LETTER OOU;1SMALL LETTER OOU;1CAPITAL LETTER DIALECT-P ALEF",
    ";1SMALL LETTER DIALECT-P ALEF;1CAPITAL LETTER OLD COPTIC AIN;1SMALL LETTER OLD COPTIC AIN",
    ";1CAPITAL LETTER CRYPTOGRAMMIC EIE;1SMALL LETTER CRYPTOGRAMMIC EIE",
    ";1CAPITAL LETTER DIALECT-P KAPA;1SMALL LETTER DIALECT-P KAPA;1CAPITAL LETTER DIALECT-P NI",
    ";1SMALL LETTER DIALECT-P NI;1CAPITAL LETTER CRYPTOGRAMMIC NI;1SMALL LETTER CRYPTOGRAMMIC NI",
    ";1CAPITAL LETTER OLD COPTIC OOU;1SMALL LETTER OLD COPTIC OOU;1CAPITAL LETTER SAMPI",
    ";1SMALL LETTER SAMPI;1CAPITAL LETTER CROSSED SHEI;1SMALL LETTER CROSSED SHEI",
    ";1CAPITAL LETTER OLD COPTIC SHEI;1SMALL LETTER OLD COPTIC SHEI",
    ";1CAPITAL LETTER OLD COPTIC ESH;1SMALL LETTER OLD COPTIC ESH;1CAPITAL LETTER AKHMIMIC KHEI",
    ";1SMALL LETTER AKHMIMIC KHEI;1CAPITAL LETTER DIALECT-P HORI;1SMALL LETTER DIALECT-P HORI",
    ";1CAPITAL LETTER OLD COPTIC HORI;1SMALL LETTER OLD COPTIC HORI;1CAPITAL LETTER OLD COPTIC HA",
    ";1SMALL LETTER OLD COPTIC HA;1CAPITAL LETTER L-SHAPED HA;1SMALL LETTER L-SHAPED HA",
    ";1CAPITAL LETTER OLD COPTIC HEI;1SMALL LETTER OLD COPTIC HEI;1CAPITAL LETTER OLD COPTIC HAT",
    ";1SMALL LETTER OLD COPTIC HAT;1CAPITAL LETTER OLD COPTIC GANGIA",
    ";1SMALL LETTER OLD COPTIC GANGIA;1CAPITAL LETTER OLD COPTIC DJA;1SMALL LETTER OLD COPTIC DJA",
    ";1CAPITAL LETTER OLD COPTIC SHIMA;1SMALL LETTER OLD COPTIC SHIMA",
    ";1CAPITAL LETTER OLD NUBIAN SHIMA;1SMALL LETTER OLD NUBIAN SHIMA",
    ";1CAPITAL LETTER OLD NUBIAN NGI;1SMALL LETTER OLD NUBIAN NGI;1CAPITAL LETTER OLD NUBIAN NYI",
    ";1SMALL LETTER OLD NUBIAN NYI;1CAPITAL LETTER OLD NUBIAN WAU;1SMALL LETTER OLD NUBIAN WAU",
    ";1SYMBOL KAI;2MI RO;2PI RO;2STAUROS;2TAU RO;2KHI RO;2SHIMA SIMA",
    ";1CAPITAL LETTER CRYPTOGRAMMIC SHEI;1SMALL LETTER CRYPTOGRAMMIC SHEI",
    ";1CAPITAL LETTER CRYPTOGRAMMIC GANGIA;1SMALL LETTER CRYPTOGRAMMIC GANGIA;1COMBINING NI ABOVE",
    ";2SPIRITUS ASPER;3LENIS;1CAPITAL LETTER BOHAIRIC KHEI;1SMALL LETTER BOHAIRIC KHEI"],
   [";@2CF9;1OLD NUBIAN FULL STOP;3DIRECT QUESTION MARK;3INDIRECT QUESTION MARK;3VERSE DIVIDER",
    ";1FRACTION ONE HALF;1FULL STOP;1MORPHOLOGICAL DIVIDER;0GEORGIAN SMALL LETTER AN;3BAN;3GAN",
    ";3DON;3EN;3VIN;3ZEN;3TAN;3IN;3KAN;3LAS;3MAN;3NAR;3ON;3PAR;3ZHAR;3RAE;3SAN;3TAR;3UN;3PHAR",
    ";3KHAR;3GHAN;3QAR;3SHIN;3CHIN;3CAN;3JIL;3CIL;3CHAR;3XAN;3JHAN;3HAE;3HE;3HIE;3WE;3HAR;3HOE",
    ";@2D27;3YN;@2D2D;3AEN;@2D30;0TIFINAGH LETTER YA;2YAB;2YABH;2YAG;2YAGHH;2BERBER ACADEMY YAJ",
    ";2YAJ;2YAD;2YADH;2YADD;2YADDH;2YEY;2YAF;2YAK;2TUAREG YAK;2YAKHH;2YAH;2BERBER ACADEMY YAH",
    ";2TUAREG YAH;2YAHH;2YAA;2YAKH;2TUAREG YAKH;2YAQ;2TUAREG YAQ;2YI;2YAZH;2AHAGGAR YAZH",
    ";2TUAREG YAZH;2YAL;2YAM;2YAN;2TUAREG YAGN;3YANG;2YAP;2YU;2YAR;2YARR;2YAGH;2TUAREG YAGH",
    ";2AYER YAGH;2YAS;2YASS;2YASH;2YAT;2YATH;2YACH;2YATT;2YAV;2YAW;2YAY;2YAZ;2TAWELLEMET YAZ",
    ";2YAZZ;2YE;2YO;@2D6F;1MODIFIER LETTER LABIALIZATION MARK;1SEPARATOR MARK;@2D7F",
    ";1CONSONANT JOINER;0ETHIOPIC SYLLABLE LOA;2MOA;2ROA;2SOA;2SHOA;2BOA;2TOA;2COA;2NOA;2NYOA",
    ";2GLOTTAL OA;2ZOA;2DOA;2DDOA;2JOA;2THOA;2CHOA;2PHOA;2POA;2GGWA;2GGWI;2GGWEE;2GGWE;@2DA0;2SSA",
    ";2SSU;2SSI;2SSAA;2SSEE;2SSE;2SSO;@2DA8;2CCA;2CCU;2CCI;2CCAA;2CCEE;2CCE;2CCO;@2DB0;2ZZA;2ZZU",
    ";2ZZI;2ZZAA;2ZZEE;2ZZE;2ZZO;@2DB8;2CCHA;2CCHU;2CCHI;2CCHAA;2CCHEE;2CCHE;2CCHO;@2DC0;2QYA",
    ";2QYU;2QYI;2QYAA;2QYEE;2QYE;2QYO;@2DC8;2KYA;2KYU;2KYI;2KYAA;2KYEE;2KYE;2KYO;@2DD0;2XYA;2XYU",
    ";2XYI;2XYAA;2XYEE;2XYE;2XYO;@2DD8;2GYA;2GYU;2GYI;2GYAA;2GYEE;2GYE;2GYO;@2DE0",
    ";0COMBINING CYRILLIC LETTER BE;3VE;3GHE;3DE;3ZHE;3ZE;3KA;3EL;3EM;3EN;3O;3PE;3ER;3ES;3TE;3HA",
    ";3TSE;3CHE;3SHA;3SHCHA;3FITA;3ES-TE;3A;3IE;3DJERV;3MONOGRAPH UK;3YAT;3YU;3IOTIFIED A",
    ";3LITTLE YUS;3BIG YUS;3IOTIFIED BIG YUS;0RIGHT ANGLE SUBSTITUTION MARKER",
    ";2DOTTED SUBSTITUTION MARKER;0LEFT SUBSTITUTION BRACKET;0RIGHT SUBSTITUTION BRACKET",
    ";0LEFT DOTTED SUBSTITUTION BRACKET;0RIGHT DOTTED SUBSTITUTION BRACKET",
    ";0RAISED INTERPOLATION MARKER;1DOTTED INTERPOLATION MARKER;0DOTTED TRANSPOSITION MARKER",
    ";0LEFT TRANSPOSITION BRACKET;0RIGHT TRANSPOSITION BRACKET;0RAISED SQUARE",
    ";0LEFT RAISED OMISSION BRACKET;0RIGHT RAISED OMISSION BRACKET;0EDITORIAL CORONIS",
    ";0PARAGRAPHOS;0FORKED PARAGRAPHOS;0REVERSED FORKED PARAGRAPHOS;0HYPODIASTOLE;0DOTTED OBELOS",
    ";0DOWNWARDS ANCORA;0UPWARDS ANCORA;0DOTTED RIGHT-POINTING ANGLE;0DOUBLE OBLIQUE HYPHEN",
    ";0INVERTED INTERROBANG;0PALM BRANCH;0HYPHEN WITH DIAERESIS;0TILDE WITH RING ABOVE",
    ";0LEFT LOW PARAPHRASE BRACKET;0RIGHT LOW PARAPHRASE BRACKET;0TILDE WITH DOT ABOVE;3BELOW",
    ";0LEFT VERTICAL BAR WITH QUILL;0RIGHT VERTICAL BAR WITH QUILL;0TOP LEFT HALF BRACKET",
    ";1RIGHT HALF BRACKET;0BOTTOM LEFT HALF BRACKET;1RIGHT HALF BRACKET;0LEFT SIDEWAYS U BRACKET",
    ";0RIGHT SIDEWAYS U BRACKET;0LEFT DOUBLE PARENTHESIS;0RIGHT DOUBLE PARENTHESIS",
    ";0TWO DOTS OVER ONE DOT PUNCTUATION;0ONE DOT OVER TWO DOTS PUNCTUATION",
    ";0SQUARED FOUR DOT PUNCTUATION;0FIVE DOT MARK;0REVERSED QUESTION MARK;0VERTICAL TILDE",
    ";0RING POINT;0WORD SEPARATOR MIDDLE DOT;0TURNED COMMA;0RAISED DOT;1COMMA;0TURNED SEMICOLON",
    ";0DAGGER WITH LEFT GUARD;2RIGHT GUARD;0TURNED DAGGER;0TOP HALF SECTION SIGN;0TWO-EM DASH",
    ";0THREE-EM DASH;0STENOGRAPHIC FULL STOP;0VERTICAL SIX DOTS;0WIGGLY VERTICAL LINE;0CAPITULUM",
    ";0DOUBLE HYPHEN;0REVERSED COMMA;0DOUBLE LOW-REVERSED-9 QUOTATION MARK;0DASH WITH LEFT UPTURN",
    ";0DOUBLE SUSPENSION MARK;0INVERTED LOW KAVYKA;3WITH KAVYKA ABOVE;0LOW KAVYKA;2WITH DOT",
    ";0DOUBLE STACKED COMMA;0DOTTED SOLIDUS;0TRIPLE DAGGER;0MEDIEVAL COMMA;0PARAGRAPHUS MARK",
    ";0PUNCTUS ELEVATUS MARK;0CORNISH VERSE DIVIDER;0CROSS PATTY WITH RIGHT CROSSBAR",
    ";3LEFT CROSSBAR;0TIRONIAN SIGN CAPITAL ET;0MEDIEVAL EXCLAMATION MARK;1QUESTION MARK",
    ";0LEFT SQUARE BRACKET WITH STROKE;0RIGHT SQUARE BRACKET WITH STROKE",
    ";0LEFT SQUARE BRACKET WITH DOUBLE STROKE;0RIGHT SQUARE BRACKET WITH DOUBLE STROKE",
    ";0TOP HALF LEFT PARENTHESIS;2RIGHT PARENTHESIS;0BOTTOM HALF LEFT PARENTHESIS",
    ";2RIGHT PARENTHESIS;0OBLIQUE HYPHEN"],
   [";@2E80;0CJK RADICAL REPEAT;2CLIFF;2SECOND ONE;3TWO;3THREE;2PERSON;2BOX;2TABLE;2KNIFE ONE",
    ";3TWO;2DIVINATION;2SEAL;2SMALL ONE;3TWO;2LAME ONE;3TWO;3THREE;3FOUR;2SNAKE;2THREAD",
    ";2SNOUT ONE;3TWO;2HEART ONE;3TWO;2HAND;2RAP;@2E9B;2CHOKE;2SUN;2MOON;2DEATH;2MOTHER;2CIVILIAN",
    ";2WATER ONE;3TWO;2FIRE;2PAW ONE;3TWO;2SIMPLIFIED HALF TREE TRUNK;2COW;2DOG;2JADE",
    ";2BOLT OF CLOTH;2EYE;2SPIRIT ONE;3TWO;2BAMBOO;2SILK;2C-SIMPLIFIED SILK;2NET ONE;3TWO;3THREE",
    ";3FOUR;2MESH;2SHEEP;2RAM;2EWE;2OLD;2BRUSH ONE;3TWO;2MEAT;2MORTAR;2GRASS ONE;3TWO;3THREE",
    ";2TIGER;2CLOTHES;2WEST ONE;3TWO;2C-SIMPLIFIED SEE;2SIMPLIFIED HORN;2HORN",
    ";2C-SIMPLIFIED SPEECH;3SHELL;2FOOT;2C-SIMPLIFIED CART;2SIMPLIFIED WALK;2WALK ONE;3TWO;2CITY",
    ";2C-SIMPLIFIED GOLD;2LONG ONE;3TWO;2C-SIMPLIFIED LONG;3GATE;2MOUND ONE;3TWO;2RAIN;2BLUE",
    ";2C-SIMPLIFIED TANNED LEATHER;3LEAF;3WIND;3FLY;2EAT ONE;3TWO;3THREE;2C-SIMPLIFIED EAT;2HEAD",
    ";2C-SIMPLIFIED HORSE;2BONE;2GHOST;2C-SIMPLIFIED FISH;3BIRD;3SALT;2SIMPLIFIED WHEAT;3YELLOW",
    ";2C-SIMPLIFIED FROG;2J-SIMPLIFIED EVEN;2C-SIMPLIFIED EVEN;2J-SIMPLIFIED TOOTH",
    ";2C-SIMPLIFIED TOOTH;2J-SIMPLIFIED DRAGON;2C-SIMPLIFIED DRAGON;2TURTLE;2J-SIMPLIFIED TURTLE",
    ";2C-SIMPLIFIED TURTLE;@2F00;0KANGXI RADICAL ONE;2LINE;2DOT;2SLASH;2SECOND;2HOOK;2TWO;2LID",
    ";2MAN;2LEGS;2ENTER;2EIGHT;2DOWN BOX;2COVER;2ICE;2TABLE;2OPEN BOX;2KNIFE;2POWER;2WRAP;2SPOON",
    ";2RIGHT OPEN BOX;2HIDING ENCLOSURE;2TEN;2DIVINATION;2SEAL;2CLIFF;2PRIVATE;2AGAIN;2MOUTH",
    ";2ENCLOSURE;2EARTH;2SCHOLAR;2GO;3SLOWLY;2EVENING;2BIG;2WOMAN;2CHILD;2ROOF;2INCH;2SMALL;2LAME",
    ";2CORPSE;2SPROUT;2MOUNTAIN;2RIVER;2WORK;2ONESELF;2TURBAN;2DRY;2SHORT THREAD;2DOTTED CLIFF",
    ";2LONG STRIDE;2TWO HANDS;2SHOOT;2BOW;2SNOUT;2BRISTLE;2STEP;2HEART;2HALBERD;2DOOR;2HAND",
    ";2BRANCH;2RAP;2SCRIPT;2DIPPER;2AXE;2SQUARE;2NOT;2SUN;2SAY;2MOON;2TREE;2LACK;2STOP;2DEATH",
    ";2WEAPON;2DO NOT;2COMPARE;2FUR;2CLAN;2STEAM;2WATER;2FIRE;2CLAW;2FATHER;2DOUBLE X",
    ";2HALF TREE TRUNK;2SLICE;2FANG;2COW;2DOG;2PROFOUND;2JADE;2MELON;2TILE;2SWEET;2LIFE;2USE",
    ";2FIELD;2BOLT OF CLOTH;2SICKNESS;2DOTTED TENT;2WHITE;2SKIN;2DISH;2EYE;2SPEAR;2ARROW;2STONE",
    ";2SPIRIT;2TRACK;2GRAIN;2CAVE;2STAND;2BAMBOO;2RICE;2SILK;2JAR;2NET;2SHEEP;2FEATHER;2OLD;2AND",
    ";2PLOW;2EAR;2BRUSH;2MEAT;2MINISTER;2SELF;2ARRIVE;2MORTAR;2TONGUE;2OPPOSE;2BOAT;2STOPPING",
    ";2COLOR;2GRASS;2TIGER;2INSECT;2BLOOD;2WALK ENCLOSURE;2CLOTHES;2WEST;2SEE;2HORN;2SPEECH",
    ";2VALLEY;2BEAN;2PIG;2BADGER;2SHELL;2RED;2RUN;2FOOT;2BODY;2CART;2BITTER;2MORNING;2WALK;2CITY",
    ";2WINE;2DISTINGUISH;2VILLAGE;2GOLD;2LONG;2GATE;2MOUND;2SLAVE;2SHORT TAILED BIRD;2RAIN;2BLUE",
    ";2WRONG;2FACE;2LEATHER;2TANNED LEATHER;2LEEK;2SOUND;2LEAF;2WIND;2FLY;2EAT;2HEAD;2FRAGRANT",
    ";2HORSE;2BONE;2TALL;2HAIR;2FIGHT;2SACRIFICIAL WINE;2CAULDRON;2GHOST;2FISH;2BIRD;2SALT;2DEER",
    ";2WHEAT;2HEMP;2YELLOW;2MILLET;2BLACK;2EMBROIDERY;2FROG;2TRIPOD;2DRUM;2RAT;2NOSE;2EVEN;2TOOTH",
    ";2DRAGON;2TURTLE;2FLUTE;@2FF0;0IDEOGRAPHIC DESCRIPTION CHARACTER LEFT TO RIGHT",
    ";3ABOVE TO BELOW;3LEFT TO MIDDLE AND RIGHT;3ABOVE TO MIDDLE AND BELOW;3FULL SURROUND",
    ";3SURROUND FROM ABOVE;5BELOW;5LEFT;5UPPER LEFT;6RIGHT;5LOWER LEFT;3OVERLAID;@3000;1SPACE",
    ";1COMMA;1FULL STOP;0DITTO MARK;0JAPANESE INDUSTRIAL STANDARD SYMBOL",
    ";0IDEOGRAPHIC ITERATION MARK;1CLOSING MARK;1NUMBER ZERO;0LEFT ANGLE BRACKET",
    ";0RIGHT ANGLE BRACKET;0LEFT DOUBLE ANGLE BRACKET;0RIGHT DOUBLE ANGLE BRACKET",
    ";0LEFT CORNER BRACKET;0RIGHT CORNER BRACKET;0LEFT WHITE CORNER BRACKET",
    ";0RIGHT WHITE CORNER BRACKET;0LEFT BLACK LENTICULAR BRACKET;0RIGHT BLACK LENTICULAR BRACKET",
    ";0POSTAL MARK;0GETA MARK;0LEFT TORTOISE SHELL BRACKET;0RIGHT TORTOISE SHELL BRACKET",
    ";0LEFT WHITE LENTICULAR BRACKET;0RIGHT WHITE LENTICULAR BRACKET",
    ";0LEFT WHITE TORTOISE SHELL BRACKET;0RIGHT WHITE TORTOISE SHELL BRACKET",
    ";0LEFT WHITE SQUARE BRACKET;0RIGHT WHITE SQUARE BRACKET;0WAVE DASH",
    ";0REVERSED DOUBLE PRIME QUOTATION MARK;0DOUBLE PRIME QUOTATION MARK",
    ";0LOW DOUBLE PRIME QUOTATION MARK;0POSTAL MARK FACE;0HANGZHOU NUMERAL ONE;2TWO;2THREE;2FOUR",
    ";2FIVE;2SIX;2SEVEN;2EIGHT;2NINE;0IDEOGRAPHIC LEVEL TONE MARK;1RISING TONE MARK",
    ";1DEPARTING TONE MARK;1ENTERING TONE MARK;0HANGUL SINGLE DOT TONE MARK;1DOUBLE DOT TONE MARK",
    ";0WAVY DASH;0VERTICAL KANA REPEAT MARK;3WITH VOICED SOUND MARK;3MARK UPPER HALF",
    ";3WITH VOICED SOUND MARK UPPER HALF;3MARK LOWER HALF;0CIRCLED POSTAL MARK",
    ";0IDEOGRAPHIC TELEGRAPH LINE FEED SEPARATOR SYMBOL;0HANGZHOU NUMERAL TEN;2TWENTY;2THIRTY",
    ";0VERTICAL IDEOGRAPHIC ITERATION MARK;0MASU MARK;0PART ALTERNATION MARK",
    ";0IDEOGRAPHIC VARIATION INDICATOR;1HALF FILL SPACE"],
   [";@3041;0HIRAGANA LETTER SMALL A;2A;2SMALL I;2I;2SMALL U;2U;2SMALL E;2E;2SMALL O;2O;2KA;2GA",
    ";2KI;2GI;2KU;2GU;2KE;2GE;2KO;2GO;2SA;2ZA;2SI;2ZI;2SU;2ZU;2SE;2ZE;2SO;2ZO;2TA;2DA;2TI;2DI",
    ";2SMALL TU;2TU;2DU;2TE;2DE;2TO;2DO;2NA;2NI;2NU;2NE;2NO;2HA;2BA;2PA;2HI;2BI;2PI;2HU;2BU;2PU",
    ";2HE;2BE;2PE;2HO;2BO;2PO;2MA;2MI;2MU;2ME;2MO;2SMALL YA;2YA;2SMALL YU;2YU;2SMALL YO;2YO;2RA",
    ";2RI;2RU;2RE;2RO;2SMALL WA;2WA;2WI;2WE;2WO;2N;2VU;2SMALL KA;3KE;@3099",
    ";0COMBINING KATAKANA-HIRAGANA VOICED SOUND MARK;2SEMI-VOICED SOUND MARK",
    ";0KATAKANA-HIRAGANA VOICED SOUND MARK;1SEMI-VOICED SOUND MARK;0HIRAGANA ITERATION MARK",
    ";1VOICED ITERATION MARK;1DIGRAPH YORI;0KATAKANA-HIRAGANA DOUBLE HYPHEN",
    ";0KATAKANA LETTER SMALL A;2A;2SMALL I;2I;2SMALL U;2U;2SMALL E;2E;2SMALL O;2O;2KA;2GA;2KI;2GI",
    ";2KU;2GU;2KE;2GE;2KO;2GO;2SA;2ZA;2SI;2ZI;2SU;2ZU;2SE;2ZE;2SO;2ZO;2TA;2DA;2TI;2DI;2SMALL TU",
    ";2TU;2DU;2TE;2DE;2TO;2DO;2NA;2NI;2NU;2NE;2NO;2HA;2BA;2PA;2HI;2BI;2PI;2HU;2BU;2PU;2HE;2BE;2PE",
    ";2HO;2BO;2PO;2MA;2MI;2MU;2ME;2MO;2SMALL YA;2YA;2SMALL YU;2YU;2SMALL YO;2YO;2RA;2RI;2RU;2RE",
    ";2RO;2SMALL WA;2WA;2WI;2WE;2WO;2N;2VU;2SMALL KA;3KE;2VA;2VI;2VE;2VO;1MIDDLE DOT",
    ";0KATAKANA-HIRAGANA PROLONGED SOUND MARK;0KATAKANA ITERATION MARK;1VOICED ITERATION MARK",
    ";1DIGRAPH KOTO;@3105;0BOPOMOFO LETTER B;2P;2M;2F;2D;2T;2N;2L;2G;2K;2H;2J;2Q;2X;2ZH;2CH;2SH",
    ";2R;2Z;2C;2S;2A;2O;2E;2EH;2AI;2EI;2AU;2OU;2AN;2EN;2ANG;2ENG;2ER;2I;2U;2IU;2V;2NG;2GN;2IH",
    ";2O WITH DOT ABOVE;2NN;@3131;0HANGUL LETTER KIYEOK;2SSANGKIYEOK;2KIYEOK-SIOS;2NIEUN",
    ";2NIEUN-CIEUC;2NIEUN-HIEUH;2TIKEUT;2SSANGTIKEUT;2RIEUL;2RIEUL-KIYEOK;2RIEUL-MIEUM",
    ";2RIEUL-PIEUP;2RIEUL-SIOS;2RIEUL-THIEUTH;2RIEUL-PHIEUPH;2RIEUL-HIEUH;2MIEUM;2PIEUP",
    ";2SSANGPIEUP;2PIEUP-SIOS;2SIOS;2SSANGSIOS;2IEUNG;2CIEUC;2SSANGCIEUC;2CHIEUCH;2KHIEUKH",
    ";2THIEUTH;2PHIEUPH;2HIEUH;2A;2AE;2YA;2YAE;2EO;2E;2YEO;2YE;2O;2WA;2WAE;2OE;2YO;2U;2WEO;2WE",
    ";2WI;2YU;2EU;2YI;2I;1FILLER;1LETTER SSANGNIEUN;2NIEUN-TIKEUT;2NIEUN-SIOS;2NIEUN-PANSIOS",
    ";2RIEUL-KIYEOK-SIOS;2RIEUL-TIKEUT;2RIEUL-PIEUP-SIOS;2RIEUL-PANSIOS;2RIEUL-YEORINHIEUH",
    ";2MIEUM-PIEUP;2MIEUM-SIOS;2MIEUM-PANSIOS;2KAPYEOUNMIEUM;2PIEUP-KIYEOK;2PIEUP-TIKEUT",
    ";2PIEUP-SIOS-KIYEOK;2PIEUP-SIOS-TIKEUT;2PIEUP-CIEUC;2PIEUP-THIEUTH;2KAPYEOUNPIEUP",
    ";2KAPYEOUNSSANGPIEUP;2SIOS-KIYEOK;2SIOS-NIEUN;2SIOS-TIKEUT;2SIOS-PIEUP;2SIOS-CIEUC;2PANSIOS",
    ";2SSANGIEUNG;2YESIEUNG;2YESIEUNG-SIOS;2YESIEUNG-PANSIOS;2KAPYEOUNPHIEUPH;2SSANGHIEUH",
    ";2YEORINHIEUH;2YO-YA;2YO-YAE;2YO-I;2YU-YEO;2YU-YE;2YU-I;2ARAEA;2ARAEAE;@3190",
    ";0IDEOGRAPHIC ANNOTATION LINKING MARK;2REVERSE MARK;2ONE MARK;2TWO MARK;2THREE MARK",
    ";2FOUR MARK;2TOP MARK;2MIDDLE MARK;2BOTTOM MARK;2FIRST MARK;2SECOND MARK;2THIRD MARK",
    ";2FOURTH MARK;2HEAVEN MARK;2EARTH MARK;2MAN MARK;0BOPOMOFO LETTER BU;2ZI;2JI;2GU;2EE;2ENN",
    ";2OO;2ONN;2IR;2ANN;2INN;2UNN;2IM;2NGG;2AINN;2AUNN;2AM;2OM;2ONG;2INNN;1FINAL LETTER P;3T;3K",
    ";3H;1LETTER GH;2LH;2ZY;1FINAL LETTER G;1LETTER GW;2KW;2OE;2AH;0CJK STROKE T;2WG;2XG;2BXG;2SW",
    ";2HZZ;2HZG;2HP;2HZWG;2SZWG;2HZT;2HZZP;2HPWG;2HZW;2HZZZ;2N;2H;2S;2P;2SP;2D;2HZ;2HG;2SZ;2SWZ",
    ";2ST;2SG;2PD;2PZ;2TN;2SZZ;2SWG;2HXWG;2HZZZG;2PG;2Q;@31F0;0KATAKANA LETTER SMALL KU;3SI;3SU",
    ";3TO;3NU;3HA;3HI;3HU;3HE;3HO;3MU;3RA;3RI;3RU;3RE;3RO;0PARENTHESIZED HANGUL KIYEOK;2NIEUN",
    ";2TIKEUT;2RIEUL;2MIEUM;2PIEUP;2SIOS;2IEUNG;2CIEUC;2CHIEUCH;2KHIEUKH;2THIEUTH;2PHIEUPH;2HIEUH",
    ";2KIYEOK A;2NIEUN A;2TIKEUT A;2RIEUL A;2MIEUM A;2PIEUP A;2SIOS A;2IEUNG A;2CIEUC A",
    ";2CHIEUCH A;2KHIEUKH A;2THIEUTH A;2PHIEUPH A;2HIEUH A;2CIEUC U;1KOREAN CHARACTER OJEON;3O HU",
    ";@3220;1IDEOGRAPH ONE;2TWO;2THREE;2FOUR;2FIVE;2SIX;2SEVEN;2EIGHT;2NINE;2TEN;2MOON;2FIRE",
    ";2WATER;2WOOD;2METAL;2EARTH;2SUN;2STOCK;2HAVE;2SOCIETY;2NAME;2SPECIAL;2FINANCIAL",
    ";2CONGRATULATION;2LABOR;2REPRESENT;2CALL;2STUDY;2SUPERVISE;2ENTERPRISE;2RESOURCE;2ALLIANCE",
    ";2FESTIVAL;2REST;2SELF;2REACH;0CIRCLED IDEOGRAPH QUESTION;2KINDERGARTEN;2SCHOOL;2KOTO",
    ";1NUMBER TEN ON BLACK SQUARE;2TWENTY ON BLACK SQUARE;2THIRTY ON BLACK SQUARE",
    ";2FORTY ON BLACK SQUARE;2FIFTY ON BLACK SQUARE;2SIXTY ON BLACK SQUARE",
    ";2SEVENTY ON BLACK SQUARE;2EIGHTY ON BLACK SQUARE;0PARTNERSHIP SIGN",
    ";0CIRCLED NUMBER TWENTY ONE;3TWO;3THREE;3FOUR;3FIVE;3SIX;3SEVEN;3EIGHT;3NINE;2THIRTY;3ONE",
    ";3TWO;3THREE;3FOUR;3FIVE;1HANGUL KIYEOK;2NIEUN;2TIKEUT;2RIEUL;2MIEUM;2PIEUP;2SIOS;2IEUNG",
    ";2CIEUC;2CHIEUCH;2KHIEUKH;2THIEUTH;2PHIEUPH;2HIEUH;2KIYEOK A;2NIEUN A;2TIKEUT A;2RIEUL A",
    ";2MIEUM A;2PIEUP A;2SIOS A;2IEUNG A;2CIEUC A;2CHIEUCH A;2KHIEUKH A;2THIEUTH A;2PHIEUPH A",
    ";2HIEUH A;1KOREAN CHARACTER CHAMKO;3JUEUI;1HANGUL IEUNG U;0KOREAN STANDARD SYMBOL",
    ";0CIRCLED IDEOGRAPH ONE;2TWO;2THREE;2FOUR;2FIVE;2SIX;2SEVEN;2EIGHT;2NINE;2TEN;2MOON;2FIRE",
    ";2WATER;2WOOD;2METAL;2EARTH;2SUN;2STOCK;2HAVE;2SOCIETY;2NAME;2SPECIAL;2FINANCIAL",
    ";2CONGRATULATION;2LABOR;2SECRET;2MALE;2FEMALE;2SUITABLE;2EXCELLENT;2PRINT;2ATTENTION;2ITEM",
    ";2REST;2COPY;2CORRECT;2HIGH;2CENTRE;2LOW;2LEFT;2RIGHT;2MEDICINE;2RELIGION;2STUDY;2SUPERVISE",
    ";2ENTERPRISE;2RESOURCE;2ALLIANCE;2NIGHT;1NUMBER THIRTY SIX;3SEVEN;3EIGHT;3NINE;2FORTY;3ONE",
    ";3TWO;3THREE;3FOUR;3FIVE;3SIX;3SEVEN;3EIGHT;3NINE;2FIFTY",
    ";0IDEOGRAPHIC TELEGRAPH SYMBOL FOR JANUARY;4FEBRUARY;4MARCH;4APRIL;4MAY;4JUNE;4JULY;4AUGUST",
    ";4SEPTEMBER;4OCTOBER;4NOVEMBER;4DECEMBER;0SQUARE HG;1ERG;1EV;0LIMITED LIABILITY SIGN",
    ";0CIRCLED KATAKANA A;2I;2U;2E;2O;2KA;2KI;2KU;2KE;2KO;2SA;2SI;2SU;2SE;2SO;2TA;2TI;2TU;2TE;2TO",
    ";2NA"],
   [";2NI;2NU;2NE;2NO;2HA;2HI;2HU;2HE;2HO;2MA;2MI;2MU;2ME;2MO;2YA;2YU;2YO;2RA;2RI;2RU;2RE;2RO;2WA",
    ";2WI;2WE;2WO;0SQUARE ERA NAME REIWA;1APAATO;1ARUHUA;1ANPEA;1AARU;1ININGU;1INTI;1UON",
    ";1ESUKUUDO;1EEKAA;1ONSU;1OOMU;1KAIRI;1KARATTO;1KARORII;1GARON;1GANMA;1GIGA;1GINII;1KYURII",
    ";1GIRUDAA;1KIRO;1KIROGURAMU;1KIROMEETORU;1KIROWATTO;1GURAMU;1GURAMUTON;1KURUZEIRO;1KUROONE",
    ";1KEESU;1KORUNA;1KOOPO;1SAIKURU;1SANTIIMU;1SIRINGU;1SENTI;1SENTO;1DAASU;1DESI;1DORU;1TON",
    ";1NANO;1NOTTO;1HAITU;1PAASENTO;1PAATU;1BAARERU;1PIASUTORU;1PIKURU;1PIKO;1BIRU;1HUARADDO",
    ";1HUIITO;1BUSSYERU;1HURAN;1HEKUTAARU;1PESO;1PENIHI;1HERUTU;1PENSU;1PEEZI;1BEETA;1POINTO",
    ";1BORUTO;1HON;1PONDO;1HOORU;1HOON;1MAIKURO;1MAIRU;1MAHHA;1MARUKU;1MANSYON;1MIKURON;1MIRI",
    ";1MIRIBAARU;1MEGA;1MEGATON;1MEETORU;1YAADO;1YAARU;1YUAN;1RITTORU;1RIRA;1RUPII;1RUUBURU;1REMU",
    ";1RENTOGEN;1WATTO;0IDEOGRAPHIC TELEGRAPH SYMBOL FOR HOUR ZERO;5ONE;5TWO;5THREE;5FOUR;5FIVE",
    ";5SIX;5SEVEN;5EIGHT;5NINE;5TEN;5ELEVEN;5TWELVE;5THIRTEEN;5FOURTEEN;5FIFTEEN;5SIXTEEN",
    ";5SEVENTEEN;5EIGHTEEN;5NINETEEN;5TWENTY;5TWENTY-ONE;5TWENTY-TWO;5TWENTY-THREE;5TWENTY-FOUR",
    ";0SQUARE HPA;1DA;1AU;1BAR;1OV;1PC;1DM;2SQUARED;2CUBED;1IU;1ERA NAME HEISEI;3SYOUWA;3TAISYOU",
    ";3MEIZI;1CORPORATION;1PA AMPS;1NA;1MU A;1MA;1KA;1KB;1MB;1GB;1CAL;1KCAL;1PF;1NF;1MU F;2G;1MG",
    ";1KG;1HZ;1KHZ;1MHZ;1GHZ;1THZ;1MU L;1ML;1DL;1KL;1FM;1NM;1MU M;1MM;1CM;1KM;1MM SQUARED",
    ";1CM SQUARED;1M SQUARED;1KM SQUARED;1MM CUBED;1CM CUBED;1M CUBED;1KM CUBED;1M OVER S",
    ";4SQUARED;1PA;1KPA;1MPA;1GPA;1RAD;2OVER S;4SQUARED;1PS;1NS;1MU S;1MS;1PV;1NV;1MU V;1MV;1KV",
    ";1MV MEGA;1PW;1NW;1MU W;1MW;1KW;1MW MEGA;1K OHM;1M OHM;1AM;1BQ;1CC;1CD;1C OVER KG;1CO;1DB",
    ";1GY;1HA;1HP;1IN;1KK;1KM CAPITAL;1KT;1LM;1LN;1LOG;1LX;1MB SMALL;1MIL;1MOL;1PH;1PM;1PPM;1PR",
    ";1SR;1SV;1WB;1V OVER M;1A OVER M;0IDEOGRAPHIC TELEGRAPH SYMBOL FOR DAY ONE;5TWO;5THREE;5FOUR",
    ";5FIVE;5SIX;5SEVEN;5EIGHT;5NINE;5TEN;5ELEVEN;5TWELVE;5THIRTEEN;5FOURTEEN;5FIFTEEN;5SIXTEEN",
    ";5SEVENTEEN;5EIGHTEEN;5NINETEEN;5TWENTY;5TWENTY-ONE;5TWENTY-TWO;5TWENTY-THREE;5TWENTY-FOUR",
    ";5TWENTY-FIVE;5TWENTY-SIX;5TWENTY-SEVEN;5TWENTY-EIGHT;5TWENTY-NINE;5THIRTY;5THIRTY-ONE",
    ";0SQUARE GAL;@4DC0;0HEXAGRAM FOR THE CREATIVE HEAVEN;3RECEPTIVE EARTH",
    ";2DIFFICULTY AT THE BEGINNING;2YOUTHFUL FOLLY;2WAITING;2CONFLICT;2THE ARMY;2HOLDING TOGETHER",
    ";2SMALL TAMING;2TREADING;2PEACE;2STANDSTILL;2FELLOWSHIP;2GREAT POSSESSION;2MODESTY",
    ";2ENTHUSIASM;2FOLLOWING;2WORK ON THE DECAYED;2APPROACH;2CONTEMPLATION;2BITING THROUGH;2GRACE",
    ";2SPLITTING APART;2RETURN;2INNOCENCE;2GREAT TAMING;2MOUTH CORNERS;2GREAT PREPONDERANCE",
    ";2THE ABYSMAL WATER;3CLINGING FIRE;2INFLUENCE;2DURATION;2RETREAT;2GREAT POWER;2PROGRESS",
    ";2DARKENING OF THE LIGHT;2THE FAMILY;2OPPOSITION;2OBSTRUCTION;2DELIVERANCE;2DECREASE",
    ";2INCREASE;2BREAKTHROUGH;2COMING TO MEET;2GATHERING TOGETHER;2PUSHING UPWARD;2OPPRESSION",
    ";2THE WELL;2REVOLUTION;2THE CAULDRON;3AROUSING THUNDER;3KEEPING STILL MOUNTAIN;2DEVELOPMENT",
    ";2THE MARRYING MAIDEN;2ABUNDANCE;2THE WANDERER;3GENTLE WIND;3JOYOUS LAKE;2DISPERSION",
    ";2LIMITATION;2INNER TRUTH;2SMALL PREPONDERANCE;2AFTER COMPLETION;2BEFORE COMPLETION;@A000",
    ";0YI SYLLABLE IT;2IX;2I;2IP;2IET;2IEX;2IE;2IEP;2AT;2AX;2A;2AP;2UOX;2UO;2UOP;2OT;2OX;2O;2OP",
    ";2EX;2E;2WU;2BIT;2BIX;2BI;2BIP;2BIET;2BIEX;2BIE;2BIEP;2BAT;2BAX;2BA;2BAP;2BUOX;2BUO;2BUOP",
    ";2BOT;2BOX;2BO;2BOP;2BEX;2BE;2BEP;2BUT;2BUX;2BU;2BUP;2BURX;2BUR;2BYT;2BYX;2BY;2BYP;2BYRX",
    ";2BYR;2PIT;2PIX;2PI;2PIP;2PIEX;2PIE;2PIEP;2PAT;2PAX;2PA;2PAP;2PUOX;2PUO;2PUOP;2POT;2POX;2PO",
    ";2POP;2PUT;2PUX;2PU;2PUP;2PURX;2PUR;2PYT;2PYX;2PY;2PYP;2PYRX;2PYR;2BBIT;2BBIX;2BBI;2BBIP",
    ";2BBIET;2BBIEX;2BBIE;2BBIEP;2BBAT;2BBAX;2BBA;2BBAP;2BBUOX;2BBUO;2BBUOP;2BBOT;2BBOX;2BBO",
    ";2BBOP;2BBEX;2BBE;2BBEP;2BBUT;2BBUX;2BBU;2BBUP;2BBURX;2BBUR;2BBYT;2BBYX;2BBY;2BBYP;2NBIT",
    ";2NBIX;2NBI;2NBIP;2NBIEX;2NBIE;2NBIEP;2NBAT;2NBAX;2NBA;2NBAP;2NBOT;2NBOX;2NBO;2NBOP;2NBUT",
    ";2NBUX;2NBU;2NBUP;2NBURX;2NBUR;2NBYT;2NBYX;2NBY;2NBYP;2NBYRX;2NBYR;2HMIT;2HMIX;2HMI;2HMIP",
    ";2HMIEX;2HMIE;2HMIEP;2HMAT;2HMAX;2HMA;2HMAP;2HMUOX;2HMUO;2HMUOP;2HMOT;2HMOX;2HMO;2HMOP;2HMUT",
    ";2HMUX;2HMU;2HMUP;2HMURX;2HMUR;2HMYX;2HMY;2HMYP;2HMYRX;2HMYR;2MIT;2MIX;2MI;2MIP;2MIEX;2MIE",
    ";2MIEP;2MAT;2MAX;2MA;2MAP;2MUOT;2MUOX;2MUO;2MUOP;2MOT;2MOX;2MO;2MOP;2MEX;2ME;2MUT;2MUX;2MU",
    ";2MUP;2MURX;2MUR;2MYT;2MYX;2MY;2MYP;2FIT;2FIX;2FI;2FIP;2FAT;2FAX;2FA;2FAP;2FOX;2FO;2FOP;2FUT",
    ";2FUX;2FU;2FUP;2FURX;2FUR;2FYT;2FYX;2FY;2FYP;2VIT;2VIX;2VI;2VIP;2VIET;2VIEX;2VIE;2VIEP;2VAT",
    ";2VAX;2VA;2VAP;2VOT;2VOX;2VO;2VOP;2VEX;2VEP;2VUT;2VUX;2VU;2VUP;2VURX;2VUR;2VYT;2VYX;2VY;2VYP",
    ";2VYRX;2VYR;2DIT;2DIX;2DI;2DIP;2DIEX;2DIE;2DIEP;2DAT;2DAX;2DA;2DAP;2DUOX;2DUO;2DOT;2DOX;2DO",
    ";2DOP;2DEX;2DE;2DEP;2DUT;2DUX;2DU;2DUP;2DURX;2DUR;2TIT;2TIX;2TI;2TIP;2TIEX;2TIE;2TIEP;2TAT",
    ";2TAX;2TA;2TAP;2TUOT;2TUOX;2TUO;2TUOP;2TOT;2TOX;2TO;2TOP;2TEX;2TE;2TEP;2TUT;2TUX;2TU;2TUP",
    ";2TURX;2TUR;2DDIT;2DDIX;2DDI;2DDIP;2DDIEX;2DDIE;2DDIEP;2DDAT;2DDAX;2DDA;2DDAP;2DDUOX;2DDUO",
    ";2DDUOP;2DDOT;2DDOX;2DDO;2DDOP;2DDEX;2DDE;2DDEP;2DDUT;2DDUX;2DDU;2DDUP;2DDURX;2DDUR;2NDIT",
    ";2NDIX;2NDI;2NDIP;2NDIEX;2NDIE;2NDAT;2NDAX;2NDA;2NDAP;2NDOT;2NDOX;2NDO;2NDOP;2NDEX;2NDE",
    ";2NDEP;2NDUT;2NDUX;2NDU;2NDUP;2NDURX;2NDUR;2HNIT;2HNIX;2HNI;2HNIP;2HNIET;2HNIEX;2HNIE;2HNIEP",
    ";2HNAT;2HNAX;2HNA;2HNAP;2HNUOX;2HNUO;2HNOT;2HNOX;2HNOP;2HNEX;2HNE;2HNEP;2HNUT;2NIT;2NIX;2NI",
    ";2NIP;2NIEX;2NIE;2NIEP;2NAX;2NA;2NAP;2NUOX;2NUO;2NUOP;2NOT;2NOX;2NO;2NOP;2NEX;2NE;2NEP;2NUT",
    ";2NUX;2NU;2NUP;2NURX;2NUR;2HLIT;2HLIX;2HLI;2HLIP;2HLIEX;2HLIE;2HLIEP;2HLAT;2HLAX;2HLA;2HLAP",
    ";2HLUOX;2HLUO;2HLUOP;2HLOX;2HLO;2HLOP;2HLEX;2HLE;2HLEP;2HLUT;2HLUX;2HLU;2HLUP;2HLURX;2HLUR",
    ";2HLYT"],
   [";2HLYX;2HLY;2HLYP;2HLYRX;2HLYR;2LIT;2LIX;2LI;2LIP;2LIET;2LIEX;2LIE;2LIEP;2LAT;2LAX;2LA;2LAP",
    ";2LUOT;2LUOX;2LUO;2LUOP;2LOT;2LOX;2LO;2LOP;2LEX;2LE;2LEP;2LUT;2LUX;2LU;2LUP;2LURX;2LUR;2LYT",
    ";2LYX;2LY;2LYP;2LYRX;2LYR;2GIT;2GIX;2GI;2GIP;2GIET;2GIEX;2GIE;2GIEP;2GAT;2GAX;2GA;2GAP;2GUOT",
    ";2GUOX;2GUO;2GUOP;2GOT;2GOX;2GO;2GOP;2GET;2GEX;2GE;2GEP;2GUT;2GUX;2GU;2GUP;2GURX;2GUR;2KIT",
    ";2KIX;2KI;2KIP;2KIEX;2KIE;2KIEP;2KAT;2KAX;2KA;2KAP;2KUOX;2KUO;2KUOP;2KOT;2KOX;2KO;2KOP;2KET",
    ";2KEX;2KE;2KEP;2KUT;2KUX;2KU;2KUP;2KURX;2KUR;2GGIT;2GGIX;2GGI;2GGIEX;2GGIE;2GGIEP;2GGAT",
    ";2GGAX;2GGA;2GGAP;2GGUOT;2GGUOX;2GGUO;2GGUOP;2GGOT;2GGOX;2GGO;2GGOP;2GGET;2GGEX;2GGE;2GGEP",
    ";2GGUT;2GGUX;2GGU;2GGUP;2GGURX;2GGUR;2MGIEX;2MGIE;2MGAT;2MGAX;2MGA;2MGAP;2MGUOX;2MGUO;2MGUOP",
    ";2MGOT;2MGOX;2MGO;2MGOP;2MGEX;2MGE;2MGEP;2MGUT;2MGUX;2MGU;2MGUP;2MGURX;2MGUR;2HXIT;2HXIX",
    ";2HXI;2HXIP;2HXIET;2HXIEX;2HXIE;2HXIEP;2HXAT;2HXAX;2HXA;2HXAP;2HXUOT;2HXUOX;2HXUO;2HXUOP",
    ";2HXOT;2HXOX;2HXO;2HXOP;2HXEX;2HXE;2HXEP;2NGIEX;2NGIE;2NGIEP;2NGAT;2NGAX;2NGA;2NGAP;2NGUOT",
    ";2NGUOX;2NGUO;2NGOT;2NGOX;2NGO;2NGOP;2NGEX;2NGE;2NGEP;2HIT;2HIEX;2HIE;2HAT;2HAX;2HA;2HAP",
    ";2HUOT;2HUOX;2HUO;2HUOP;2HOT;2HOX;2HO;2HOP;2HEX;2HE;2HEP;2WAT;2WAX;2WA;2WAP;2WUOX;2WUO;2WUOP",
    ";2WOX;2WO;2WOP;2WEX;2WE;2WEP;2ZIT;2ZIX;2ZI;2ZIP;2ZIEX;2ZIE;2ZIEP;2ZAT;2ZAX;2ZA;2ZAP;2ZUOX",
    ";2ZUO;2ZUOP;2ZOT;2ZOX;2ZO;2ZOP;2ZEX;2ZE;2ZEP;2ZUT;2ZUX;2ZU;2ZUP;2ZURX;2ZUR;2ZYT;2ZYX;2ZY",
    ";2ZYP;2ZYRX;2ZYR;2CIT;2CIX;2CI;2CIP;2CIET;2CIEX;2CIE;2CIEP;2CAT;2CAX;2CA;2CAP;2CUOX;2CUO",
    ";2CUOP;2COT;2COX;2CO;2COP;2CEX;2CE;2CEP;2CUT;2CUX;2CU;2CUP;2CURX;2CUR;2CYT;2CYX;2CY;2CYP",
    ";2CYRX;2CYR;2ZZIT;2ZZIX;2ZZI;2ZZIP;2ZZIET;2ZZIEX;2ZZIE;2ZZIEP;2ZZAT;2ZZAX;2ZZA;2ZZAP;2ZZOX",
    ";2ZZO;2ZZOP;2ZZEX;2ZZE;2ZZEP;2ZZUX;2ZZU;2ZZUP;2ZZURX;2ZZUR;2ZZYT;2ZZYX;2ZZY;2ZZYP;2ZZYRX",
    ";2ZZYR;2NZIT;2NZIX;2NZI;2NZIP;2NZIEX;2NZIE;2NZIEP;2NZAT;2NZAX;2NZA;2NZAP;2NZUOX;2NZUO;2NZOX",
    ";2NZOP;2NZEX;2NZE;2NZUX;2NZU;2NZUP;2NZURX;2NZUR;2NZYT;2NZYX;2NZY;2NZYP;2NZYRX;2NZYR;2SIT",
    ";2SIX;2SI;2SIP;2SIEX;2SIE;2SIEP;2SAT;2SAX;2SA;2SAP;2SUOX;2SUO;2SUOP;2SOT;2SOX;2SO;2SOP;2SEX",
    ";2SE;2SEP;2SUT;2SUX;2SU;2SUP;2SURX;2SUR;2SYT;2SYX;2SY;2SYP;2SYRX;2SYR;2SSIT;2SSIX;2SSI;2SSIP",
    ";2SSIEX;2SSIE;2SSIEP;2SSAT;2SSAX;2SSA;2SSAP;2SSOT;2SSOX;2SSO;2SSOP;2SSEX;2SSE;2SSEP;2SSUT",
    ";2SSUX;2SSU;2SSUP;2SSYT;2SSYX;2SSY;2SSYP;2SSYRX;2SSYR;2ZHAT;2ZHAX;2ZHA;2ZHAP;2ZHUOX;2ZHUO",
    ";2ZHUOP;2ZHOT;2ZHOX;2ZHO;2ZHOP;2ZHET;2ZHEX;2ZHE;2ZHEP;2ZHUT;2ZHUX;2ZHU;2ZHUP;2ZHURX;2ZHUR",
    ";2ZHYT;2ZHYX;2ZHY;2ZHYP;2ZHYRX;2ZHYR;2CHAT;2CHAX;2CHA;2CHAP;2CHUOT;2CHUOX;2CHUO;2CHUOP;2CHOT",
    ";2CHOX;2CHO;2CHOP;2CHET;2CHEX;2CHE;2CHEP;2CHUX;2CHU;2CHUP;2CHURX;2CHUR;2CHYT;2CHYX;2CHY",
    ";2CHYP;2CHYRX;2CHYR;2RRAX;2RRA;2RRUOX;2RRUO;2RROT;2RROX;2RRO;2RROP;2RRET;2RREX;2RRE;2RREP",
    ";2RRUT;2RRUX;2RRU;2RRUP;2RRURX;2RRUR;2RRYT;2RRYX;2RRY;2RRYP;2RRYRX;2RRYR;2NRAT;2NRAX;2NRA",
    ";2NRAP;2NROX;2NRO;2NROP;2NRET;2NREX;2NRE;2NREP;2NRUT;2NRUX;2NRU;2NRUP;2NRURX;2NRUR;2NRYT",
    ";2NRYX;2NRY;2NRYP;2NRYRX;2NRYR;2SHAT;2SHAX;2SHA;2SHAP;2SHUOX;2SHUO;2SHUOP;2SHOT;2SHOX;2SHO",
    ";2SHOP;2SHET;2SHEX;2SHE;2SHEP;2SHUT;2SHUX;2SHU;2SHUP;2SHURX;2SHUR;2SHYT;2SHYX;2SHY;2SHYP",
    ";2SHYRX;2SHYR;2RAT;2RAX;2RA;2RAP;2RUOX;2RUO;2RUOP;2ROT;2ROX;2RO;2ROP;2REX;2RE;2REP;2RUT;2RUX",
    ";2RU;2RUP;2RURX;2RUR;2RYT;2RYX;2RY;2RYP;2RYRX;2RYR;2JIT;2JIX;2JI;2JIP;2JIET;2JIEX;2JIE;2JIEP",
    ";2JUOT;2JUOX;2JUO;2JUOP;2JOT;2JOX;2JO;2JOP;2JUT;2JUX;2JU;2JUP;2JURX;2JUR;2JYT;2JYX;2JY;2JYP",
    ";2JYRX;2JYR;2QIT;2QIX;2QI;2QIP;2QIET;2QIEX;2QIE;2QIEP;2QUOT;2QUOX;2QUO;2QUOP;2QOT;2QOX;2QO",
    ";2QOP;2QUT;2QUX;2QU;2QUP;2QURX;2QUR;2QYT;2QYX;2QY;2QYP;2QYRX;2QYR;2JJIT;2JJIX;2JJI;2JJIP",
    ";2JJIET;2JJIEX;2JJIE;2JJIEP;2JJUOX;2JJUO;2JJUOP;2JJOT;2JJOX;2JJO;2JJOP;2JJUT;2JJUX;2JJU",
    ";2JJUP;2JJURX;2JJUR;2JJYT;2JJYX;2JJY;2JJYP;2NJIT;2NJIX;2NJI;2NJIP;2NJIET;2NJIEX;2NJIE;2NJIEP",
    ";2NJUOX;2NJUO;2NJOT;2NJOX;2NJO;2NJOP;2NJUX;2NJU;2NJUP;2NJURX;2NJUR;2NJYT;2NJYX;2NJY;2NJYP",
    ";2NJYRX;2NJYR;2NYIT;2NYIX;2NYI;2NYIP;2NYIET;2NYIEX;2NYIE;2NYIEP;2NYUOX;2NYUO;2NYUOP;2NYOT",
    ";2NYOX;2NYO;2NYOP;2NYUT;2NYUX;2NYU;2NYUP;2XIT;2XIX;2XI;2XIP;2XIET;2XIEX;2XIE;2XIEP;2XUOX",
    ";2XUO;2XOT;2XOX;2XO;2XOP;2XYT;2XYX;2XY;2XYP;2XYRX;2XYR;2YIT;2YIX;2YI;2YIP;2YIET;2YIEX;2YIE",
    ";2YIEP;2YUOT;2YUOX;2YUO;2YUOP;2YOT;2YOX;2YO;2YOP;2YUT;2YUX;2YU;2YUP;2YURX;2YUR;2YYT;2YYX;2YY",
    ";2YYP;2YYRX;2YYR"],
   [";@A490;1RADICAL QOT;2LI;2KIT;2NYIP;2CYP;2SSI;2GGOP;2GEP;2MI;2HXIT;2LYR;2BBUT;2MOP;2YO;2PUT",
    ";2HXUO;2TAT;2GA;2ZUP;2CYT;2DDUR;2BUR;2GGUO;2NYOP;2TU;2OP;2JJUT;2ZOT;2PYT;2HMO;2YIT;2VUR;2SHY",
    ";2VEP;2ZA;2JO;2NZUP;2JJY;2GOT;2JJIE;2WO;2DU;2SHUR;2LIE;2CY;2CUOP;2CIP;2HXOP;2SHAT;2ZUR;2SHOP",
    ";2CHE;2ZZIET;2NBIE;2KE;@A4D0;0LISU LETTER BA;2PA;2PHA;2DA;2TA;2THA;2GA;2KA;2KHA;2JA;2CA;2CHA",
    ";2DZA;2TSA;2TSHA;2MA;2NA;2LA;2SA;2ZHA;2ZA;2NGA;2HA;2XA;2HHA;2FA;2WA;2SHA;2YA;2GHA;2A;2AE;2E",
    ";2EU;2I;2O;2U;2UE;2UH;2OE;2TONE MYA TI;3NA PO;3MYA CYA;4BO;4NA;4JEU;1PUNCTUATION COMMA",
    ";2FULL STOP;0VAI SYLLABLE EE;2EEN;2HEE;2WEE;2WEEN;2PEE;2BHEE;2BEE;2MBEE;2KPEE;2MGBEE;2GBEE",
    ";2FEE;2VEE;2TEE;2THEE;2DHEE;2DHHEE;2LEE;2REE;2DEE;2NDEE;2SEE;2SHEE;2ZEE;2ZHEE;2CEE;2JEE",
    ";2NJEE;2YEE;2KEE;2NGGEE;2GEE;2MEE;2NEE;2NYEE;2I;2IN;2HI;2HIN;2WI;2WIN;2PI;2BHI;2BI;2MBI;2KPI",
    ";2MGBI;2GBI;2FI;2VI;2TI;2THI;2DHI;2DHHI;2LI;2RI;2DI;2NDI;2SI;2SHI;2ZI;2ZHI;2CI;2JI;2NJI;2YI",
    ";2KI;2NGGI;2GI;2MI;2NI;2NYI;2A;2AN;2NGAN;2HA;2HAN;2WA;2WAN;2PA;2BHA;2BA;2MBA;2KPA;2KPAN",
    ";2MGBA;2GBA;2FA;2VA;2TA;2THA;2DHA;2DHHA;2LA;2RA;2DA;2NDA;2SA;2SHA;2ZA;2ZHA;2CA;2JA;2NJA;2YA",
    ";2KA;2KAN;2NGGA;2GA;2MA;2NA;2NYA;2OO;2OON;2HOO;2WOO;2WOON;2POO;2BHOO;2BOO;2MBOO;2KPOO;2MGBOO",
    ";2GBOO;2FOO;2VOO;2TOO;2THOO;2DHOO;2DHHOO;2LOO;2ROO;2DOO;2NDOO;2SOO;2SHOO;2ZOO;2ZHOO;2COO",
    ";2JOO;2NJOO;2YOO;2KOO;2NGGOO;2GOO;2MOO;2NOO;2NYOO;2U;2UN;2HU;2HUN;2WU;2WUN;2PU;2BHU;2BU;2MBU",
    ";2KPU;2MGBU;2GBU;2FU;2VU;2TU;2THU;2DHU;2DHHU;2LU;2RU;2DU;2NDU;2SU;2SHU;2ZU;2ZHU;2CU;2JU;2NJU",
    ";2YU;2KU;2NGGU;2GU;2MU;2NU;2NYU;2O;2ON;2NGON;2HO;2HON;2WO;2WON;2PO;2BHO;2BO;2MBO;2KPO;2MGBO",
    ";2GBO;2GBON;2FO;2VO;2TO;2THO;2DHO;2DHHO;2LO;2RO;2DO;2NDO;2SO;2SHO;2ZO;2ZHO;2CO;2JO;2NJO;2YO",
    ";2KO;2NGGO;2GO;2MO;2NO;2NYO;2E;2EN;2NGEN;2HE;2HEN;2WE;2WEN;2PE;2BHE;2BE;2MBE;2KPE;2KPEN",
    ";2MGBE;2GBE;2GBEN;2FE;2VE;2TE;2THE;2DHE;2DHHE;2LE;2RE;2DE;2NDE;2SE;2SHE;2ZE;2ZHE;2CE;2JE",
    ";2NJE;2YE;2KE;2NGGE;2NGGEN;2GE;2GEN;2ME;2NE;2NYE;2NG;2LENGTHENER;1COMMA;1FULL STOP",
    ";1QUESTION MARK;1SYLLABLE NDOLE FA;3KA;3SOO;1SYMBOL FEENG;2KEENG;2TING;2NII;2BANG;2FAA;2TAA",
    ";2DANG;2DOONG;2KUNG;2TONG;2DO-O;2JONG;1DIGIT ZERO;2ONE;2TWO;2THREE;2FOUR;2FIVE;2SIX;2SEVEN",
    ";2EIGHT;2NINE;1SYLLABLE NDOLE MA;3DO;@A640;0CYRILLIC CAPITAL LETTER ZEMLYA",
    ";1SMALL LETTER ZEMLYA;1CAPITAL LETTER DZELO;1SMALL LETTER DZELO;1CAPITAL LETTER REVERSED DZE",
    ";1SMALL LETTER REVERSED DZE;1CAPITAL LETTER IOTA;1SMALL LETTER IOTA;1CAPITAL LETTER DJERV",
    ";1SMALL LETTER DJERV;1CAPITAL LETTER MONOGRAPH UK;1SMALL LETTER MONOGRAPH UK",
    ";1CAPITAL LETTER BROAD OMEGA;1SMALL LETTER BROAD OMEGA;1CAPITAL LETTER NEUTRAL YER",
    ";1SMALL LETTER NEUTRAL YER;1CAPITAL LETTER YERU WITH BACK YER",
    ";1SMALL LETTER YERU WITH BACK YER;1CAPITAL LETTER IOTIFIED YAT;1SMALL LETTER IOTIFIED YAT",
    ";1CAPITAL LETTER REVERSED YU;1SMALL LETTER REVERSED YU;1CAPITAL LETTER IOTIFIED A",
    ";1SMALL LETTER IOTIFIED A;1CAPITAL LETTER CLOSED LITTLE YUS;1SMALL LETTER CLOSED LITTLE YUS",
    ";1CAPITAL LETTER BLENDED YUS;1SMALL LETTER BLENDED YUS",
    ";1CAPITAL LETTER IOTIFIED CLOSED LITTLE YUS;1SMALL LETTER IOTIFIED CLOSED LITTLE YUS",
    ";1CAPITAL LETTER YN;1SMALL LETTER YN;1CAPITAL LETTER REVERSED TSE;1SMALL LETTER REVERSED TSE",
    ";1CAPITAL LETTER SOFT DE;1SMALL LETTER SOFT DE;1CAPITAL LETTER SOFT EL;1SMALL LETTER SOFT EL",
    ";1CAPITAL LETTER SOFT EM;1SMALL LETTER SOFT EM;1CAPITAL LETTER MONOCULAR O",
    ";1SMALL LETTER MONOCULAR O;1CAPITAL LETTER BINOCULAR O;1SMALL LETTER BINOCULAR O",
    ";1CAPITAL LETTER DOUBLE MONOCULAR O;1SMALL LETTER DOUBLE MONOCULAR O;1LETTER MULTIOCULAR O",
    ";0COMBINING CYRILLIC VZMET;2TEN MILLIONS SIGN;2HUNDRED MILLIONS SIGN;2THOUSAND MILLIONS SIGN",
    ";0SLAVONIC ASTERISK;0COMBINING CYRILLIC LETTER UKRAINIAN IE;3I;3YI;3U;3HARD SIGN;3YERU",
    ";3SOFT SIGN;3OMEGA;2KAVYKA;2PAYEROK;0CYRILLIC KAVYKA;1PAYEROK;1CAPITAL LETTER DWE",
    ";1SMALL LETTER DWE;1CAPITAL LETTER DZWE;1SMALL LETTER DZWE;1CAPITAL LETTER ZHWE",
    ";1SMALL LETTER ZHWE;1CAPITAL LETTER CCHE;1SMALL LETTER CCHE;1CAPITAL LETTER DZZE",
    ";1SMALL LETTER DZZE;1CAPITAL LETTER TE WITH MIDDLE HOOK;1SMALL LETTER TE WITH MIDDLE HOOK",
    ";1CAPITAL LETTER TWE;1SMALL LETTER TWE;1CAPITAL LETTER TSWE;1SMALL LETTER TSWE",
    ";1CAPITAL LETTER TSSE;1SMALL LETTER TSSE;1CAPITAL LETTER TCHE;1SMALL LETTER TCHE",
    ";1CAPITAL LETTER HWE;1SMALL LETTER HWE;1CAPITAL LETTER SHWE;1SMALL LETTER SHWE",
    ";1CAPITAL LETTER DOUBLE O;1SMALL LETTER DOUBLE O;1CAPITAL LETTER CROSSED O",
    ";1SMALL LETTER CROSSED O;0MODIFIER LETTER CYRILLIC HARD SIGN;3SOFT SIGN",
    ";0COMBINING CYRILLIC LETTER EF;3IOTIFIED E;0BAMUM LETTER A;2KA;2U;2KU;2EE;2REE;2TAE;2O;2NYI",
    ";2I;2LA;2PA;2RII;2RIEE;2LEEEE;2MEEEE;2TAA;2NDAA;2NJAEM;2M;2SUU;2MU;2SHII;2SI;2SHEUX;2SEUX",
    ";2KYEE;2KET;2NUAE;2NU;2NJUAE;2YOQ;2SHU;2YUQ;2YA;2NSHA;2KEUX;2PEUX;2NJEE;2NTEE;2PUE;2WUE;2PEE",
    ";2FEE;2RU;2LU;2MI;2NI;2REUX;2RAE;2KEN;2NGKWAEN;2NGGA;2NGA;2SHO;2PUAE;2FU;2FOM;2WA;2NA;2LI",
    ";2PI;2LOQ;2KO;2MBEN;2REN;2MEN;2MA;2TI;2KI;2MO;2MBAA;2TET;2KPA;2TEN;2NTUU;2SAMBA;2FAAMAE",
    ";2KOVUU;2KOGHOM;1COMBINING MARK KOQNDON;3TUKWENTIS;1NJAEMLI;1FULL STOP;1COLON;1COMMA",
    ";1SEMICOLON;1QUESTION MARK"],
   [";@A700;0MODIFIER LETTER CHINESE TONE YIN PING;4YANG PING;4YIN SHANG;4YANG SHANG;4YIN QU",
    ";4YANG QU;4YIN RU;4YANG RU;2EXTRA-HIGH DOTTED TONE BAR;2HIGH DOTTED TONE BAR",
    ";2MID DOTTED TONE BAR;2LOW DOTTED TONE BAR;2EXTRA-LOW DOTTED TONE BAR",
    ";2EXTRA-HIGH DOTTED LEFT-STEM TONE BAR;2HIGH DOTTED LEFT-STEM TONE BAR",
    ";2MID DOTTED LEFT-STEM TONE BAR;2LOW DOTTED LEFT-STEM TONE BAR",
    ";2EXTRA-LOW DOTTED LEFT-STEM TONE BAR;2EXTRA-HIGH LEFT-STEM TONE BAR",
    ";2HIGH LEFT-STEM TONE BAR;2MID LEFT-STEM TONE BAR;2LOW LEFT-STEM TONE BAR",
    ";2EXTRA-LOW LEFT-STEM TONE BAR;2DOT VERTICAL BAR;3SLASH;3HORIZONTAL BAR",
    ";2LOWER RIGHT CORNER ANGLE;2RAISED UP ARROW;3DOWN ARROW;3EXCLAMATION MARK",
    ";3INVERTED EXCLAMATION MARK;2LOW INVERTED EXCLAMATION MARK;2STRESS AND HIGH TONE;4LOW TONE",
    ";0LATIN CAPITAL LETTER EGYPTOLOGICAL ALEF;1SMALL LETTER EGYPTOLOGICAL ALEF",
    ";1CAPITAL LETTER EGYPTOLOGICAL AIN;1SMALL LETTER EGYPTOLOGICAL AIN;1CAPITAL LETTER HENG",
    ";1SMALL LETTER HENG;1CAPITAL LETTER TZ;1SMALL LETTER TZ;1CAPITAL LETTER TRESILLO",
    ";1SMALL LETTER TRESILLO;1CAPITAL LETTER CUATRILLO;1SMALL LETTER CUATRILLO",
    ";1CAPITAL LETTER CUATRILLO WITH COMMA;1SMALL LETTER CUATRILLO WITH COMMA",
    ";1LETTER SMALL CAPITAL F;4S;1CAPITAL LETTER AA;1SMALL LETTER AA;1CAPITAL LETTER AO",
    ";1SMALL LETTER AO;1CAPITAL LETTER AU;1SMALL LETTER AU;1CAPITAL LETTER AV;1SMALL LETTER AV",
    ";1CAPITAL LETTER AV WITH HORIZONTAL BAR;1SMALL LETTER AV WITH HORIZONTAL BAR",
    ";1CAPITAL LETTER AY;1SMALL LETTER AY;1CAPITAL LETTER REVERSED C WITH DOT",
    ";1SMALL LETTER REVERSED C WITH DOT;1CAPITAL LETTER K WITH STROKE;1SMALL LETTER K WITH STROKE",
    ";1CAPITAL LETTER K WITH DIAGONAL STROKE;1SMALL LETTER K WITH DIAGONAL STROKE",
    ";1CAPITAL LETTER K WITH STROKE AND DIAGONAL STROKE",
    ";1SMALL LETTER K WITH STROKE AND DIAGONAL STROKE;1CAPITAL LETTER BROKEN L",
    ";1SMALL LETTER BROKEN L;1CAPITAL LETTER L WITH HIGH STROKE;1SMALL LETTER L WITH HIGH STROKE",
    ";1CAPITAL LETTER O WITH LONG STROKE OVERLAY;1SMALL LETTER O WITH LONG STROKE OVERLAY",
    ";1CAPITAL LETTER O WITH LOOP;1SMALL LETTER O WITH LOOP;1CAPITAL LETTER OO;1SMALL LETTER OO",
    ";1CAPITAL LETTER P WITH STROKE THROUGH DESCENDER",
    ";1SMALL LETTER P WITH STROKE THROUGH DESCENDER;1CAPITAL LETTER P WITH FLOURISH",
    ";1SMALL LETTER P WITH FLOURISH;1CAPITAL LETTER P WITH SQUIRREL TAIL",
    ";1SMALL LETTER P WITH SQUIRREL TAIL;1CAPITAL LETTER Q WITH STROKE THROUGH DESCENDER",
    ";1SMALL LETTER Q WITH STROKE THROUGH DESCENDER;1CAPITAL LETTER Q WITH DIAGONAL STROKE",
    ";1SMALL LETTER Q WITH DIAGONAL STROKE;1CAPITAL LETTER R ROTUNDA;1SMALL LETTER R ROTUNDA",
    ";1CAPITAL LETTER RUM ROTUNDA;1SMALL LETTER RUM ROTUNDA",
    ";1CAPITAL LETTER V WITH DIAGONAL STROKE;1SMALL LETTER V WITH DIAGONAL STROKE",
    ";1CAPITAL LETTER VY;1SMALL LETTER VY;1CAPITAL LETTER VISIGOTHIC Z;1SMALL LETTER VISIGOTHIC Z",
    ";1CAPITAL LETTER THORN WITH STROKE;1SMALL LETTER THORN WITH STROKE",
    ";1CAPITAL LETTER THORN WITH STROKE THROUGH DESCENDER",
    ";1SMALL LETTER THORN WITH STROKE THROUGH DESCENDER;1CAPITAL LETTER VEND;1SMALL LETTER VEND",
    ";1CAPITAL LETTER ET;1SMALL LETTER ET;1CAPITAL LETTER IS;1SMALL LETTER IS;1CAPITAL LETTER CON",
    ";1SMALL LETTER CON;0MODIFIER LETTER US;0LATIN SMALL LETTER DUM;3LUM;3MUM;3NUM;3RUM",
    ";1LETTER SMALL CAPITAL RUM;1SMALL LETTER TUM;3UM;1CAPITAL LETTER INSULAR D",
    ";1SMALL LETTER INSULAR D;1CAPITAL LETTER INSULAR F;1SMALL LETTER INSULAR F",
    ";1CAPITAL LETTER INSULAR G;3TURNED INSULAR G;1SMALL LETTER TURNED INSULAR G",
    ";1CAPITAL LETTER TURNED L;1SMALL LETTER TURNED L;1CAPITAL LETTER INSULAR R",
    ";1SMALL LETTER INSULAR R;1CAPITAL LETTER INSULAR S;1SMALL LETTER INSULAR S",
    ";1CAPITAL LETTER INSULAR T;1SMALL LETTER INSULAR T;0MODIFIER LETTER LOW CIRCUMFLEX ACCENT",
    ";2COLON;2SHORT EQUALS SIGN;0LATIN CAPITAL LETTER SALTILLO;1SMALL LETTER SALTILLO",
    ";1CAPITAL LETTER TURNED H;1SMALL LETTER L WITH RETROFLEX HOOK AND BELT",
    ";1LETTER SINOLOGICAL DOT;1CAPITAL LETTER N WITH DESCENDER;1SMALL LETTER N WITH DESCENDER",
    ";1CAPITAL LETTER C WITH BAR;1SMALL LETTER C WITH BAR;5PALATAL HOOK;3H WITH PALATAL HOOK",
    ";1CAPITAL LETTER B WITH FLOURISH;1SMALL LETTER B WITH FLOURISH;1CAPITAL LETTER F WITH STROKE",
    ";1SMALL LETTER F WITH STROKE;1CAPITAL LETTER VOLAPUK AE;1SMALL LETTER VOLAPUK AE",
    ";1CAPITAL LETTER VOLAPUK OE;1SMALL LETTER VOLAPUK OE;1CAPITAL LETTER VOLAPUK UE",
    ";1SMALL LETTER VOLAPUK UE;1CAPITAL LETTER G WITH OBLIQUE STROKE",
    ";1SMALL LETTER G WITH OBLIQUE STROKE;1CAPITAL LETTER K WITH OBLIQUE STROKE",
    ";1SMALL LETTER K WITH OBLIQUE STROKE;1CAPITAL LETTER N WITH OBLIQUE STROKE",
    ";1SMALL LETTER N WITH OBLIQUE STROKE;1CAPITAL LETTER R WITH OBLIQUE STROKE",
    ";1SMALL LETTER R WITH OBLIQUE STROKE;1CAPITAL LETTER S WITH OBLIQUE STROKE",
    ";1SMALL LETTER S WITH OBLIQUE STROKE;1CAPITAL LETTER H WITH HOOK;3REVERSED OPEN E;3SCRIPT G",
    ";3L WITH BELT;3SMALL CAPITAL I;1LETTER SMALL CAPITAL Q;1CAPITAL LETTER TURNED K;4T",
    ";3J WITH CROSSED-TAIL"],
   [";3CHI;3BETA;1SMALL LETTER BETA;1CAPITAL LETTER OMEGA;1SMALL LETTER OMEGA",
    ";1CAPITAL LETTER U WITH STROKE;1SMALL LETTER U WITH STROKE;1CAPITAL LETTER GLOTTAL A",
    ";1SMALL LETTER GLOTTAL A;1CAPITAL LETTER GLOTTAL I;1SMALL LETTER GLOTTAL I",
    ";1CAPITAL LETTER GLOTTAL U;1SMALL LETTER GLOTTAL U;1CAPITAL LETTER OLD POLISH O",
    ";1SMALL LETTER OLD POLISH O;1CAPITAL LETTER ANGLICANA W;1SMALL LETTER ANGLICANA W",
    ";1CAPITAL LETTER C WITH PALATAL HOOK;3S WITH HOOK;3Z WITH PALATAL HOOK",
    ";3D WITH SHORT STROKE OVERLAY;1SMALL LETTER D WITH SHORT STROKE OVERLAY",
    ";1CAPITAL LETTER S WITH SHORT STROKE OVERLAY;1SMALL LETTER S WITH SHORT STROKE OVERLAY;@A7D0",
    ";1CAPITAL LETTER CLOSED INSULAR G;1SMALL LETTER CLOSED INSULAR G;@A7D3;3DOUBLE THORN;@A7D5",
    ";4WYNN;1CAPITAL LETTER MIDDLE SCOTS S;1SMALL LETTER MIDDLE SCOTS S;1CAPITAL LETTER SIGMOID S",
    ";1SMALL LETTER SIGMOID S;@A7F2;0MODIFIER LETTER CAPITAL C;3F;3Q",
    ";0LATIN CAPITAL LETTER REVERSED HALF H;1SMALL LETTER REVERSED HALF H",
    ";1EPIGRAPHIC LETTER SIDEWAYS I;0MODIFIER LETTER CAPITAL H WITH STROKE;2SMALL LIGATURE OE",
    ";0LATIN LETTER SMALL CAPITAL TURNED M;1EPIGRAPHIC LETTER REVERSED F;4P;3INVERTED M;3I LONGA",
    ";3ARCHAIC M;0SYLOTI NAGRI LETTER A;3I;2SIGN DVISVARA;2LETTER U;3E;3O;2SIGN HASANTA",
    ";2LETTER KO;3KHO;3GO;3GHO;2SIGN ANUSVARA;2LETTER CO;3CHO;3JO;3JHO;3TTO;3TTHO;3DDO;3DDHO;3TO",
    ";3THO;3DO;3DHO;3NO;3PO;3PHO;3BO;3BHO;3MO;3RO;3LO;3RRO;3SO;3HO;2VOWEL SIGN A;4I;4U;4E;4OO",
    ";2POETRY MARK-1;3MARK-2;3MARK-3;3MARK-4;2SIGN ALTERNATE HASANTA;@A830",
    ";0NORTH INDIC FRACTION ONE QUARTER;4HALF;3THREE QUARTERS;3ONE SIXTEENTH;4EIGHTH",
    ";3THREE SIXTEENTHS;2QUARTER MARK;2PLACEHOLDER MARK;2RUPEE MARK;2QUANTITY MARK;@A840",
    ";0PHAGS-PA LETTER KA;2KHA;2GA;2NGA;2CA;2CHA;2JA;2NYA;2TA;2THA;2DA;2NA;2PA;2PHA;2BA;2MA;2TSA",
    ";2TSHA;2DZA;2WA;2ZHA;2ZA;2SMALL A;2YA;2RA;2LA;2SHA;2SA;2HA;2A;2I;2U;2E;2O;2QA;2XA;2FA;2GGA",
    ";2EE;1SUBJOINED LETTER WA;3YA;1LETTER TTA;2TTHA;2DDA;2NNA;2ALTERNATE YA;2VOICELESS SHA",
    ";2VOICED HA;2ASPIRATED FA;1SUBJOINED LETTER RA;1SUPERFIXED LETTER RA;1LETTER CANDRABINDU",
    ";1SINGLE HEAD MARK;1DOUBLE HEAD MARK;1MARK SHAD;2DOUBLE SHAD;@A880;0SAURASHTRA SIGN ANUSVARA",
    ";2VISARGA;1LETTER A;2AA;2I;2II;2U;2UU;2VOCALIC R;3RR;3L;3LL;2E;2EE;2AI;2O;2OO;2AU;2KA;2KHA",
    ";2GA;2GHA;2NGA;2CA;2CHA;2JA;2JHA;2NYA;2TTA;2TTHA;2DDA;2DDHA;2NNA;2TA;2THA;2DA;2DHA;2NA;2PA",
    ";2PHA;2BA;2BHA;2MA;2YA;2RA;2LA;2VA;2SHA;2SSA;2SA;2HA;2LLA;1CONSONANT SIGN HAARU",
    ";1VOWEL SIGN AA;3I;3II;3U;3UU;3VOCALIC R;4RR;4L;4LL;3E;3EE;3AI;3O;3OO;3AU;1SIGN VIRAMA",
    ";2CANDRABINDU;@A8CE;1DANDA;1DOUBLE DANDA;1DIGIT ZERO;2ONE;2TWO;2THREE;2FOUR;2FIVE;2SIX",
    ";2SEVEN;2EIGHT;2NINE;@A8E0;0COMBINING DEVANAGARI DIGIT ZERO;3ONE;3TWO;3THREE;3FOUR;3FIVE",
    ";3SIX;3SEVEN;3EIGHT;3NINE;2LETTER A;3U;3KA;3NA;3PA;3RA;3VI;2SIGN AVAGRAHA",
    ";0DEVANAGARI SIGN SPACING CANDRABINDU;2CANDRABINDU VIRAMA;2DOUBLE CANDRABINDU VIRAMA",
    ";2CANDRABINDU TWO;3THREE;3AVAGRAHA;2PUSHPIKA;1GAP FILLER;1CARET;1HEADSTROKE;1SIGN SIDDHAM",
    ";1JAIN OM;1LETTER AY;1VOWEL SIGN AY;0KAYAH LI DIGIT ZERO;3ONE;3TWO;3THREE;3FOUR;3FIVE;3SIX",
    ";3SEVEN;3EIGHT;3NINE;2LETTER KA;3KHA;3GA;3NGA;3SA;3SHA;3ZA;3NYA;3TA;3HTA;3NA;3PA;3PHA;3MA",
    ";3DA;3BA;3RA;3YA;3LA;3WA;3THA;3HA;3VA;3CA;3A;3OE;3I;3OO;2VOWEL UE;3E;3U;3EE;3O;2TONE PLOPHU",
    ";3CALYA;4PLOPHU;2SIGN CWI;3SHYA;0REJANG LETTER KA;2GA;2NGA;2TA;2DA;2NA;2PA;2BA;2MA;2CA;2JA",
    ";2NYA;2SA;2RA;2LA;2YA;2WA;2HA;2MBA;2NGGA;2NDA;2NYJA;2A;1VOWEL SIGN I;3U;3E;3AI;3O;3AU;3EU",
    ";3EA;1CONSONANT SIGN NG;3N;3R;3H;1VIRAMA;@A95F;1SECTION MARK;0HANGUL CHOSEONG TIKEUT-MIEUM",
    ";2TIKEUT-PIEUP;2TIKEUT-SIOS;2TIKEUT-CIEUC;2RIEUL-KIYEOK;2RIEUL-SSANGKIYEOK;2RIEUL-TIKEUT",
    ";2RIEUL-SSANGTIKEUT;2RIEUL-MIEUM;2RIEUL-PIEUP;2RIEUL-SSANGPIEUP;2RIEUL-KAPYEOUNPIEUP",
    ";2RIEUL-SIOS;2RIEUL-CIEUC;2RIEUL-KHIEUKH;2MIEUM-KIYEOK;2MIEUM-TIKEUT;2MIEUM-SIOS",
    ";2PIEUP-SIOS-THIEUTH;2PIEUP-KHIEUKH;2PIEUP-HIEUH;2SSANGSIOS-PIEUP;2IEUNG-RIEUL;2IEUNG-HIEUH",
    ";2SSANGCIEUC-HIEUH;2SSANGTHIEUTH;2PHIEUPH-HIEUH;2HIEUH-SIOS;2SSANGYEORINHIEUH"],
   [";@A980;0JAVANESE SIGN PANYANGGA;2CECAK;2LAYAR;2WIGNYAN;1LETTER A;2I KAWI;2I;2II;2U;2PA CEREK",
    ";2NGA LELET;4RASWADI;2E;2AI;2O;2KA;3SASAK;3MURDA;2GA;3MURDA;2NGA;2CA;3MURDA;2JA;2NYA MURDA",
    ";2JA MAHAPRANA;2NYA;2TTA;3MAHAPRANA;2DDA;3MAHAPRANA;2NA MURDA;2TA;3MURDA;2DA;3MAHAPRANA;2NA",
    ";2PA;3MURDA;2BA;3MURDA;2MA;2YA;2RA;3AGUNG;2LA;2WA;2SA MURDA;3MAHAPRANA;2SA;2HA",
    ";1SIGN CECAK TELU;1VOWEL SIGN TARUNG;3TOLONG;3WULU;4MELIK;3SUKU;4MENDUT;3TALING;3DIRGA MURE",
    ";3PEPET;1CONSONANT SIGN KERET;3PENGKAL;3CAKRA;1PANGKON;1LEFT RERENGGAN;1RIGHT RERENGGAN",
    ";1PADA ANDAP;2MADYA;2LUHUR;2WINDU;2PANGKAT;2LINGSA;2LUNGSI;2ADEG;3ADEG;2PISELEH",
    ";1TURNED PADA PISELEH;@A9CF;1PANGRANGKEP;1DIGIT ZERO;2ONE;2TWO;2THREE;2FOUR;2FIVE;2SIX",
    ";2SEVEN;2EIGHT;2NINE;@A9DE;1PADA TIRTA TUMETES;2ISEN-ISEN;0MYANMAR LETTER SHAN GHA;3CHA;3JHA",
    ";3NNA;3BHA;1SIGN SHAN SAW;1MODIFIER LETTER SHAN REDUPLICATION;1LETTER TAI LAING NYA;4FA;4GA",
    ";4GHA;4JA;4JHA;4DDA;4DDHA;4NNA;1TAI LAING DIGIT ZERO;4ONE;4TWO;4THREE;4FOUR;4FIVE;4SIX",
    ";4SEVEN;4EIGHT;4NINE;1LETTER TAI LAING LLA;4DA;4DHA;4BA;4BHA;@AA00;0CHAM LETTER A;2I;2U;2E",
    ";2AI;2O;2KA;2KHA;2GA;2GHA;2NGUE;2NGA;2CHA;2CHHA;2JA;2JHA;2NHUE;2NHA;2NHJA;2TA;2THA;2DA;2DHA",
    ";2NUE;2NA;2DDA;2PA;2PPA;2PHA;2BA;2BHA;2MUE;2MA;2BBA;2YA;2RA;2LA;2VA;2SSA;2SA;2HA",
    ";1VOWEL SIGN AA;3I;3II;3EI;3U;3OE;3O;3AI;3AU;3UE;1CONSONANT SIGN YA;3RA;3LA;3WA;@AA40",
    ";1LETTER FINAL K;3G;3NG;1CONSONANT SIGN FINAL NG;1LETTER FINAL CH;3T;3N;3P;3Y;3R;3L;3SS",
    ";1CONSONANT SIGN FINAL M;4H;@AA50;1DIGIT ZERO;2ONE;2TWO;2THREE;2FOUR;2FIVE;2SIX;2SEVEN",
    ";2EIGHT;2NINE;@AA5C;1PUNCTUATION SPIRAL;2DANDA;2DOUBLE DANDA;2TRIPLE DANDA",
    ";0MYANMAR LETTER KHAMTI GA;3CA;3CHA;3JA;3JHA;3NYA;3TTA;3TTHA;3DDA;3DDHA;3DHA;3NA;3SA;3HA",
    ";3HHA;3FA;1MODIFIER LETTER KHAMTI REDUPLICATION;1LETTER KHAMTI XA;3ZA;3RA",
    ";1LOGOGRAM KHAMTI OAY;3QN;3HM;1SYMBOL AITON EXCLAMATION;3ONE;3TWO;1LETTER AITON RA",
    ";1SIGN PAO KAREN TONE;2TAI LAING TONE-2;4TONE-5;1LETTER SHWE PALAUNG CHA;4SHA",
    ";0TAI VIET LETTER LOW KO;3HIGH KO;3LOW KHO;3HIGH KHO;3LOW KHHO;3HIGH KHHO;3LOW GO;3HIGH GO",
    ";3LOW NGO;3HIGH NGO;3LOW CO;3HIGH CO;3LOW CHO;3HIGH CHO;3LOW SO;3HIGH SO;3LOW NYO;3HIGH NYO",
    ";3LOW DO;3HIGH DO;3LOW TO;3HIGH TO;3LOW THO;3HIGH THO;3LOW NO;3HIGH NO;3LOW BO;3HIGH BO",
    ";3LOW PO;3HIGH PO;3LOW PHO;3HIGH PHO;3LOW FO;3HIGH FO;3LOW MO;3HIGH MO;3LOW YO;3HIGH YO",
    ";3LOW RO;3HIGH RO;3LOW LO;3HIGH LO;3LOW VO;3HIGH VO;3LOW HO;3HIGH HO;3LOW O;3HIGH O",
    ";2MAI KANG;2VOWEL AA;3I;3UE;3U;3E;3O;2MAI KHIT;2VOWEL IA;3UEA;3UA;3AUE;3AY;3AN;3AM",
    ";2TONE MAI EK;4NUENG;4THO;4SONG;@AADB;2SYMBOL KON;3NUENG;3SAM;3HO HOI;3KOI KOI",
    ";0MEETEI MAYEK LETTER E;3O;3CHA;3NYA;3TTA;3TTHA;3DDA;3DDHA;3NNA;3SHA;3SSA;2VOWEL SIGN II;4UU",
    ";4AAI;4AU;4AAU;2CHEIKHAN;2AHANG KHUDAM;2ANJI;2SYLLABLE REPETITION MARK;2WORD REPETITION MARK",
    ";2VOWEL SIGN VISARGA;2VIRAMA;@AB01;0ETHIOPIC SYLLABLE TTHU;2TTHI;2TTHAA;2TTHEE;2TTHE;2TTHO",
    ";@AB09;2DDHU;2DDHI;2DDHAA;2DDHEE;2DDHE;2DDHO;@AB11;2DZU;2DZI;2DZAA;2DZEE;2DZE;2DZO;@AB20",
    ";2CCHHA;2CCHHU;2CCHHI;2CCHHAA;2CCHHEE;2CCHHE;2CCHHO;@AB28;2BBA;2BBU;2BBI;2BBAA;2BBEE;2BBE",
    ";2BBO;@AB30;0LATIN SMALL LETTER BARRED ALPHA;3A REVERSED-SCHWA;3BLACKLETTER E;3BARRED E",
    ";3E WITH FLOURISH;3LENIS F;3SCRIPT G WITH CROSSED-TAIL;3L WITH INVERTED LAZY S",
    ";5DOUBLE MIDDLE TILDE;5MIDDLE RING;3M WITH CROSSED-TAIL;3N WITH CROSSED-TAIL",
    ";3ENG WITH CROSSED-TAIL;3BLACKLETTER O;5WITH STROKE;3OPEN O WITH STROKE;3INVERTED OE",
    ";3TURNED OE WITH STROKE;6HORIZONTAL STROKE;4O OPEN-O;6WITH STROKE;3STIRRUP R",
    ";1LETTER SMALL CAPITAL R WITH RIGHT LEG;1SMALL LETTER R WITHOUT HANDLE;3DOUBLE R",
    ";3R WITH CROSSED-TAIL;3DOUBLE R WITH CROSSED-TAIL;3SCRIPT R;5WITH RING;3BASELINE ESH",
    ";3U WITH SHORT RIGHT LEG;4BAR WITH SHORT RIGHT LEG;3UI;3TURNED UI;3U WITH LEFT HOOK;3CHI",
    ";4WITH LOW RIGHT RING;6LEFT SERIF;3X WITH LOW RIGHT RING;5LONG LEFT LEG;8AND LOW RIGHT RING",
    ";8WITH SERIF;3Y WITH SHORT RIGHT LEG;0MODIFIER BREVE WITH INVERTED BREVE;1LETTER SMALL HENG",
    ";3L WITH INVERTED LAZY S;5MIDDLE TILDE;3U WITH LEFT HOOK;0LATIN SMALL LETTER SAKHA YAT",
    ";3IOTIFIED E;3OPEN OE;3UO;3INVERTED ALPHA;0GREEK LETTER SMALL CAPITAL OMEGA",
    ";0LATIN SMALL LETTER DZ DIGRAPH WITH RETROFLEX HOOK;3TS DIGRAPH WITH RETROFLEX HOOK",
    ";3TURNED R WITH MIDDLE TILDE;0MODIFIER LETTER SMALL TURNED W;2LEFT TACK;2RIGHT TACK"],
   [";@AB70;0CHEROKEE SMALL LETTER A;3E;3I;3O;3U;3V;3GA;3KA;3GE;3GI;3GO;3GU;3GV;3HA;3HE;3HI;3HO",
    ";3HU;3HV;3LA;3LE;3LI;3LO;3LU;3LV;3MA;3ME;3MI;3MO;3MU;3NA;3HNA;3NAH;3NE;3NI;3NO;3NU;3NV;3QUA",
    ";3QUE;3QUI;3QUO;3QUU;3QUV;3SA;3S;3SE;3SI;3SO;3SU;3SV;3DA;3TA;3DE;3TE;3DI;3TI;3DO;3DU;3DV",
    ";3DLA;3TLA;3TLE;3TLI;3TLO;3TLU;3TLV;3TSA;3TSE;3TSI;3TSO;3TSU;3TSV;3WA;3WE;3WI;3WO;3WU;3WV",
    ";3YA;0MEETEI MAYEK LETTER KOK;3SAM;3LAI;3MIT;3PA;3NA;3CHIL;3TIL;3KHOU;3NGOU;3THOU;3WAI;3YANG",
    ";3HUK;3UN;3I;3PHAM;3ATIYA;3GOK;3JHAM;3RAI;3BA;3JIL;3DIL;3GHOU;3DHOU;3BHAM;3KOK LONSUM",
    ";3LAI LONSUM;3MIT LONSUM;3PA LONSUM;3NA LONSUM;3TIL LONSUM;3NGOU LONSUM;3I LONSUM",
    ";2VOWEL SIGN ONAP;4INAP;4ANAP;4YENAP;4SOUNAP;4UNAP;4CHEINAP;4NUNG;2CHEIKHEI;2LUM IYEK",
    ";2APUN IYEK;@ABF0;2DIGIT ZERO;3ONE;3TWO;3THREE;3FOUR;3FIVE;3SIX;3SEVEN;3EIGHT;3NINE;@D7B0",
    ";0HANGUL JUNGSEONG O-YEO;2O-O-I;2YO-A;2YO-AE;2YO-EO;2U-YEO;2U-I-I;2YU-AE;2YU-O;2EU-A;2EU-EO",
    ";2EU-E;2EU-O;2I-YA-O;2I-YAE;2I-YEO;2I-YE;2I-O-I;2I-YO;2I-YU;2I-I;2ARAEA-A;2ARAEA-E;@D7CB",
    ";1JONGSEONG NIEUN-RIEUL;2NIEUN-CHIEUCH;2SSANGTIKEUT;2SSANGTIKEUT-PIEUP;2TIKEUT-PIEUP",
    ";2TIKEUT-SIOS;2TIKEUT-SIOS-KIYEOK;2TIKEUT-CIEUC;2TIKEUT-CHIEUCH;2TIKEUT-THIEUTH",
    ";2RIEUL-SSANGKIYEOK;2RIEUL-KIYEOK-HIEUH;2SSANGRIEUL-KHIEUKH;2RIEUL-MIEUM-HIEUH",
    ";2RIEUL-PIEUP-TIKEUT;2RIEUL-PIEUP-PHIEUPH;2RIEUL-YESIEUNG;2RIEUL-YEORINHIEUH-HIEUH",
    ";2KAPYEOUNRIEUL;2MIEUM-NIEUN;2MIEUM-SSANGNIEUN;2SSANGMIEUM;2MIEUM-PIEUP-SIOS;2MIEUM-CIEUC",
    ";2PIEUP-TIKEUT;2PIEUP-RIEUL-PHIEUPH;2PIEUP-MIEUM;2SSANGPIEUP;2PIEUP-SIOS-TIKEUT;2PIEUP-CIEUC",
    ";2PIEUP-CHIEUCH;2SIOS-MIEUM;2SIOS-KAPYEOUNPIEUP;2SSANGSIOS-KIYEOK;2SSANGSIOS-TIKEUT",
    ";2SIOS-PANSIOS;2SIOS-CIEUC;2SIOS-CHIEUCH;2SIOS-THIEUTH;2SIOS-HIEUH;2PANSIOS-PIEUP",
    ";2PANSIOS-KAPYEOUNPIEUP;2YESIEUNG-MIEUM;2YESIEUNG-HIEUH;2CIEUC-PIEUP;2CIEUC-SSANGPIEUP",
    ";2SSANGCIEUC;2PHIEUPH-SIOS;2PHIEUPH-THIEUTH;@FB00;0LATIN SMALL LIGATURE FF;3FI;3FL;3FFI;3FFL",
    ";3LONG S T;3ST;@FB13;0ARMENIAN SMALL LIGATURE MEN NOW;4ECH;4INI;3VEW NOW;3MEN XEH;@FB1D",
    ";0HEBREW LETTER YOD WITH HIRIQ;1POINT JUDEO-SPANISH VARIKA;1LIGATURE YIDDISH YOD YOD PATAH",
    ";1LETTER ALTERNATIVE AYIN;2WIDE ALEF;3DALET;3HE;3KAF;3LAMED;3FINAL MEM;3RESH;3TAV",
    ";2ALTERNATIVE PLUS SIGN;2SHIN WITH SHIN DOT;4SIN DOT;4DAGESH AND SHIN DOT;6SIN DOT",
    ";2ALEF WITH PATAH;4QAMATS;4MAPIQ;2BET WITH DAGESH;2GIMEL WITH DAGESH;2DALET WITH DAGESH",
    ";2HE WITH MAPIQ;2VAV WITH DAGESH;2ZAYIN WITH DAGESH;@FB38;2TET WITH DAGESH;2YOD WITH DAGESH",
    ";2FINAL KAF WITH DAGESH;2KAF WITH DAGESH;2LAMED WITH DAGESH;@FB3E;2MEM WITH DAGESH;@FB40",
    ";2NUN WITH DAGESH;2SAMEKH WITH DAGESH;@FB43;2FINAL PE WITH DAGESH;2PE WITH DAGESH;@FB46",
    ";2TSADI WITH DAGESH;2QOF WITH DAGESH;2RESH WITH DAGESH;2SHIN WITH DAGESH;2TAV WITH DAGESH",
    ";2VAV WITH HOLAM;2BET WITH RAFE;2KAF WITH RAFE;2PE WITH RAFE;1LIGATURE ALEF LAMED",
    ";0ARABIC LETTER ALEF WASLA ISOLATED FORM;4FINAL FORM;2BEEH ISOLATED FORM;3FINAL FORM",
    ";3INITIAL FORM;3MEDIAL FORM;2PEH ISOLATED FORM;3FINAL FORM;3INITIAL FORM;3MEDIAL FORM",
    ";2BEHEH ISOLATED FORM;3FINAL FORM;3INITIAL FORM;3MEDIAL FORM;2TTEHEH ISOLATED FORM",
    ";3FINAL FORM;3INITIAL FORM;3MEDIAL FORM;2TEHEH ISOLATED FORM;3FINAL FORM;3INITIAL FORM",
    ";3MEDIAL FORM;2TTEH ISOLATED FORM;3FINAL FORM;3INITIAL FORM;3MEDIAL FORM;2VEH ISOLATED FORM",
    ";3FINAL FORM;3INITIAL FORM;3MEDIAL FORM;2PEHEH ISOLATED FORM;3FINAL FORM;3INITIAL FORM",
    ";3MEDIAL FORM;2DYEH ISOLATED FORM;3FINAL FORM;3INITIAL FORM;3MEDIAL FORM;2NYEH ISOLATED FORM",
    ";3FINAL FORM;3INITIAL FORM;3MEDIAL FORM;2TCHEH ISOLATED FORM;3FINAL FORM;3INITIAL FORM",
    ";3MEDIAL FORM;2TCHEHEH ISOLATED FORM;3FINAL FORM;3INITIAL FORM;3MEDIAL FORM",
    ";2DDAHAL ISOLATED FORM;3FINAL FORM;2DAHAL ISOLATED FORM;3FINAL FORM;2DUL ISOLATED FORM",
    ";3FINAL FORM;2DDAL ISOLATED FORM;3FINAL FORM;2JEH ISOLATED FORM;3FINAL FORM",
    ";2RREH ISOLATED FORM;3FINAL FORM;2KEHEH ISOLATED FORM;3FINAL FORM;3INITIAL FORM;3MEDIAL FORM",
    ";2GAF ISOLATED FORM;3FINAL FORM;3INITIAL FORM;3MEDIAL FORM;2GUEH ISOLATED FORM;3FINAL FORM",
    ";3INITIAL FORM;3MEDIAL FORM;2NGOEH ISOLATED FORM;3FINAL FORM;3INITIAL FORM;3MEDIAL FORM",
    ";2NOON GHUNNA ISOLATED FORM;4FINAL FORM;2RNOON ISOLATED FORM;3FINAL FORM;3INITIAL FORM",
    ";3MEDIAL FORM;2HEH WITH YEH ABOVE ISOLATED FORM;6FINAL FORM;3GOAL ISOLATED FORM;4FINAL FORM",
    ";4INITIAL FORM;4MEDIAL FORM;3DOACHASHMEE ISOLATED FORM;4FINAL FORM;4INITIAL FORM",
    ";4MEDIAL FORM;2YEH BARREE ISOLATED FORM;4FINAL FORM;4WITH HAMZA ABOVE ISOLATED FORM",
    ";7FINAL FORM;1SYMBOL DOT ABOVE;3BELOW;2TWO DOTS ABOVE;4BELOW;2THREE DOTS ABOVE;4BELOW",
    ";4POINTING DOWNWARDS ABOVE;6BELOW;2FOUR DOTS ABOVE;4BELOW;2DOUBLE VERTICAL BAR BELOW",
    ";2TWO DOTS VERTICALLY ABOVE;5BELOW;2RING;2SMALL TAH ABOVE;4BELOW;2WASLA ABOVE"],
   [";@FBD3;1LETTER NG ISOLATED FORM;3FINAL FORM;3INITIAL FORM;3MEDIAL FORM;2U ISOLATED FORM",
    ";3FINAL FORM;2OE ISOLATED FORM;3FINAL FORM;2YU ISOLATED FORM;3FINAL FORM",
    ";2U WITH HAMZA ABOVE ISOLATED FORM;2VE ISOLATED FORM;3FINAL FORM;2KIRGHIZ OE ISOLATED FORM",
    ";4FINAL FORM;3YU ISOLATED FORM;4FINAL FORM;2E ISOLATED FORM;3FINAL FORM;3INITIAL FORM",
    ";3MEDIAL FORM;2UIGHUR KAZAKH KIRGHIZ ALEF MAKSURA INITIAL FORM;7MEDIAL FORM",
    ";1LIGATURE YEH WITH HAMZA ABOVE WITH ALEF ISOLATED FORM;8FINAL FORM;7AE ISOLATED FORM",
    ";8FINAL FORM;7WAW ISOLATED FORM;8FINAL FORM;7U ISOLATED FORM;8FINAL FORM;7OE ISOLATED FORM",
    ";8FINAL FORM;7YU ISOLATED FORM;8FINAL FORM;7E ISOLATED FORM;8FINAL FORM;8INITIAL FORM",
    ";2UIGHUR KIRGHIZ YEH WITH HAMZA ABOVE WITH ALEF MAKSURA ISOLATED FORM",
    ";9ALEF MAKSURA FINAL FORM;9ALEF MAKSURA INITIAL FORM;1LETTER FARSI YEH ISOLATED FORM",
    ";4FINAL FORM;4INITIAL FORM;4MEDIAL FORM",
    ";1LIGATURE YEH WITH HAMZA ABOVE WITH JEEM ISOLATED FORM;7HAH ISOLATED FORM",
    ";7MEEM ISOLATED FORM;7ALEF MAKSURA ISOLATED FORM;7YEH ISOLATED FORM",
    ";2BEH WITH JEEM ISOLATED FORM;4HAH ISOLATED FORM;4KHAH ISOLATED FORM;4MEEM ISOLATED FORM",
    ";4ALEF MAKSURA ISOLATED FORM;4YEH ISOLATED FORM;2TEH WITH JEEM ISOLATED FORM",
    ";4HAH ISOLATED FORM;4KHAH ISOLATED FORM;4MEEM ISOLATED FORM;4ALEF MAKSURA ISOLATED FORM",
    ";4YEH ISOLATED FORM;2THEH WITH JEEM ISOLATED FORM;4MEEM ISOLATED FORM",
    ";4ALEF MAKSURA ISOLATED FORM;4YEH ISOLATED FORM;2JEEM WITH HAH ISOLATED FORM",
    ";4MEEM ISOLATED FORM;2HAH WITH JEEM ISOLATED FORM;4MEEM ISOLATED FORM",
    ";2KHAH WITH JEEM ISOLATED FORM;4HAH ISOLATED FORM;4MEEM ISOLATED FORM",
    ";2SEEN WITH JEEM ISOLATED FORM;4HAH ISOLATED FORM;4KHAH ISOLATED FORM;4MEEM ISOLATED FORM",
    ";2SAD WITH HAH ISOLATED FORM;4MEEM ISOLATED FORM;2DAD WITH JEEM ISOLATED FORM",
    ";4HAH ISOLATED FORM;4KHAH ISOLATED FORM;4MEEM ISOLATED FORM;2TAH WITH HAH ISOLATED FORM",
    ";4MEEM ISOLATED FORM;2ZAH WITH MEEM ISOLATED FORM;2AIN WITH JEEM ISOLATED FORM",
    ";4MEEM ISOLATED FORM;2GHAIN WITH JEEM ISOLATED FORM;4MEEM ISOLATED FORM",
    ";2FEH WITH JEEM ISOLATED FORM;4HAH ISOLATED FORM;4KHAH ISOLATED FORM;4MEEM ISOLATED FORM",
    ";4ALEF MAKSURA ISOLATED FORM;4YEH ISOLATED FORM;2QAF WITH HAH ISOLATED FORM",
    ";4MEEM ISOLATED FORM;4ALEF MAKSURA ISOLATED FORM;4YEH ISOLATED FORM",
    ";2KAF WITH ALEF ISOLATED FORM;4JEEM ISOLATED FORM;4HAH ISOLATED FORM;4KHAH ISOLATED FORM",
    ";4LAM ISOLATED FORM;4MEEM ISOLATED FORM;4ALEF MAKSURA ISOLATED FORM;4YEH ISOLATED FORM",
    ";2LAM WITH JEEM ISOLATED FORM;4HAH ISOLATED FORM;4KHAH ISOLATED FORM;4MEEM ISOLATED FORM",
    ";4ALEF MAKSURA ISOLATED FORM;4YEH ISOLATED FORM;2MEEM WITH JEEM ISOLATED FORM",
    ";4HAH ISOLATED FORM;4KHAH ISOLATED FORM;4MEEM ISOLATED FORM;4ALEF MAKSURA ISOLATED FORM",
    ";4YEH ISOLATED FORM;2NOON WITH JEEM ISOLATED FORM;4HAH ISOLATED FORM;4KHAH ISOLATED FORM",
    ";4MEEM ISOLATED FORM;4ALEF MAKSURA ISOLATED FORM;4YEH ISOLATED FORM",
    ";2HEH WITH JEEM ISOLATED FORM;4MEEM ISOLATED FORM;4ALEF MAKSURA ISOLATED FORM",
    ";4YEH ISOLATED FORM;2YEH WITH JEEM ISOLATED FORM;4HAH ISOLATED FORM;4KHAH ISOLATED FORM",
    ";4MEEM ISOLATED FORM;4ALEF MAKSURA ISOLATED FORM;4YEH ISOLATED FORM",
    ";2THAL WITH SUPERSCRIPT ALEF ISOLATED FORM;2REH WITH SUPERSCRIPT ALEF ISOLATED FORM",
    ";2ALEF MAKSURA WITH SUPERSCRIPT ALEF ISOLATED FORM;2SHADDA WITH DAMMATAN ISOLATED FORM",
    ";4KASRATAN ISOLATED FORM;4FATHA ISOLATED FORM;4DAMMA ISOLATED FORM;4KASRA ISOLATED FORM",
    ";4SUPERSCRIPT ALEF ISOLATED FORM;2YEH WITH HAMZA ABOVE WITH REH FINAL FORM;7ZAIN FINAL FORM",
    ";7MEEM FINAL FORM;7NOON FINAL FORM;7ALEF MAKSURA FINAL FORM;7YEH FINAL FORM",
    ";2BEH WITH REH FINAL FORM;4ZAIN FINAL FORM;4MEEM FINAL FORM;4NOON FINAL FORM",
    ";4ALEF MAKSURA FINAL FORM;4YEH FINAL FORM;2TEH WITH REH FINAL FORM;4ZAIN FINAL FORM",
    ";4MEEM FINAL FORM;4NOON FINAL FORM;4ALEF MAKSURA FINAL FORM;4YEH FINAL FORM",
    ";2THEH WITH REH FINAL FORM;4ZAIN FINAL FORM;4MEEM FINAL FORM;4NOON FINAL FORM",
    ";4ALEF MAKSURA FINAL FORM;4YEH FINAL FORM;2FEH WITH ALEF MAKSURA FINAL FORM;4YEH FINAL FORM",
    ";2QAF WITH ALEF MAKSURA FINAL FORM;4YEH FINAL FORM;2KAF WITH ALEF FINAL FORM;4LAM FINAL FORM",
    ";4MEEM FINAL FORM;4ALEF MAKSURA FINAL FORM;4YEH FINAL FORM;2LAM WITH MEEM FINAL FORM",
    ";4ALEF MAKSURA FINAL FORM;4YEH FINAL FORM;2MEEM WITH ALEF FINAL FORM;4MEEM FINAL FORM",
    ";2NOON WITH REH FINAL FORM;4ZAIN FINAL FORM;4MEEM FINAL FORM;4NOON FINAL FORM",
    ";4ALEF MAKSURA FINAL FORM;4YEH FINAL FORM;2ALEF MAKSURA WITH SUPERSCRIPT ALEF FINAL FORM",
    ";2YEH WITH REH FINAL FORM;4ZAIN FINAL FORM;4MEEM FINAL FORM;4NOON FINAL FORM",
    ";4ALEF MAKSURA FINAL FORM;4YEH FINAL FORM;4HAMZA ABOVE WITH JEEM INITIAL FORM",
    ";7HAH INITIAL FORM;7KHAH INITIAL FORM;7MEEM INITIAL FORM;7HEH INITIAL FORM",
    ";2BEH WITH JEEM INITIAL FORM;4HAH INITIAL FORM;4KHAH INITIAL FORM;4MEEM INITIAL FORM",
    ";4HEH INITIAL FORM;2TEH WITH JEEM INITIAL FORM;4HAH INITIAL FORM;4KHAH INITIAL FORM",
    ";4MEEM INITIAL FORM;4HEH INITIAL FORM;2THEH WITH MEEM INITIAL FORM",
    ";2JEEM WITH HAH INITIAL FORM;4MEEM INITIAL FORM;2HAH WITH JEEM INITIAL FORM",
    ";4MEEM INITIAL FORM"],
   [";2KHAH WITH JEEM INITIAL FORM;4MEEM INITIAL FORM;2SEEN WITH JEEM INITIAL FORM",
    ";4HAH INITIAL FORM;4KHAH INITIAL FORM;4MEEM INITIAL FORM;2SAD WITH HAH INITIAL FORM",
    ";4KHAH INITIAL FORM;4MEEM INITIAL FORM;2DAD WITH JEEM INITIAL FORM;4HAH INITIAL FORM",
    ";4KHAH INITIAL FORM;4MEEM INITIAL FORM;2TAH WITH HAH INITIAL FORM",
    ";2ZAH WITH MEEM INITIAL FORM;2AIN WITH JEEM INITIAL FORM;4MEEM INITIAL FORM",
    ";2GHAIN WITH JEEM INITIAL FORM;4MEEM INITIAL FORM;2FEH WITH JEEM INITIAL FORM",
    ";4HAH INITIAL FORM;4KHAH INITIAL FORM;4MEEM INITIAL FORM;2QAF WITH HAH INITIAL FORM",
    ";4MEEM INITIAL FORM;2KAF WITH JEEM INITIAL FORM;4HAH INITIAL FORM;4KHAH INITIAL FORM",
    ";4LAM INITIAL FORM;4MEEM INITIAL FORM;2LAM WITH JEEM INITIAL FORM;4HAH INITIAL FORM",
    ";4KHAH INITIAL FORM;4MEEM INITIAL FORM;4HEH INITIAL FORM;2MEEM WITH JEEM INITIAL FORM",
    ";4HAH INITIAL FORM;4KHAH INITIAL FORM;4MEEM INITIAL FORM;2NOON WITH JEEM INITIAL FORM",
    ";4HAH INITIAL FORM;4KHAH INITIAL FORM;4MEEM INITIAL FORM;4HEH INITIAL FORM",
    ";2HEH WITH JEEM INITIAL FORM;4MEEM INITIAL FORM;4SUPERSCRIPT ALEF INITIAL FORM",
    ";2YEH WITH JEEM INITIAL FORM;4HAH INITIAL FORM;4KHAH INITIAL FORM;4MEEM INITIAL FORM",
    ";4HEH INITIAL FORM;4HAMZA ABOVE WITH MEEM MEDIAL FORM;7HEH MEDIAL FORM",
    ";2BEH WITH MEEM MEDIAL FORM;4HEH MEDIAL FORM;2TEH WITH MEEM MEDIAL FORM;4HEH MEDIAL FORM",
    ";2THEH WITH MEEM MEDIAL FORM;4HEH MEDIAL FORM;2SEEN WITH MEEM MEDIAL FORM;4HEH MEDIAL FORM",
    ";2SHEEN WITH MEEM MEDIAL FORM;4HEH MEDIAL FORM;2KAF WITH LAM MEDIAL FORM;4MEEM MEDIAL FORM",
    ";2LAM WITH MEEM MEDIAL FORM;2NOON WITH MEEM MEDIAL FORM;4HEH MEDIAL FORM",
    ";2YEH WITH MEEM MEDIAL FORM;4HEH MEDIAL FORM;2SHADDA WITH FATHA MEDIAL FORM",
    ";4DAMMA MEDIAL FORM;4KASRA MEDIAL FORM;2TAH WITH ALEF MAKSURA ISOLATED FORM",
    ";4YEH ISOLATED FORM;2AIN WITH ALEF MAKSURA ISOLATED FORM;4YEH ISOLATED FORM",
    ";2GHAIN WITH ALEF MAKSURA ISOLATED FORM;4YEH ISOLATED FORM",
    ";2SEEN WITH ALEF MAKSURA ISOLATED FORM;4YEH ISOLATED FORM",
    ";2SHEEN WITH ALEF MAKSURA ISOLATED FORM;4YEH ISOLATED FORM",
    ";2HAH WITH ALEF MAKSURA ISOLATED FORM;4YEH ISOLATED FORM",
    ";2JEEM WITH ALEF MAKSURA ISOLATED FORM;4YEH ISOLATED FORM",
    ";2KHAH WITH ALEF MAKSURA ISOLATED FORM;4YEH ISOLATED FORM",
    ";2SAD WITH ALEF MAKSURA ISOLATED FORM;4YEH ISOLATED FORM",
    ";2DAD WITH ALEF MAKSURA ISOLATED FORM;4YEH ISOLATED FORM;2SHEEN WITH JEEM ISOLATED FORM",
    ";4HAH ISOLATED FORM;4KHAH ISOLATED FORM;4MEEM ISOLATED FORM;4REH ISOLATED FORM",
    ";2SEEN WITH REH ISOLATED FORM;2SAD WITH REH ISOLATED FORM;2DAD WITH REH ISOLATED FORM",
    ";2TAH WITH ALEF MAKSURA FINAL FORM;4YEH FINAL FORM;2AIN WITH ALEF MAKSURA FINAL FORM",
    ";4YEH FINAL FORM;2GHAIN WITH ALEF MAKSURA FINAL FORM;4YEH FINAL FORM",
    ";2SEEN WITH ALEF MAKSURA FINAL FORM;4YEH FINAL FORM;2SHEEN WITH ALEF MAKSURA FINAL FORM",
    ";4YEH FINAL FORM;2HAH WITH ALEF MAKSURA FINAL FORM;4YEH FINAL FORM",
    ";2JEEM WITH ALEF MAKSURA FINAL FORM;4YEH FINAL FORM;2KHAH WITH ALEF MAKSURA FINAL FORM",
    ";4YEH FINAL FORM;2SAD WITH ALEF MAKSURA FINAL FORM;4YEH FINAL FORM",
    ";2DAD WITH ALEF MAKSURA FINAL FORM;4YEH FINAL FORM;2SHEEN WITH JEEM FINAL FORM",
    ";4HAH FINAL FORM;4KHAH FINAL FORM;4MEEM FINAL FORM;4REH FINAL FORM;2SEEN WITH REH FINAL FORM",
    ";2SAD WITH REH FINAL FORM;2DAD WITH REH FINAL FORM;2SHEEN WITH JEEM INITIAL FORM",
    ";4HAH INITIAL FORM;4KHAH INITIAL FORM;4MEEM INITIAL FORM;2SEEN WITH HEH INITIAL FORM",
    ";2SHEEN WITH HEH INITIAL FORM;2TAH WITH MEEM INITIAL FORM;2SEEN WITH JEEM MEDIAL FORM",
    ";4HAH MEDIAL FORM;4KHAH MEDIAL FORM;2SHEEN WITH JEEM MEDIAL FORM;4HAH MEDIAL FORM",
    ";4KHAH MEDIAL FORM;2TAH WITH MEEM MEDIAL FORM;2ZAH WITH MEEM MEDIAL FORM",
    ";2ALEF WITH FATHATAN FINAL FORM;5ISOLATED FORM;0ORNATE LEFT PARENTHESIS;1RIGHT PARENTHESIS",
    ";0ARABIC LIGATURE RAHIMAHU ALLAAH;2RADI ALLAAHU ANH;4ANHAA;4ANHUM;4ANHUMAA;4ANHUNNA",
    ";2SALLALLAAHU ALAYHI WA-AALIH;2ALAYHI AS-SALAAM;2ALAYHIM AS-SALAAM;2ALAYHIMAA AS-SALAAM",
    ";2ALAYHI AS-SALAATU WAS-SALAAM;2QUDDISA SIRRAH;2SALLALLAHU ALAYHI WAAALIHEE WA-SALLAM",
    ";2ALAYHAA AS-SALAAM;2TABAARAKA WA-TAAALAA;2RAHIMAHUM ALLAAH",
    ";2TEH WITH JEEM WITH MEEM INITIAL FORM;4HAH WITH JEEM FINAL FORM;7INITIAL FORM",
    ";6MEEM INITIAL FORM;4KHAH WITH MEEM INITIAL FORM;4MEEM WITH JEEM INITIAL FORM",
    ";6HAH INITIAL FORM;6KHAH INITIAL FORM;2JEEM WITH MEEM WITH HAH FINAL FORM;7INITIAL FORM",
    ";2HAH WITH MEEM WITH YEH FINAL FORM;6ALEF MAKSURA FINAL FORM",
    ";2SEEN WITH HAH WITH JEEM INITIAL FORM;4JEEM WITH HAH INITIAL FORM;6ALEF MAKSURA FINAL FORM",
    ";4MEEM WITH HAH FINAL FORM;7INITIAL FORM;6JEEM INITIAL FORM;6MEEM FINAL FORM;7INITIAL FORM",
    ";2SAD WITH HAH WITH HAH FINAL FORM;7INITIAL FORM;4MEEM WITH MEEM FINAL FORM",
    ";2SHEEN WITH HAH WITH MEEM FINAL FORM;7INITIAL FORM;4JEEM WITH YEH FINAL FORM",
    ";4MEEM WITH KHAH FINAL FORM;7INITIAL FORM;6MEEM FINAL FORM;7INITIAL FORM",
    ";2DAD WITH HAH WITH ALEF MAKSURA FINAL FORM;4KHAH WITH MEEM FINAL FORM;7INITIAL FORM",
    ";2TAH WITH MEEM WITH HAH FINAL FORM"],
   [";7INITIAL FORM;6MEEM INITIAL FORM;6YEH FINAL FORM;2AIN WITH JEEM WITH MEEM FINAL FORM",
    ";4MEEM WITH MEEM FINAL FORM;7INITIAL FORM;6ALEF MAKSURA FINAL FORM",
    ";2GHAIN WITH MEEM WITH MEEM FINAL FORM;6YEH FINAL FORM;6ALEF MAKSURA FINAL FORM",
    ";2FEH WITH KHAH WITH MEEM FINAL FORM;7INITIAL FORM;2QAF WITH MEEM WITH HAH FINAL FORM",
    ";6MEEM FINAL FORM;2LAM WITH HAH WITH MEEM FINAL FORM;6YEH FINAL FORM",
    ";6ALEF MAKSURA FINAL FORM;4JEEM WITH JEEM INITIAL FORM;7FINAL FORM",
    ";4KHAH WITH MEEM FINAL FORM;7INITIAL FORM;4MEEM WITH HAH FINAL FORM;7INITIAL FORM",
    ";2MEEM WITH HAH WITH JEEM INITIAL FORM;6MEEM INITIAL FORM;6YEH FINAL FORM",
    ";4JEEM WITH HAH INITIAL FORM;6MEEM INITIAL FORM;4KHAH WITH JEEM INITIAL FORM",
    ";6MEEM INITIAL FORM;@FD92;4JEEM WITH KHAH INITIAL FORM;2HEH WITH MEEM WITH JEEM INITIAL FORM",
    ";6MEEM INITIAL FORM;2NOON WITH HAH WITH MEEM INITIAL FORM;6ALEF MAKSURA FINAL FORM",
    ";4JEEM WITH MEEM FINAL FORM;7INITIAL FORM;6ALEF MAKSURA FINAL FORM;4MEEM WITH YEH FINAL FORM",
    ";6ALEF MAKSURA FINAL FORM;2YEH WITH MEEM WITH MEEM FINAL FORM;7INITIAL FORM",
    ";2BEH WITH KHAH WITH YEH FINAL FORM;2TEH WITH JEEM WITH YEH FINAL FORM",
    ";6ALEF MAKSURA FINAL FORM;4KHAH WITH YEH FINAL FORM;6ALEF MAKSURA FINAL FORM",
    ";4MEEM WITH YEH FINAL FORM;6ALEF MAKSURA FINAL FORM;2JEEM WITH MEEM WITH YEH FINAL FORM",
    ";4HAH WITH ALEF MAKSURA FINAL FORM;4MEEM WITH ALEF MAKSURA FINAL FORM",
    ";2SEEN WITH KHAH WITH ALEF MAKSURA FINAL FORM;2SAD WITH HAH WITH YEH FINAL FORM",
    ";2SHEEN WITH HAH WITH YEH FINAL FORM;2DAD WITH HAH WITH YEH FINAL FORM",
    ";2LAM WITH JEEM WITH YEH FINAL FORM;4MEEM WITH YEH FINAL FORM",
    ";2YEH WITH HAH WITH YEH FINAL FORM;4JEEM WITH YEH FINAL FORM;4MEEM WITH YEH FINAL FORM",
    ";2MEEM WITH MEEM WITH YEH FINAL FORM;2QAF WITH MEEM WITH YEH FINAL FORM",
    ";2NOON WITH HAH WITH YEH FINAL FORM;2QAF WITH MEEM WITH HAH INITIAL FORM",
    ";2LAM WITH HAH WITH MEEM INITIAL FORM;2AIN WITH MEEM WITH YEH FINAL FORM",
    ";2KAF WITH MEEM WITH YEH FINAL FORM;2NOON WITH JEEM WITH HAH INITIAL FORM",
    ";2MEEM WITH KHAH WITH YEH FINAL FORM;2LAM WITH JEEM WITH MEEM INITIAL FORM",
    ";2KAF WITH MEEM WITH MEEM FINAL FORM;2LAM WITH JEEM WITH MEEM FINAL FORM",
    ";2NOON WITH JEEM WITH HAH FINAL FORM;2JEEM WITH HAH WITH YEH FINAL FORM",
    ";2HAH WITH JEEM WITH YEH FINAL FORM;2MEEM WITH JEEM WITH YEH FINAL FORM",
    ";2FEH WITH MEEM WITH YEH FINAL FORM;2BEH WITH HAH WITH YEH FINAL FORM",
    ";2KAF WITH MEEM WITH MEEM INITIAL FORM;2AIN WITH JEEM WITH MEEM INITIAL FORM",
    ";2SAD WITH MEEM WITH MEEM INITIAL FORM;2SEEN WITH KHAH WITH YEH FINAL FORM",
    ";2NOON WITH JEEM WITH YEH FINAL FORM;@FDCF;2SALAAMUHU ALAYNAA;@FDF0",
    ";2SALLA USED AS KORANIC STOP SIGN ISOLATED FORM",
    ";2QALA USED AS KORANIC STOP SIGN ISOLATED FORM;2ALLAH ISOLATED FORM;2AKBAR ISOLATED FORM",
    ";2MOHAMMAD ISOLATED FORM;2SALAM ISOLATED FORM;2RASOUL ISOLATED FORM;2ALAYHE ISOLATED FORM",
    ";2WASALLAM ISOLATED FORM;2SALLA ISOLATED FORM;2SALLALLAHOU ALAYHE WASALLAM;2JALLAJALALOUHOU",
    ";0RIAL SIGN;0ARABIC LIGATURE BISMILLAH AR-RAHMAN AR-RAHEEM;2SUBHAANAHU WA TAAALAA",
    ";2AZZA WA JALL;0VARIATION SELECTOR-1;1SELECTOR-2;1SELECTOR-3;1SELECTOR-4;1SELECTOR-5",
    ";1SELECTOR-6;1SELECTOR-7;1SELECTOR-8;1SELECTOR-9;1SELECTOR-10;1SELECTOR-11;1SELECTOR-12",
    ";1SELECTOR-13;1SELECTOR-14;1SELECTOR-15;1SELECTOR-16;0PRESENTATION FORM FOR VERTICAL COMMA",
    ";4IDEOGRAPHIC COMMA;5FULL STOP;4COLON;4SEMICOLON;4EXCLAMATION MARK;4QUESTION MARK",
    ";4LEFT WHITE LENTICULAR BRACKET;4RIGHT WHITE LENTICULAR BRAKCET;4HORIZONTAL ELLIPSIS"],
   [";@FE20;0COMBINING LIGATURE LEFT HALF;2RIGHT HALF;1DOUBLE TILDE LEFT HALF;3RIGHT HALF",
    ";1MACRON LEFT HALF;2RIGHT HALF;1CONJOINING MACRON;1LIGATURE LEFT HALF BELOW",
    ";2RIGHT HALF BELOW;1TILDE LEFT HALF BELOW;2RIGHT HALF BELOW;1MACRON LEFT HALF BELOW",
    ";2RIGHT HALF BELOW;1CONJOINING MACRON BELOW;1CYRILLIC TITLO LEFT HALF;3RIGHT HALF",
    ";0PRESENTATION FORM FOR VERTICAL TWO DOT LEADER;4EM DASH;4EN DASH;4LOW LINE;4WAVY LOW LINE",
    ";4LEFT PARENTHESIS;4RIGHT PARENTHESIS;4LEFT CURLY BRACKET;4RIGHT CURLY BRACKET",
    ";4LEFT TORTOISE SHELL BRACKET;4RIGHT TORTOISE SHELL BRACKET;4LEFT BLACK LENTICULAR BRACKET",
    ";4RIGHT BLACK LENTICULAR BRACKET;4LEFT DOUBLE ANGLE BRACKET;4RIGHT DOUBLE ANGLE BRACKET",
    ";4LEFT ANGLE BRACKET;4RIGHT ANGLE BRACKET;4LEFT CORNER BRACKET;4RIGHT CORNER BRACKET",
    ";4LEFT WHITE CORNER BRACKET;4RIGHT WHITE CORNER BRACKET;0SESAME DOT;0WHITE SESAME DOT",
    ";0PRESENTATION FORM FOR VERTICAL LEFT SQUARE BRACKET;4RIGHT SQUARE BRACKET;0DASHED OVERLINE",
    ";0CENTRELINE OVERLINE;0WAVY OVERLINE;0DOUBLE WAVY OVERLINE;0DASHED LOW LINE",
    ";0CENTRELINE LOW LINE;0WAVY LOW LINE;0SMALL COMMA;1IDEOGRAPHIC COMMA;1FULL STOP;@FE54",
    ";1SEMICOLON;1COLON;1QUESTION MARK;1EXCLAMATION MARK;1EM DASH;1LEFT PARENTHESIS",
    ";1RIGHT PARENTHESIS;1LEFT CURLY BRACKET;1RIGHT CURLY BRACKET;1LEFT TORTOISE SHELL BRACKET",
    ";1RIGHT TORTOISE SHELL BRACKET;1NUMBER SIGN;1AMPERSAND;1ASTERISK;1PLUS SIGN;1HYPHEN-MINUS",
    ";1LESS-THAN SIGN;1GREATER-THAN SIGN;1EQUALS SIGN;@FE68;1REVERSE SOLIDUS;1DOLLAR SIGN",
    ";1PERCENT SIGN;1COMMERCIAL AT;@FE70;0ARABIC FATHATAN ISOLATED FORM",
    ";1TATWEEL WITH FATHATAN ABOVE;1DAMMATAN ISOLATED FORM;1TAIL FRAGMENT;1KASRATAN ISOLATED FORM",
    ";@FE76;1FATHA ISOLATED FORM;2MEDIAL FORM;1DAMMA ISOLATED FORM;2MEDIAL FORM",
    ";1KASRA ISOLATED FORM;2MEDIAL FORM;1SHADDA ISOLATED FORM;2MEDIAL FORM;1SUKUN ISOLATED FORM",
    ";2MEDIAL FORM;1LETTER HAMZA ISOLATED FORM;2ALEF WITH MADDA ABOVE ISOLATED FORM;6FINAL FORM",
    ";4HAMZA ABOVE ISOLATED FORM;6FINAL FORM;2WAW WITH HAMZA ABOVE ISOLATED FORM;6FINAL FORM",
    ";2ALEF WITH HAMZA BELOW ISOLATED FORM;6FINAL FORM;2YEH WITH HAMZA ABOVE ISOLATED FORM",
    ";6FINAL FORM;6INITIAL FORM;6MEDIAL FORM;2ALEF ISOLATED FORM;3FINAL FORM;2BEH ISOLATED FORM",
    ";3FINAL FORM;3INITIAL FORM;3MEDIAL FORM;2TEH MARBUTA ISOLATED FORM;4FINAL FORM",
    ";3ISOLATED FORM;3FINAL FORM;3INITIAL FORM;3MEDIAL FORM;2THEH ISOLATED FORM;3FINAL FORM",
    ";3INITIAL FORM;3MEDIAL FORM;2JEEM ISOLATED FORM;3FINAL FORM;3INITIAL FORM;3MEDIAL FORM",
    ";2HAH ISOLATED FORM;3FINAL FORM;3INITIAL FORM;3MEDIAL FORM;2KHAH ISOLATED FORM;3FINAL FORM",
    ";3INITIAL FORM;3MEDIAL FORM;2DAL ISOLATED FORM;3FINAL FORM;2THAL ISOLATED FORM;3FINAL FORM",
    ";2REH ISOLATED FORM;3FINAL FORM;2ZAIN ISOLATED FORM;3FINAL FORM;2SEEN ISOLATED FORM",
    ";3FINAL FORM;3INITIAL FORM;3MEDIAL FORM;2SHEEN ISOLATED FORM;3FINAL FORM;3INITIAL FORM",
    ";3MEDIAL FORM;2SAD ISOLATED FORM;3FINAL FORM;3INITIAL FORM;3MEDIAL FORM;2DAD ISOLATED FORM",
    ";3FINAL FORM;3INITIAL FORM;3MEDIAL FORM;2TAH ISOLATED FORM;3FINAL FORM;3INITIAL FORM",
    ";3MEDIAL FORM;2ZAH ISOLATED FORM;3FINAL FORM;3INITIAL FORM;3MEDIAL FORM;2AIN ISOLATED FORM",
    ";3FINAL FORM;3INITIAL FORM;3MEDIAL FORM;2GHAIN ISOLATED FORM;3FINAL FORM;3INITIAL FORM",
    ";3MEDIAL FORM;2FEH ISOLATED FORM;3FINAL FORM;3INITIAL FORM;3MEDIAL FORM;2QAF ISOLATED FORM",
    ";3FINAL FORM;3INITIAL FORM;3MEDIAL FORM;2KAF ISOLATED FORM;3FINAL FORM;3INITIAL FORM",
    ";3MEDIAL FORM;2LAM ISOLATED FORM;3FINAL FORM;3INITIAL FORM;3MEDIAL FORM;2MEEM ISOLATED FORM",
    ";3FINAL FORM;3INITIAL FORM;3MEDIAL FORM;2NOON ISOLATED FORM;3FINAL FORM;3INITIAL FORM",
    ";3MEDIAL FORM;2HEH ISOLATED FORM;3FINAL FORM;3INITIAL FORM;3MEDIAL FORM;2WAW ISOLATED FORM",
    ";3FINAL FORM;2ALEF MAKSURA ISOLATED FORM;4FINAL FORM;2YEH ISOLATED FORM;3FINAL FORM",
    ";3INITIAL FORM;3MEDIAL FORM;1LIGATURE LAM WITH ALEF WITH MADDA ABOVE ISOLATED FORM",
    ";8FINAL FORM;6HAMZA ABOVE ISOLATED FORM;8FINAL FORM;7BELOW ISOLATED FORM;8FINAL FORM",
    ";5ISOLATED FORM;5FINAL FORM"],
   [";@FEFF;0ZERO WIDTH NO-BREAK SPACE;@FF01;0FULLWIDTH EXCLAMATION MARK;1QUOTATION MARK",
    ";1NUMBER SIGN;1DOLLAR SIGN;1PERCENT SIGN;1AMPERSAND;1APOSTROPHE;1LEFT PARENTHESIS",
    ";1RIGHT PARENTHESIS;1ASTERISK;1PLUS SIGN;1COMMA;1HYPHEN-MINUS;1FULL STOP;1SOLIDUS",
    ";1DIGIT ZERO;2ONE;2TWO;2THREE;2FOUR;2FIVE;2SIX;2SEVEN;2EIGHT;2NINE;1COLON;1SEMICOLON",
    ";1LESS-THAN SIGN;1EQUALS SIGN;1GREATER-THAN SIGN;1QUESTION MARK;1COMMERCIAL AT",
    ";1LATIN CAPITAL LETTER A;4B;4C;4D;4E;4F;4G;4H;4I;4J;4K;4L;4M;4N;4O;4P;4Q;4R;4S;4T;4U;4V;4W",
    ";4X;4Y;4Z;1LEFT SQUARE BRACKET;1REVERSE SOLIDUS;1RIGHT SQUARE BRACKET;1CIRCUMFLEX ACCENT",
    ";1LOW LINE;1GRAVE ACCENT;1LATIN SMALL LETTER A;4B;4C;4D;4E;4F;4G;4H;4I;4J;4K;4L;4M;4N;4O;4P",
    ";4Q;4R;4S;4T;4U;4V;4W;4X;4Y;4Z;1LEFT CURLY BRACKET;1VERTICAL LINE;1RIGHT CURLY BRACKET",
    ";1TILDE;1LEFT WHITE PARENTHESIS;1RIGHT WHITE PARENTHESIS;0HALFWIDTH IDEOGRAPHIC FULL STOP",
    ";1LEFT CORNER BRACKET;1RIGHT CORNER BRACKET;1IDEOGRAPHIC COMMA;1KATAKANA MIDDLE DOT",
    ";2LETTER WO;3SMALL A;4I;4U;4E;4O;4YA;4YU;4YO;4TU;1KATAKANA-HIRAGANA PROLONGED SOUND MARK",
    ";1KATAKANA LETTER A;3I;3U;3E;3O;3KA;3KI;3KU;3KE;3KO;3SA;3SI;3SU;3SE;3SO;3TA;3TI;3TU;3TE;3TO",
    ";3NA;3NI;3NU;3NE;3NO;3HA;3HI;3HU;3HE;3HO;3MA;3MI;3MU;3ME;3MO;3YA;3YU;3YO;3RA;3RI;3RU;3RE;3RO",
    ";3WA;3N;2VOICED SOUND MARK;2SEMI-VOICED SOUND MARK;1HANGUL FILLER;2LETTER KIYEOK",
    ";3SSANGKIYEOK;3KIYEOK-SIOS;3NIEUN;3NIEUN-CIEUC;3NIEUN-HIEUH;3TIKEUT;3SSANGTIKEUT;3RIEUL",
    ";3RIEUL-KIYEOK;3RIEUL-MIEUM;3RIEUL-PIEUP;3RIEUL-SIOS;3RIEUL-THIEUTH;3RIEUL-PHIEUPH",
    ";3RIEUL-HIEUH;3MIEUM;3PIEUP;3SSANGPIEUP;3PIEUP-SIOS;3SIOS;3SSANGSIOS;3IEUNG;3CIEUC",
    ";3SSANGCIEUC;3CHIEUCH;3KHIEUKH;3THIEUTH;3PHIEUPH;3HIEUH;@FFC2;3A;3AE;3YA;3YAE;3EO;3E;@FFCA",
    ";3YEO;3YE;3O;3WA;3WAE;3OE;@FFD2;3YO;3U;3WEO;3WE;3WI;3YU;@FFDA;3EU;3YI;3I;@FFE0",
    ";0FULLWIDTH CENT SIGN;1POUND SIGN;1NOT SIGN;1MACRON;1BROKEN BAR;1YEN SIGN;1WON SIGN;@FFE8",
    ";0HALFWIDTH FORMS LIGHT VERTICAL;1LEFTWARDS ARROW;1UPWARDS ARROW;1RIGHTWARDS ARROW",
    ";1DOWNWARDS ARROW;1BLACK SQUARE;1WHITE CIRCLE;@FFF9;0INTERLINEAR ANNOTATION ANCHOR",
    ";2SEPARATOR;2TERMINATOR;0OBJECT REPLACEMENT CHARACTER;0REPLACEMENT CHARACTER;@10000",
    ";0LINEAR B SYLLABLE B008 A;3B038 E;3B028 I;3B061 O;3B010 U;3B001 DA;3B045 DE;3B007 DI",
    ";3B014 DO;3B051 DU;3B057 JA;3B046 JE;@1000D;3B036 JO;3B065 JU;3B077 KA;3B044 KE;3B067 KI",
    ";3B070 KO;3B081 KU;3B080 MA;3B013 ME;3B073 MI;3B015 MO;3B023 MU;3B006 NA;3B024 NE;3B030 NI",
    ";3B052 NO;3B055 NU;3B003 PA;3B072 PE;3B039 PI;3B011 PO;3B050 PU;3B016 QA;3B078 QE;3B021 QI",
    ";3B032 QO;@10028;3B060 RA;3B027 RE;3B053 RI;3B002 RO;3B026 RU;3B031 SA;3B009 SE;3B041 SI",
    ";3B012 SO;3B058 SU;3B059 TA;3B004 TE;3B037 TI;3B005 TO;3B069 TU;3B054 WA;3B075 WE;3B040 WI",
    ";3B042 WO;@1003C;3B017 ZA;3B074 ZE;@1003F;3B020 ZO;3B025 A2;3B043 A3;3B085 AU;3B071 DWE",
    ";3B090 DWO;3B048 NWA;3B029 PU2;3B062 PTE;3B076 RA2;3B033 RA3;3B068 RO2;3B066 TA2;3B087 TWE",
    ";3B091 TWO;@10050;2SYMBOL B018;3B019;3B022;3B034;3B047;3B049;3B056;3B063;3B064;3B079;3B082",
    ";3B083;3B086;3B089;@10080;2IDEOGRAM B100 MAN;3B102 WOMAN;3B104 DEER;3B105 EQUID;3B105F MARE",
    ";3B105M STALLION;3B106F EWE;3B106M RAM;3B107F SHE-GOAT;3B107M HE-GOAT;3B108F SOW;3B108M BOAR",
    ";3B109F COW;3B109M BULL;3B120 WHEAT;3B121 BARLEY;3B122 OLIVE;3B123 SPICE;3B125 CYPERUS",
    ";2MONOGRAM B127 KAPO;3B128 KANAKO;2IDEOGRAM B130 OIL;3B131 WINE;3B132;2MONOGRAM B133 AREPA",
    ";3B135 MERI;2IDEOGRAM B140 BRONZE;3B141 GOLD;3B142;3B145 WOOL;3B146;3B150;3B151 HORN;3B152",
    ";3B153;3B154;2MONOGRAM B156 TURO2;2IDEOGRAM B157;3B158;3B159 CLOTH;3B160;3B161;3B162 GARMENT",
    ";3B163 ARMOUR;3B164;3B165;3B166;3B167;3B168;3B169;3B170;3B171;3B172;3B173 MONTH;3B174",
    ";3B176 TREE;3B177;3B178;3B179;3B180;3B181;3B182;3B183;3B184;3B185;3B189;3B190;3B191 HELMET",
    ";3B220 FOOTSTOOL;3B225 BATHTUB;3B230 SPEAR;3B231 ARROW;3B232;3B233 SWORD;3B234;3B236",
    ";3B240 WHEELED CHARIOT;3B241 CHARIOT;3B242 CHARIOT FRAME;3B243 WHEEL;3B245;3B246",
    ";2MONOGRAM B247 DIPTE;2IDEOGRAM B248;3B249;3B251;3B252;3B253;3B254 DART;3B255;3B256;3B257",
    ";3B258;3B259;3VESSEL B155;4B200;4B201;4B202;4B203;4B204;4B205;4B206;4B207;4B208;4B209;4B210",
    ";4B211;4B212;4B213;4B214;4B215;4B216;4B217;4B218;4B219;4B221;4B222;4B226;4B227;4B228;4B229",
    ";4B250;4B305"],
   [";@10100;0AEGEAN WORD SEPARATOR LINE;3DOT;1CHECK MARK;@10107;1NUMBER ONE;2TWO;2THREE;2FOUR",
    ";2FIVE;2SIX;2SEVEN;2EIGHT;2NINE;2TEN;2TWENTY;2THIRTY;2FORTY;2FIFTY;2SIXTY;2SEVENTY;2EIGHTY",
    ";2NINETY;2ONE HUNDRED;2TWO HUNDRED;2THREE HUNDRED;2FOUR HUNDRED;2FIVE HUNDRED;2SIX HUNDRED",
    ";2SEVEN HUNDRED;2EIGHT HUNDRED;2NINE HUNDRED;2ONE THOUSAND;2TWO THOUSAND;2THREE THOUSAND",
    ";2FOUR THOUSAND;2FIVE THOUSAND;2SIX THOUSAND;2SEVEN THOUSAND;2EIGHT THOUSAND;2NINE THOUSAND",
    ";2TEN THOUSAND;2TWENTY THOUSAND;2THIRTY THOUSAND;2FORTY THOUSAND;2FIFTY THOUSAND",
    ";2SIXTY THOUSAND;2SEVENTY THOUSAND;2EIGHTY THOUSAND;2NINETY THOUSAND;@10137",
    ";1WEIGHT BASE UNIT;2FIRST SUBUNIT;2SECOND SUBUNIT;2THIRD SUBUNIT;2FOURTH SUBUNIT",
    ";1DRY MEASURE FIRST SUBUNIT;1LIQUID MEASURE FIRST SUBUNIT;1MEASURE SECOND SUBUNIT",
    ";2THIRD SUBUNIT;0GREEK ACROPHONIC ATTIC ONE QUARTER;4HALF;4DRACHMA;3FIVE;3FIFTY",
    ";3FIVE HUNDRED;4THOUSAND;3FIFTY THOUSAND;3FIVE TALENTS;3TEN TALENTS;3FIFTY TALENTS",
    ";3ONE HUNDRED TALENTS;3FIVE HUNDRED TALENTS;3ONE THOUSAND TALENTS;3FIVE THOUSAND TALENTS",
    ";4STATERS;3TEN STATERS;3FIFTY STATERS;3ONE HUNDRED STATERS;3FIVE HUNDRED STATERS",
    ";3ONE THOUSAND STATERS;3TEN THOUSAND STATERS;3FIFTY THOUSAND STATERS;3TEN MNAS",
    ";2HERAEUM ONE PLETHRON;2THESPIAN ONE;2HERMIONIAN ONE;2EPIDAUREAN TWO;2THESPIAN TWO",
    ";2CYRENAIC TWO DRACHMAS;2EPIDAUREAN TWO DRACHMAS;2TROEZENIAN FIVE;3TEN;4ALTERNATE FORM",
    ";2HERMIONIAN TEN;2MESSENIAN TEN;2THESPIAN TEN;3THIRTY;2TROEZENIAN FIFTY;4ALTERNATE FORM",
    ";2HERMIONIAN FIFTY;2THESPIAN FIFTY;3ONE HUNDRED;3THREE HUNDRED;2EPIDAUREAN FIVE HUNDRED",
    ";2TROEZENIAN FIVE HUNDRED;2THESPIAN FIVE HUNDRED;2CARYSTIAN FIVE HUNDRED",
    ";2NAXIAN FIVE HUNDRED;2THESPIAN ONE THOUSAND;3FIVE THOUSAND;2DELPHIC FIVE MNAS",
    ";2STRATIAN FIFTY MNAS;1ONE HALF SIGN;4ALTERNATE FORM;1TWO THIRDS SIGN;1THREE QUARTERS SIGN",
    ";1YEAR SIGN;1TALENT SIGN;1DRACHMA SIGN;1OBOL SIGN;1TWO OBOLS SIGN;1THREE OBOLS SIGN",
    ";1FOUR OBOLS SIGN;1FIVE OBOLS SIGN;1METRETES SIGN;1KYATHOS BASE SIGN;1LITRA SIGN",
    ";1OUNKIA SIGN;1XESTES SIGN;1ARTABE SIGN;1AROURA SIGN;1GRAMMA SIGN;1TRYBLION BASE SIGN",
    ";1ZERO SIGN;1ONE QUARTER SIGN;1SINUSOID SIGN;1INDICTION SIGN;0NOMISMA SIGN;@10190",
    ";0ROMAN SEXTANS SIGN;1UNCIA SIGN;1SEMUNCIA SIGN;1SEXTULA SIGN;1DIMIDIA SEXTULA SIGN",
    ";1SILIQUA SIGN;1DENARIUS SIGN;1QUINARIUS SIGN;1SESTERTIUS SIGN;1DUPONDIUS SIGN;1AS SIGN",
    ";1CENTURIAL SIGN;0ASCIA SYMBOL;@101A0;0GREEK SYMBOL TAU RHO;@101D0",
    ";0PHAISTOS DISC SIGN PEDESTRIAN;3PLUMED HEAD;3TATTOOED HEAD;3CAPTIVE;3CHILD;3WOMAN;3HELMET",
    ";3GAUNTLET;3TIARA;3ARROW;3BOW;3SHIELD;3CLUB;3MANACLES;3MATTOCK;3SAW;3LID;3BOOMERANG",
    ";3CARPENTRY PLANE;3DOLIUM;3COMB;3SLING;3COLUMN;3BEEHIVE;3SHIP;3HORN;3HIDE;3BULLS LEG;3CAT",
    ";3RAM;3EAGLE;3DOVE;3TUNNY;3BEE;3PLANE TREE;3VINE;3PAPYRUS;3ROSETTE;3LILY;3OX BACK;3FLUTE",
    ";3GRATER;3STRAINER;3SMALL AXE;3WAVY BAND;3COMBINING OBLIQUE STROKE;@10280;0LYCIAN LETTER A",
    ";2E;2B;2BH;2G;2D;2I;2W;2Z;2TH;2J;2K;2Q;2L;2M;2N;2MM;2NN;2U;2P;2KK;2R;2S;2T;2TT;2AN;2EN;2H;2X",
    ";@102A0;0CARIAN LETTER A;2P2;2D;2L;2UUU;2R;2LD;2A2;2Q;2B;2M;2O;2D2;2T;2SH;2SH2;2S;2C-18;2U",
    ";2NN;2X;2N;2TT2;2P;2SS;2I;2E;2UUUU;2K;2K2;2ND;2UU;2G;2G2;2ST;2ST2;2NG;2II;2C-39;2TT;2UUU2",
    ";2RR;2MB;2MB2;2MB3;2MB4;2LD2;2E2;2UUU3;@102E0;0COPTIC EPACT THOUSANDS MARK;2DIGIT ONE;3TWO",
    ";3THREE;3FOUR;3FIVE;3SIX;3SEVEN;3EIGHT;3NINE;2NUMBER TEN;3TWENTY;3THIRTY;3FORTY;3FIFTY",
    ";3SIXTY;3SEVENTY;3EIGHTY;3NINETY;3ONE HUNDRED;3TWO HUNDRED;3THREE HUNDRED;3FOUR HUNDRED",
    ";3FIVE HUNDRED;3SIX HUNDRED;3SEVEN HUNDRED;3EIGHT HUNDRED;3NINE HUNDRED;@10300",
    ";0OLD ITALIC LETTER A;3BE;3KE;3DE;3E;3VE;3ZE;3HE;3THE;3I;3KA;3EL;3EM;3EN;3ESH;3O;3PE;3SHE",
    ";3KU;3ER;3ES;3TE;3U;3EKS;3PHE;3KHE;3EF;3ERS;3CHE;3II;3UU;3ESS;2NUMERAL ONE;3FIVE;3TEN;3FIFTY"],
   [";@1032D;2LETTER YE;3NORTHERN TSE;3SOUTHERN TSE;0GOTHIC LETTER AHSA;2BAIRKAN;2GIBA;2DAGS",
    ";2AIHVUS;2QAIRTHRA;2IUJA;2HAGL;2THIUTH;2EIS;2KUSMA;2LAGUS;2MANNA;2NAUTHS;2JER;2URUS",
    ";2PAIRTHRA;2NINETY;2RAIDA;2SAUIL;2TEIWS;2WINJA;2FAIHU;2IGGWS;2HWAIR;2OTHAL;2NINE HUNDRED",
    ";@10350;0OLD PERMIC LETTER AN;3BUR;3GAI;3DOI;3E;3ZHOI;3DZHOI;3ZATA;3DZITA;3I;3KOKE;3LEI",
    ";3MENOE;3NENOE;3VOOI;3PEEI;3REI;3SII;3TAI;3U;3CHERY;3SHOOI;3SHCHOOI;3YRY;3YERU;3O;3OO;3EF",
    ";3HA;3TSIU;3VER;3YER;3YERI;3YAT;3IE;3YU;3YA;3IA;0COMBINING OLD PERMIC LETTER AN;4DOI;4ZATA",
    ";4NENOE;4SII;@10380;0UGARITIC LETTER ALPA;2BETA;2GAMLA;2KHA;2DELTA;2HO;2WO;2ZETA;2HOTA;2TET",
    ";2YOD;2KAF;2SHIN;2LAMDA;2MEM;2DHAL;2NUN;2ZU;2SAMKA;2AIN;2PU;2SADE;2QOPA;2RASHA;2THANNA",
    ";2GHAIN;2TO;2I;2U;2SSU;@1039F;1WORD DIVIDER;0OLD PERSIAN SIGN A;3I;3U;3KA;3KU;3GA;3GU;3XA",
    ";3CA;3JA;3JI;3TA;3TU;3DA;3DI;3DU;3THA;3PA;3BA;3FA;3NA;3NU;3MA;3MI;3MU;3YA;3VA;3VI;3RA;3RU",
    ";3LA;3SA;3ZA;3SHA;3SSA;3HA;@103C8;3AURAMAZDAA;3AURAMAZDAA-2;3AURAMAZDAAHA;3XSHAAYATHIYA",
    ";3DAHYAAUSH;3DAHYAAUSH-2;3BAGA;3BUUMISH;2WORD DIVIDER;2NUMBER ONE;3TWO;3TEN;3TWENTY;3HUNDRED",
    ";@10400;0DESERET CAPITAL LETTER LONG I;4E;4A;4AH;4O;4OO;3SHORT I;4E;4A;4AH;4O;4OO;3AY;3OW",
    ";3WU;3YEE;3H;3PEE;3BEE;3TEE;3DEE;3CHEE;3JEE;3KAY;3GAY;3EF;3VEE;3ETH;3THEE;3ES;3ZEE;3ESH",
    ";3ZHEE;3ER;3EL;3EM;3EN;3ENG;3OI;3EW;1SMALL LETTER LONG I;4E;4A;4AH;4O;4OO;3SHORT I;4E;4A;4AH",
    ";4O;4OO;3AY;3OW;3WU;3YEE;3H;3PEE;3BEE;3TEE;3DEE;3CHEE;3JEE;3KAY;3GAY;3EF;3VEE;3ETH;3THEE;3ES",
    ";3ZEE;3ESH;3ZHEE;3ER;3EL;3EM;3EN;3ENG;3OI;3EW;0SHAVIAN LETTER PEEP;2TOT;2KICK;2FEE;2THIGH",
    ";2SO;2SURE;2CHURCH;2YEA;2HUNG;2BIB;2DEAD;2GAG;2VOW;2THEY;2ZOO;2MEASURE;2JUDGE;2WOE;2HA-HA",
    ";2LOLL;2MIME;2IF;2EGG;2ASH;2ADO;2ON;2WOOL;2OUT;2AH;2ROAR;2NUN;2EAT;2AGE;2ICE;2UP;2OAK;2OOZE",
    ";2OIL;2AWE;2ARE;2OR;2AIR;2ERR;2ARRAY;2EAR;2IAN;2YEW;0OSMANYA LETTER ALEF;2BA;2TA;2JA;2XA",
    ";2KHA;2DEEL;2RA;2SA;2SHIIN;2DHA;2CAYN;2GA;2FA;2QAAF;2KAAF;2LAAN;2MIIN;2NUUN;2WAW;2HA;2YA;2A",
    ";2E;2I;2O;2U;2AA;2EE;2OO;@104A0;1DIGIT ZERO;2ONE;2TWO;2THREE;2FOUR;2FIVE;2SIX;2SEVEN;2EIGHT",
    ";2NINE;@104B0;0OSAGE CAPITAL LETTER A;3AI;3AIN;3AH;3BRA;3CHA;3EHCHA;3E;3EIN;3HA;3HYA;3I;3KA",
    ";3EHKA;3KYA;3LA;3MA;3NA;3O;3OIN;3PA;3EHPA;3SA;3SHA;3TA;3EHTA;3TSA;3EHTSA;3TSHA;3DHA;3U;3WA",
    ";3KHA;3GHA;3ZA;3ZHA;@104D8;1SMALL LETTER A;3AI;3AIN;3AH;3BRA;3CHA;3EHCHA;3E;3EIN;3HA;3HYA;3I",
    ";3KA;3EHKA;3KYA;3LA;3MA;3NA;3O;3OIN;3PA;3EHPA;3SA;3SHA;3TA;3EHTA;3TSA;3EHTSA;3TSHA;3DHA;3U",
    ";3WA;3KHA;3GHA;3ZA;3ZHA;@10500;0ELBASAN LETTER A;2BE;2CE;2CHE;2DE;2NDE;2DHE;2EI;2E;2FE;2GE",
    ";2GJE;2HE;2I;2JE;2KE;2LE;2LLE;2ME;2NE;2NA;2NJE;2O;2PE;2QE;2RE;2RRE;2SE;2SHE;2TE;2THE;2U;2VE",
    ";2XE;2Y;2ZE;2ZHE;2GHE;2GHAMMA;2KHE;@10530;0CAUCASIAN ALBANIAN LETTER ALT;3BET;3GIM;3DAT;3EB",
    ";3ZARL;3EYN;3ZHIL;3TAS;3CHA;3YOWD;3ZHA;3IRB;3SHA;3LAN;3INYA;3XEYN;3DYAN;3CAR;3JHOX;3KAR",
    ";3LYIT;3HEYT;3QAY;3AOR;3CHOY;3CHI;3CYAY;3MAQ;3QAR;3NOWC;3DZYAY;3SHAK;3JAYN;3ON;3TYAY;3FAM",
    ";3DZAY;3CHAT;3PEN;3GHEYS;3RAT;3SEYK;3VEYZ;3TIWR;3SHOY;3IWN;3CYAW;3CAYN;3YAYD;3PIWR;3KIW",
    ";@1056F;2CITATION MARK;0VITHKUQI CAPITAL LETTER A;3BBE;3BE;3CE;3CHE;3DE;3DHE;3EI;3E;3FE;3GA",
    ";@1057C;3HA;3HHA;3I;3IJE;3JE;3KA;3LA;3LLA;3ME;3NE;3NJE;3O;3PE;3QA;3RE;@1058C;3SE;3SHE;3TE",
    ";3THE;3U;3VE;3XE;@10594;3Y;3ZE;@10597;1SMALL LETTER A;3BBE;3BE;3CE;3CHE;3DE;3DHE;3EI;3E;3FE",
    ";3GA;@105A3;3HA;3HHA;3I;3IJE;3JE;3KA;3LA;3LLA;3ME;3NE;3NJE;3O;3PE;3QA;3RE;@105B3;3SE;3SHE",
    ";3TE;3THE;3U;3VE;3XE;@105BB;3Y;3ZE;@10600;0LINEAR A SIGN AB001;3AB002;3AB003;3AB004;3AB005",
    ";3AB006;3AB007;3AB008;3AB009;3AB010;3AB011;3AB013;3AB016;3AB017;3AB020;3AB021;3AB021F",
    ";3AB021M;3AB022;3AB022F;3AB022M;3AB023;3AB023M;3AB024;3AB026;3AB027;3AB028;3A028B;3AB029",
    ";3AB030;3AB031;3AB034;3AB037;3AB038;3AB039;3AB040;3AB041;3AB044;3AB045;3AB046;3AB047;3AB048",
    ";3AB049;3AB050;3AB051;3AB053;3AB054;3AB055;3AB056;3AB057;3AB058;3AB059;3AB060;3AB061;3AB065",
    ";3AB066;3AB067;3AB069;3AB070;3AB073;3AB074;3AB076;3AB077;3AB078;3AB079;3AB080;3AB081;3AB082",
    ";3AB085;3AB086;3AB087;3A100-102;3AB118;3AB120;3A120B;3AB122;3AB123;3AB131A;3AB131B;3A131C",
    ";3AB164;3AB171;3AB180;3AB188;3AB191;3A301;3A302;3A303;3A304;3A305;3A306;3A307;3A308;3A309A",
    ";3A309B;3A309C;3A310;3A311;3A312;3A313A;3A313B;3A313C;3A314;3A315;3A316;3A317;3A318;3A319",
    ";3A320;3A321;3A322;3A323;3A324;3A325;3A326;3A327;3A328;3A329;3A330;3A331;3A332;3A333;3A334",
    ";3A335;3A336;3A337;3A338;3A339;3A340;3A341;3A342;3A343;3A344;3A345;3A346;3A347;3A348;3A349",
    ";3A350;3A351;3A352;3A353;3A354;3A355;3A356;3A357;3A358;3A359;3A360;3A361;3A362;3A363;3A364",
    ";3A365;3A366;3A367;3A368;3A369;3A370;3A371;3A400-VAS;3A401-VAS;3A402-VAS;3A403-VAS;3A404-VAS",
    ";3A405-VAS;3A406-VAS;3A407-VAS;3A408-VAS;3A409-VAS;3A410-VAS;3A411-VAS;3A412-VAS;3A413-VAS",
    ";3A414-VAS;3A415-VAS;3A416-VAS;3A417-VAS;3A418-VAS;3A501;3A502;3A503;3A504;3A505;3A506;3A508",
    ";3A509;3A510;3A511;3A512;3A513;3A515;3A516;3A520;3A521;3A523;3A524;3A525;3A526;3A527;3A528",
    ";3A529;3A530;3A531;3A532;3A534;3A535;3A536;3A537;3A538;3A539;3A540;3A541;3A542;3A545;3A547",
    ";3A548;3A549;3A550;3A551;3A552;3A553;3A554;3A555;3A556;3A557;3A559;3A563;3A564;3A565;3A566",
    ";3A568;3A569;3A570;3A571;3A572;3A573;3A574;3A575;3A576;3A577;3A578;3A579;3A580;3A581;3A582",
    ";3A583;3A584;3A585;3A586;3A587;3A588;3A589;3A591;3A592;3A594;3A595;3A596;3A598;3A600;3A601",
    ";3A602;3A603;3A604;3A606;3A608;3A609;3A610;3A611;3A612;3A613;3A614;3A615;3A616;3A617;3A618",
    ";3A619;3A620;3A621;3A622;3A623;3A624;3A626;3A627;3A628;3A629;3A634;3A637;3A638;3A640;3A642",
    ";3A643;3A644;3A645;3A646;3A648;3A649;3A651;3A652;3A653;3A654;3A655;3A656;3A657;3A658;3A659",
    ";3A660;3A661;3A662;3A663;3A664"],
   [";@10740;3A701 A;3A702 B;3A703 D;3A704 E;3A705 F;3A706 H;3A707 J;3A708 K;3A709 L;3A709-2 L2",
    ";3A709-3 L3;3A709-4 L4;3A709-6 L6;3A710 W;3A711 X;3A712 Y;3A713 OMEGA;3A714 ABB;3A715 BB",
    ";3A717 DD;3A726 EYYY;3A732 JE;@10760;3A800;3A801;3A802;3A803;3A804;3A805;3A806;3A807;@10780",
    ";0MODIFIER LETTER SMALL CAPITAL AA;2SUPERSCRIPT TRIANGULAR COLON;3HALF TRIANGULAR COLON",
    ";2SMALL AE;3CAPITAL B;3B WITH HOOK;@10787;3DZ DIGRAPH;5WITH RETROFLEX HOOK;6CURL",
    ";3DEZH DIGRAPH;3D WITH TAIL;5HOOK;6AND TAIL;3REVERSED E;3CLOSED REVERSED OPEN E",
    ";3FENG DIGRAPH;3RAMS HORN;3CAPITAL G;3G WITH HOOK;3CAPITAL G WITH HOOK;3H WITH STROKE",
    ";3CAPITAL H;3HENG WITH HOOK;3DOTLESS J WITH STROKE AND HOOK;3LS DIGRAPH;3LZ DIGRAPH",
    ";3L WITH BELT;3CAPITAL L WITH BELT;3L WITH RETROFLEX HOOK AND BELT;3LEZH",
    ";4WITH RETROFLEX HOOK;3TURNED Y;5WITH BELT;3O WITH STROKE;3CAPITAL OE;3CLOSED OMEGA;3Q",
    ";3TURNED R WITH LONG LEG;8AND RETROFLEX HOOK;3R WITH TAIL;5FISHHOOK;3CAPITAL R",
    ";3TC DIGRAPH WITH CURL;3TS DIGRAPH;5WITH RETROFLEX HOOK;3TESH DIGRAPH;3T WITH RETROFLEX HOOK",
    ";3V WITH RIGHT HOOK;@107B2;3CAPITAL Y;2GLOTTAL STOP WITH STROKE",
    ";2REVERSED GLOTTAL STOP WITH STROKE;2BILABIAL CLICK;2DENTAL CLICK;2LATERAL CLICK",
    ";2ALVEOLAR CLICK;2RETROFLEX CLICK WITH RETROFLEX HOOK;2SMALL S WITH CURL;@10800",
    ";0CYPRIOT SYLLABLE A;2E;2I;2O;2U;2JA;@10808;2JO;@1080A;2KA;2KE;2KI;2KO;2KU;2LA;2LE;2LI;2LO",
    ";2LU;2MA;2ME;2MI;2MO;2MU;2NA;2NE;2NI;2NO;2NU;2PA;2PE;2PI;2PO;2PU;2RA;2RE;2RI;2RO;2RU;2SA;2SE",
    ";2SI;2SO;2SU;2TA;2TE;2TI;2TO;2TU;2WA;2WE;2WI;2WO;@10837;2XA;2XE;@1083C;2ZA;@1083F;2ZO",
    ";0IMPERIAL ARAMAIC LETTER ALEPH;3BETH;3GIMEL;3DALETH;3HE;3WAW;3ZAYIN;3HETH;3TETH;3YODH;3KAPH",
    ";3LAMEDH;3MEM;3NUN;3SAMEKH;3AYIN;3PE;3SADHE;3QOPH;3RESH;3SHIN;3TAW;@10857;2SECTION SIGN",
    ";2NUMBER ONE;3TWO;3THREE;3TEN;3TWENTY;3ONE HUNDRED;4THOUSAND;3TEN THOUSAND",
    ";0PALMYRENE LETTER ALEPH;2BETH;2GIMEL;2DALETH;2HE;2WAW;2ZAYIN;2HETH;2TETH;2YODH;2KAPH",
    ";2LAMEDH;2MEM;2FINAL NUN;2NUN;2SAMEKH;2AYIN;2PE;2SADHE;2QOPH;2RESH;2SHIN;2TAW",
    ";1LEFT-POINTING FLEURON;1RIGHT-POINTING FLEURON;1NUMBER ONE;2TWO;2THREE;2FOUR;2FIVE;2TEN",
    ";2TWENTY;0NABATAEAN LETTER FINAL ALEPH;2ALEPH;2FINAL BETH;2BETH;2GIMEL;2DALETH;2FINAL HE;2HE",
    ";2WAW;2ZAYIN;2HETH;2TETH;2FINAL YODH;2YODH;2FINAL KAPH;2KAPH;2FINAL LAMEDH;2LAMEDH",
    ";2FINAL MEM;2MEM;2FINAL NUN;2NUN;2SAMEKH;2AYIN;2PE;2SADHE;2QOPH;2RESH;2FINAL SHIN;2SHIN;2TAW",
    ";@108A7;1NUMBER ONE;2TWO;2THREE;2FOUR;1CRUCIFORM NUMBER FOUR;1NUMBER FIVE;2TEN;2TWENTY",
    ";2ONE HUNDRED;@108E0;0HATRAN LETTER ALEPH;2BETH;2GIMEL;2DALETH-RESH;2HE;2WAW;2ZAYN;2HETH",
    ";2TETH;2YODH;2KAPH;2LAMEDH;2MEM;2NUN;2SAMEKH;2AYN;2PE;2SADHE;2QOPH;@108F4;2SHIN;2TAW;@108FB",
    ";1NUMBER ONE;2FIVE;2TEN;2TWENTY;2ONE HUNDRED;0PHOENICIAN LETTER ALF;2BET;2GAML;2DELT;2HE",
    ";2WAU;2ZAI;2HET;2TET;2YOD;2KAF;2LAMD;2MEM;2NUN;2SEMK;2AIN;2PE;2SADE;2QOF;2ROSH;2SHIN;2TAU",
    ";1NUMBER ONE;2TEN;2TWENTY;2ONE HUNDRED;2TWO;2THREE;@1091F;1WORD SEPARATOR;0LYDIAN LETTER A",
    ";2B;2G;2D;2E;2V;2I;2Y;2K;2L;2M;2N;2O;2R;2SS;2T;2U;2F;2Q;2S;2TT;2AN;2EN;2LY;2NN;2C;@1093F",
    ";1TRIANGULAR MARK;@10980;0MEROITIC HIEROGLYPHIC LETTER A;3E;3I;3O;3YA;3WA;3BA;3BA-2;3PA;3MA",
    ";3NA;3NA-2;3NE;3NE-2;3RA;3RA-2;3LA;3KHA;3HHA;3SA;3SA-2;3SE;3KA;3QA;3TA;3TA-2;3TE;3TE-2;3TO",
    ";3DA;2SYMBOL VIDJ;3VIDJ-2;1CURSIVE LETTER A;3E;3I;3O;3YA;3WA;3BA;3PA;3MA;3NA;3NE;3RA;3LA",
    ";3KHA;3HHA;3SA;3ARCHAIC SA;3SE;3KA;3QA;3TA;3TE;3TO;3DA;@109BC;2FRACTION ELEVEN TWELFTHS",
    ";3ONE HALF;2LOGOGRAM RMT;3IMN;2NUMBER ONE;3TWO;3THREE;3FOUR;3FIVE;3SIX;3SEVEN;3EIGHT;3NINE",
    ";3TEN;3TWENTY;3THIRTY;3FORTY;3FIFTY;3SIXTY;3SEVENTY;@109D2;3ONE HUNDRED;3TWO HUNDRED",
    ";3THREE HUNDRED;3FOUR HUNDRED;3FIVE HUNDRED;3SIX HUNDRED;3SEVEN HUNDRED;3EIGHT HUNDRED",
    ";3NINE HUNDRED;3ONE THOUSAND;3TWO THOUSAND;3THREE THOUSAND;3FOUR THOUSAND;3FIVE THOUSAND",
    ";3SIX THOUSAND;3SEVEN THOUSAND;3EIGHT THOUSAND;3NINE THOUSAND;3TEN THOUSAND;3TWENTY THOUSAND",
    ";3THIRTY THOUSAND;3FORTY THOUSAND;3FIFTY THOUSAND;3SIXTY THOUSAND;3SEVENTY THOUSAND",
    ";3EIGHTY THOUSAND;3NINETY THOUSAND;3ONE HUNDRED THOUSAND;3TWO HUNDRED THOUSAND",
    ";3THREE HUNDRED THOUSAND;3FOUR HUNDRED THOUSAND;3FIVE HUNDRED THOUSAND;3SIX HUNDRED THOUSAND",
    ";3SEVEN HUNDRED THOUSAND;3EIGHT HUNDRED THOUSAND;3NINE HUNDRED THOUSAND",
    ";2FRACTION ONE TWELFTH;3TWO TWELFTHS;3THREE TWELFTHS;3FOUR TWELFTHS;3FIVE TWELFTHS",
    ";3SIX TWELFTHS;3SEVEN TWELFTHS;3EIGHT TWELFTHS;3NINE TWELFTHS;3TEN TWELFTHS",
    ";0KHAROSHTHI LETTER A;1VOWEL SIGN I;3U;3VOCALIC R"],
   [";@10A05;3E;3O;@10A0C;2LENGTH MARK;1SIGN DOUBLE RING BELOW;2ANUSVARA;2VISARGA;1LETTER KA;2KHA",
    ";2GA;2GHA;@10A15;2CA;2CHA;2JA;@10A19;2NYA;2TTA;2TTHA;2DDA;2DDHA;2NNA;2TA;2THA;2DA;2DHA;2NA",
    ";2PA;2PHA;2BA;2BHA;2MA;2YA;2RA;2LA;2VA;2SHA;2SSA;2SA;2ZA;2HA;2KKA;2TTTHA;2TTTA;2VHA;@10A38",
    ";1SIGN BAR ABOVE;2CAUDA;2DOT BELOW;@10A3F;1VIRAMA;1DIGIT ONE;2TWO;2THREE;2FOUR;1NUMBER TEN",
    ";2TWENTY;2ONE HUNDRED;3THOUSAND;1FRACTION ONE HALF;@10A50;1PUNCTUATION DOT;2SMALL CIRCLE",
    ";2CIRCLE;2CRESCENT BAR;2MANGALAM;2LOTUS;2DANDA;2DOUBLE DANDA;2LINES;@10A60",
    ";0OLD SOUTH ARABIAN LETTER HE;4LAMEDH;4HETH;4MEM;4QOPH;4WAW;4SHIN;4RESH;4BETH;4TAW;4SAT",
    ";4KAPH;4NUN;4KHETH;4SADHE;4SAMEKH;4FE;4ALEF;4AYN;4DHADHE;4GIMEL;4DALETH;4GHAYN;4TETH;4ZAYN",
    ";4DHALETH;4YODH;4THAW;4THETH;3NUMBER ONE;4FIFTY;3NUMERIC INDICATOR;1NORTH ARABIAN LETTER HEH",
    ";4LAM;4HAH;4MEEM;4QAF;4WAW;4ES-2;4REH;4BEH;4TEH;4ES-1;4KAF;4NOON;4KHAH;4SAD;4ES-3;4FEH;4ALEF",
    ";4AIN;4DAD;4GEEM;4DAL;4GHAIN;4TAH;4ZAIN;4THAL;4YEH;4THEH;4ZAH;3NUMBER ONE;4TEN;4TWENTY",
    ";@10AC0;0MANICHAEAN LETTER ALEPH;2BETH;2BHETH;2GIMEL;2GHIMEL;2DALETH;2HE;2WAW;1SIGN UD",
    ";1LETTER ZAYIN;2ZHAYIN;2JAYIN;2JHAYIN;2HETH;2TETH;2YODH;2KAPH;2XAPH;2KHAPH;2LAMEDH;2DHAMEDH",
    ";2THAMEDH;2MEM;2NUN;2SAMEKH;2AYIN;2AAYIN;2PE;2FE;2SADHE;2QOPH;2XOPH;2QHOPH;2RESH;2SHIN",
    ";2SSHIN;2TAW;1ABBREVIATION MARK ABOVE;3BELOW;@10AEB;1NUMBER ONE;2FIVE;2TEN;2TWENTY",
    ";2ONE HUNDRED;1PUNCTUATION STAR;2FLEURON;2DOUBLE DOT WITHIN DOT;2DOT WITHIN DOT;2DOT",
    ";2TWO DOTS;2LINE FILLER;@10B00;0AVESTAN LETTER A;2AA;2AO;2AAO;2AN;2AAN;2AE;2AEE;2E;2EE;2O",
    ";2OO;2I;2II;2U;2UU;2KE;2XE;2XYE;2XVE;2GE;2GGE;2GHE;2CE;2JE;2TE;2THE;2DE;2DHE;2TTE;2PE;2FE",
    ";2BE;2BHE;2NGE;2NGYE;2NGVE;2NE;2NYE;2NNE;2ME;2HME;2YYE;2YE;2VE;2RE;2LE;2SE;2ZE;2SHE;2ZHE",
    ";2SHYE;2SSHE;2HE;@10B39;1ABBREVIATION MARK;0TINY TWO DOTS OVER ONE DOT PUNCTUATION",
    ";0SMALL TWO DOTS OVER ONE DOT PUNCTUATION;0LARGE TWO DOTS OVER ONE DOT PUNCTUATION",
    ";1ONE DOT OVER TWO DOTS PUNCTUATION;1TWO RINGS OVER ONE RING PUNCTUATION",
    ";1ONE RING OVER TWO RINGS PUNCTUATION;0INSCRIPTIONAL PARTHIAN LETTER ALEPH;3BETH;3GIMEL",
    ";3DALETH;3HE;3WAW;3ZAYIN;3HETH;3TETH;3YODH;3KAPH;3LAMEDH;3MEM;3NUN;3SAMEKH;3AYIN;3PE;3SADHE",
    ";3QOPH;3RESH;3SHIN;3TAW;@10B58;2NUMBER ONE;3TWO;3THREE;3FOUR;3TEN;3TWENTY;3ONE HUNDRED",
    ";4THOUSAND;1PAHLAVI LETTER ALEPH;3BETH;3GIMEL;3DALETH;3HE;3WAW-AYIN-RESH;3ZAYIN;3HETH;3TETH",
    ";3YODH;3KAPH;3LAMEDH;3MEM-QOPH;3NUN;3SAMEKH;3PE;3SADHE;3SHIN;3TAW;@10B78;2NUMBER ONE;3TWO",
    ";3THREE;3FOUR;3TEN;3TWENTY;3ONE HUNDRED;4THOUSAND;0PSALTER PAHLAVI LETTER ALEPH;3BETH;3GIMEL",
    ";3DALETH;3HE;3WAW-AYIN-RESH;3ZAYIN;3HETH;3YODH;3KAPH;3LAMEDH;3MEM-QOPH;3NUN;3SAMEKH;3PE",
    ";3SADHE;3SHIN;3TAW;@10B99;2SECTION MARK;2TURNED SECTION MARK;2FOUR DOTS WITH CROSS;5DOT",
    ";@10BA9;2NUMBER ONE;3TWO;3THREE;3FOUR;3TEN;3TWENTY;3ONE HUNDRED;@10C00",
    ";0OLD TURKIC LETTER ORKHON A;3YENISEI A;4AE;3ORKHON I;3YENISEI I;4E;3ORKHON O;4OE",
    ";3YENISEI OE;3ORKHON AB;3YENISEI AB;3ORKHON AEB;3YENISEI AEB;3ORKHON AG;3YENISEI AG",
    ";3ORKHON AEG;3YENISEI AEG;3ORKHON AD;3YENISEI AD;3ORKHON AED;4EZ;3YENISEI EZ;3ORKHON AY",
    ";3YENISEI AY;3ORKHON AEY;3YENISEI AEY;3ORKHON AEK;3YENISEI AEK;3ORKHON OEK;3YENISEI OEK",
    ";3ORKHON AL;3YENISEI AL;3ORKHON AEL;4ELT;4EM;4AN;4AEN;3YENISEI AEN;3ORKHON ENT;3YENISEI ENT",
    ";3ORKHON ENC;3YENISEI ENC;3ORKHON ENY;3YENISEI ENY;4ANG;3ORKHON ENG;3YENISEI AENG;3ORKHON EP",
    ";4OP;4IC;4EC;3YENISEI EC;3ORKHON AQ;3YENISEI AQ;3ORKHON IQ;3YENISEI IQ;3ORKHON OQ",
    ";3YENISEI OQ;3ORKHON AR;3YENISEI AR;3ORKHON AER;4AS;4AES;4ASH;3YENISEI ASH;3ORKHON ESH",
    ";3YENISEI ESH;3ORKHON AT;3YENISEI AT;3ORKHON AET;3YENISEI AET;3ORKHON OT;4BASH;@10C80",
    ";1HUNGARIAN CAPITAL LETTER A;4AA;4EB;4AMB;4EC;4ENC;4ECS;4ED;4AND;4E;4CLOSE E;4EE;4EF;4EG",
    ";4EGY;4EH;4I;4II;4EJ;4EK;4AK;4UNK;4EL;4ELY;4EM;4EN;4ENY;4O;4OO;4NIKOLSBURG OE;4RUDIMENTA OE",
    ";4OEE;4EP;4EMP;4ER;4SHORT ER;4ES;4ESZ;4ET;4ENT;4ETY;4ECH;4U;4UU;4NIKOLSBURG UE;4RUDIMENTA UE",
    ";4EV;4EZ;4EZS;4ENT-SHAPED SIGN;4US"],
   [";@10CC0;2SMALL LETTER A;4AA;4EB;4AMB;4EC;4ENC;4ECS;4ED;4AND;4E;4CLOSE E;4EE;4EF;4EG;4EGY;4EH",
    ";4I;4II;4EJ;4EK;4AK;4UNK;4EL;4ELY;4EM;4EN;4ENY;4O;4OO;4NIKOLSBURG OE;4RUDIMENTA OE;4OEE;4EP",
    ";4EMP;4ER;4SHORT ER;4ES;4ESZ;4ET;4ENT;4ETY;4ECH;4U;4UU;4NIKOLSBURG UE;4RUDIMENTA UE;4EV;4EZ",
    ";4EZS;4ENT-SHAPED SIGN;4US;@10CFA;2NUMBER ONE;3FIVE;3TEN;3FIFTY;3ONE HUNDRED;4THOUSAND",
    ";0HANIFI ROHINGYA LETTER A;3BA;3PA;3TA;3TTA;3JA;3CA;3HA;3KHA;3FA;3DA;3DDA;3RA;3RRA;3ZA;3SA",
    ";3SHA;3KA;3GA;3LA;3MA;3NA;3WA;3KINNA WA;3YA;3KINNA YA;3NGA;3NYA;3VA;2VOWEL A;3I;3U;3E;3O",
    ";2MARK SAKIN;3NA KHONNA;2SIGN HARBAHAY;3TAHALA;3TANA;3TASSI;@10D30;2DIGIT ZERO;3ONE;3TWO",
    ";3THREE;3FOUR;3FIVE;3SIX;3SEVEN;3EIGHT;3NINE;@10E60;0RUMI DIGIT ONE;2TWO;2THREE;2FOUR;2FIVE",
    ";2SIX;2SEVEN;2EIGHT;2NINE;1NUMBER TEN;2TWENTY;2THIRTY;2FORTY;2FIFTY;2SIXTY;2SEVENTY;2EIGHTY",
    ";2NINETY;2ONE HUNDRED;2TWO HUNDRED;2THREE HUNDRED;2FOUR HUNDRED;2FIVE HUNDRED;2SIX HUNDRED",
    ";2SEVEN HUNDRED;2EIGHT HUNDRED;2NINE HUNDRED;1FRACTION ONE HALF;3QUARTER;3THIRD;2TWO THIRDS",
    ";@10E80;0YEZIDI LETTER ELIF;2BE;2PE;2PHE;2THE;2SE;2CIM;2CHIM;2CHHIM;2HHA;2XA;2DAL;2ZAL;2RA",
    ";2RHA;2ZA;2JA;2SIN;2SHIN;2SAD;2DAD;2TA;2ZE;2EYN;2XHEYN;2FA;2VA;3ALTERNATE FORM;2QAF;2KAF",
    ";2KHAF;2GAF;2LAM;2MIM;2NUN;2UM;2WAW;2OW;2EW;2HAY;2YOT;2ET;@10EAB;1COMBINING HAMZA MARK",
    ";2MADDA MARK;1HYPHENATION MARK;@10EB0;1LETTER LAM WITH DOT ABOVE;2YOT WITH CIRCUMFLEX ABOVE",
    ";@10F00;0OLD SOGDIAN LETTER ALEPH;3FINAL ALEPH;3BETH;3FINAL BETH;3GIMEL;3HE;3FINAL HE;3WAW",
    ";3ZAYIN;3HETH;3YODH;3KAPH;3LAMEDH;3MEM;3NUN;3FINAL NUN;5WITH VERTICAL TAIL;3SAMEKH;3AYIN",
    ";3ALTERNATE AYIN;3PE;3SADHE;3FINAL SADHE;5WITH VERTICAL TAIL;3RESH-AYIN-DALETH;3SHIN;3TAW",
    ";3FINAL TAW;5WITH VERTICAL TAIL;2NUMBER ONE;3TWO;3THREE;3FOUR;3FIVE;3TEN;3TWENTY;3THIRTY",
    ";3ONE HUNDRED;2FRACTION ONE HALF;2LIGATURE AYIN-DALETH;@10F30;0SOGDIAN LETTER ALEPH;2BETH",
    ";2GIMEL;2HE;2WAW;2ZAYIN;2HETH;2YODH;2KAPH;2LAMEDH;2MEM;2NUN;2SAMEKH;2AYIN;2PE;2SADHE",
    ";2RESH-AYIN;2SHIN;2TAW;2FETH;2LESH;1INDEPENDENT SHIN;1COMBINING DOT BELOW;2TWO DOTS BELOW",
    ";2DOT ABOVE;2TWO DOTS ABOVE;2CURVE ABOVE;3BELOW;2HOOK ABOVE;3BELOW;2LONG HOOK BELOW",
    ";2RESH BELOW;2STROKE BELOW;1NUMBER ONE;2TEN;2TWENTY;2ONE HUNDRED",
    ";1PUNCTUATION TWO VERTICAL BARS;5WITH DOTS;2CIRCLE WITH DOT;2TWO CIRCLES WITH DOTS",
    ";2HALF CIRCLE WITH DOT;@10F70;0OLD UYGHUR LETTER ALEPH;3BETH;3GIMEL-HETH;3WAW;3ZAYIN",
    ";3FINAL HETH;3YODH;3KAPH;3LAMEDH;3MEM;3NUN;3SAMEKH;3PE;3SADHE;3RESH;3SHIN;3TAW;3LESH",
    ";2COMBINING DOT ABOVE;4BELOW;3TWO DOTS ABOVE;5BELOW;2PUNCTUATION BAR;3TWO BARS;4DOTS",
    ";3FOUR DOTS;@10FB0;0CHORASMIAN LETTER ALEPH;2SMALL ALEPH;2BETH;2GIMEL;2DALETH;2HE;2WAW",
    ";2CURLED WAW;2ZAYIN;2HETH;2YODH;2KAPH;2LAMEDH;2MEM;2NUN;2SAMEKH;2AYIN;2PE;2RESH;2SHIN;2TAW",
    ";1NUMBER ONE;2TWO;2THREE;2FOUR;2TEN;2TWENTY;2ONE HUNDRED;@10FE0;0ELYMAIC LETTER ALEPH;2BETH",
    ";2GIMEL;2DALETH;2HE;2WAW;2ZAYIN;2HETH;2TETH;2YODH;2KAPH;2LAMEDH;2MEM;2NUN;2SAMEKH;2AYIN;2PE",
    ";2SADHE;2QOPH;2RESH;2SHIN;2TAW;1LIGATURE ZAYIN-YODH;@11000;0BRAHMI SIGN CANDRABINDU",
    ";2ANUSVARA;2VISARGA;2JIHVAMULIYA;2UPADHMANIYA;1LETTER A;2AA;2I;2II;2U;2UU;2VOCALIC R;3RR;3L",
    ";3LL;2E;2AI;2O;2AU;2KA;2KHA;2GA;2GHA;2NGA;2CA;2CHA;2JA;2JHA;2NYA;2TTA;2TTHA;2DDA;2DDHA;2NNA",
    ";2TA;2THA;2DA;2DHA;2NA;2PA;2PHA;2BA;2BHA;2MA;2YA;2RA;2LA;2VA;2SHA;2SSA;2SA;2HA;2LLA",
    ";2OLD TAMIL LLLA;4RRA;4NNNA;1VOWEL SIGN AA;3BHATTIPROLU AA;3I;3II;3U;3UU;3VOCALIC R;4RR;4L",
    ";4LL;3E;3AI;3O;3AU;1VIRAMA;1DANDA;1DOUBLE DANDA;1PUNCTUATION DOT;2DOUBLE DOT;2LINE",
    ";2CRESCENT BAR;2LOTUS;@11052;1NUMBER ONE;2TWO;2THREE;2FOUR;2FIVE;2SIX;2SEVEN;2EIGHT;2NINE",
    ";2TEN;2TWENTY;2THIRTY;2FORTY;2FIFTY;2SIXTY;2SEVENTY;2EIGHTY;2NINETY;2ONE HUNDRED;3THOUSAND",
    ";1DIGIT ZERO;2ONE;2TWO;2THREE;2FOUR;2FIVE;2SIX;2SEVEN;2EIGHT;2NINE;1SIGN OLD TAMIL VIRAMA",
    ";1LETTER OLD TAMIL SHORT E;5O;1VOWEL SIGN OLD TAMIL SHORT E;6O;1LETTER OLD TAMIL LLA"],
   [";@1107F;1NUMBER JOINER;0KAITHI SIGN CANDRABINDU;2ANUSVARA;2VISARGA;1LETTER A;2AA;2I;2II;2U",
    ";2UU;2E;2AI;2O;2AU;2KA;2KHA;2GA;2GHA;2NGA;2CA;2CHA;2JA;2JHA;2NYA;2TTA;2TTHA;2DDA;2DDDHA",
    ";2DDHA;2RHA;2NNA;2TA;2THA;2DA;2DHA;2NA;2PA;2PHA;2BA;2BHA;2MA;2YA;2RA;2LA;2VA;2SHA;2SSA;2SA",
    ";2HA;1VOWEL SIGN AA;3I;3II;3U;3UU;3E;3AI;3O;3AU;1SIGN VIRAMA;2NUKTA;1ABBREVIATION SIGN",
    ";1ENUMERATION SIGN;1NUMBER SIGN;1SECTION MARK;1DOUBLE SECTION MARK;1DANDA;1DOUBLE DANDA",
    ";1VOWEL SIGN VOCALIC R;@110CD;1NUMBER SIGN ABOVE;@110D0;0SORA SOMPENG LETTER SAH;3TAH;3BAH",
    ";3CAH;3DAH;3GAH;3MAH;3NGAH;3LAH;3NAH;3VAH;3PAH;3YAH;3RAH;3HAH;3KAH;3JAH;3NYAH;3AH;3EEH;3IH",
    ";3UH;3OH;3EH;3MAE;@110F0;2DIGIT ZERO;3ONE;3TWO;3THREE;3FOUR;3FIVE;3SIX;3SEVEN;3EIGHT;3NINE",
    ";@11100;0CHAKMA SIGN CANDRABINDU;2ANUSVARA;2VISARGA;1LETTER AA;2I;2U;2E;2KAA;2KHAA;2GAA",
    ";2GHAA;2NGAA;2CAA;2CHAA;2JAA;2JHAA;2NYAA;2TTAA;2TTHAA;2DDAA;2DDHAA;2NNAA;2TAA;2THAA;2DAA",
    ";2DHAA;2NAA;2PAA;2PHAA;2BAA;2BHAA;2MAA;2YYAA;2YAA;2RAA;2LAA;2WAA;2SAA;2HAA;1VOWEL SIGN A;3I",
    ";3II;3U;3UU;3E;3AI;3O;3AU;3OI;1O MARK;1AU MARK;1VIRAMA;1MAAYYAA;@11136;1DIGIT ZERO;2ONE;2TWO",
    ";2THREE;2FOUR;2FIVE;2SIX;2SEVEN;2EIGHT;2NINE;1SECTION MARK;1DANDA;1DOUBLE DANDA",
    ";1QUESTION MARK;1LETTER LHAA;1VOWEL SIGN AA;3EI;1LETTER VAA;@11150;0MAHAJANI LETTER A;2I;2U",
    ";2E;2O;2KA;2KHA;2GA;2GHA;2CA;2CHA;2JA;2JHA;2NYA;2TTA;2TTHA;2DDA;2DDHA;2NNA;2TA;2THA;2DA;2DHA",
    ";2NA;2PA;2PHA;2BA;2BHA;2MA;2RA;2LA;2VA;2SA;2HA;2RRA;1SIGN NUKTA;1ABBREVIATION SIGN",
    ";1SECTION MARK;1LIGATURE SHRI;@11180;0SHARADA SIGN CANDRABINDU;2ANUSVARA;2VISARGA;1LETTER A",
    ";2AA;2I;2II;2U;2UU;2VOCALIC R;3RR;3L;3LL;2E;2AI;2O;2AU;2KA;2KHA;2GA;2GHA;2NGA;2CA;2CHA;2JA",
    ";2JHA;2NYA;2TTA;2TTHA;2DDA;2DDHA;2NNA;2TA;2THA;2DA;2DHA;2NA;2PA;2PHA;2BA;2BHA;2MA;2YA;2RA",
    ";2LA;2LLA;2VA;2SHA;2SSA;2SA;2HA;1VOWEL SIGN AA;3I;3II;3U;3UU;3VOCALIC R;4RR;4L;4LL;3E;3AI;3O",
    ";3AU;1SIGN VIRAMA;2AVAGRAHA;2JIHVAMULIYA;2UPADHMANIYA;1OM;1DANDA;1DOUBLE DANDA",
    ";1ABBREVIATION SIGN;1SEPARATOR;1SANDHI MARK;1SIGN NUKTA;1VOWEL MODIFIER MARK",
    ";1EXTRA SHORT VOWEL MARK;1SUTRA MARK;1VOWEL SIGN PRISHTHAMATRA E;1SIGN INVERTED CANDRABINDU",
    ";1DIGIT ZERO;2ONE;2TWO;2THREE;2FOUR;2FIVE;2SIX;2SEVEN;2EIGHT;2NINE;1EKAM;1SIGN SIDDHAM",
    ";1HEADSTROKE;1CONTINUATION SIGN;1SECTION MARK-1;2MARK-2;@111E1;0SINHALA ARCHAIC DIGIT ONE",
    ";3TWO;3THREE;3FOUR;3FIVE;3SIX;3SEVEN;3EIGHT;3NINE;2NUMBER TEN;3TWENTY;3THIRTY;3FORTY;3FIFTY",
    ";3SIXTY;3SEVENTY;3EIGHTY;3NINETY;3ONE HUNDRED;4THOUSAND;@11200;0KHOJKI LETTER A;2AA;2I;2U;2E",
    ";2AI;2O;2AU;2KA;2KHA;2GA;2GGA;2GHA;2NGA;2CA;2CHA;2JA;2JJA;@11213;2NYA;2TTA;2TTHA;2DDA;2DDHA",
    ";2NNA;2TA;2THA;2DA;2DDDA;2DHA;2NA;2PA;2PHA;2BA;2BBA;2BHA;2MA;2YA;2RA;2LA;2VA;2SA;2HA;2LLA",
    ";1VOWEL SIGN AA;3I;3II;3U;3E;3AI;3O;3AU;1SIGN ANUSVARA;2VIRAMA;2NUKTA;2SHADDA;1DANDA",
    ";1DOUBLE DANDA;1WORD SEPARATOR;1SECTION MARK;1DOUBLE SECTION MARK;1ABBREVIATION SIGN",
    ";1SIGN SUKUN;@11280;0MULTANI LETTER A;2I;2U;2E;2KA;2KHA;2GA;@11288;2GHA;@1128A;2CA;2CHA;2JA",
    ";2JJA;@1128F;2NYA;2TTA;2TTHA;2DDA;2DDDA;2DDHA;2NNA;2TA;2THA;2DA;2DHA;2NA;2PA;2PHA;2BA;@1129F",
    ";2BHA;2MA;2YA;2RA;2LA;2VA;2SA;2HA;2RRA;2RHA;1SECTION MARK;@112B0;0KHUDAWADI LETTER A;2AA;2I",
    ";2II;2U;2UU;2E;2AI;2O;2AU;2KA;2KHA;2GA;2GGA;2GHA;2NGA;2CA;2CHA;2JA;2JJA;2JHA;2NYA;2TTA;2TTHA",
    ";2DDA;2DDDA;2RRA;2DDHA;2NNA;2TA;2THA;2DA;2DHA;2NA;2PA;2PHA;2BA;2BBA;2BHA;2MA;2YA;2RA;2LA;2VA",
    ";2SHA;2SA;2HA;1SIGN ANUSVARA;1VOWEL SIGN AA;3I;3II;3U;3UU;3E;3AI;3O;3AU;1SIGN NUKTA;2VIRAMA",
    ";@112F0;1DIGIT ZERO;2ONE;2TWO;2THREE;2FOUR;2FIVE;2SIX;2SEVEN;2EIGHT;2NINE;@11300",
    ";0GRANTHA SIGN COMBINING ANUSVARA ABOVE;2CANDRABINDU;2ANUSVARA;2VISARGA;@11305;1LETTER A;2AA",
    ";2I;2II;2U;2UU;2VOCALIC R;3L;@1130F;2EE;2AI;@11313;2OO;2AU;2KA;2KHA;2GA;2GHA;2NGA;2CA;2CHA",
    ";2JA;2JHA;2NYA;2TTA;2TTHA;2DDA;2DDHA;2NNA;2TA;2THA;2DA;2DHA;2NA"],
   [";@1132A;2PA;2PHA;2BA;2BHA;2MA;2YA;2RA;@11332;2LA;2LLA;@11335;2VA;2SHA;2SSA;2SA;2HA;@1133B",
    ";0COMBINING BINDU BELOW;0GRANTHA SIGN NUKTA;2AVAGRAHA;1VOWEL SIGN AA;3I;3II;3U;3UU",
    ";3VOCALIC R;4RR;@11347;3EE;3AI;@1134B;3OO;3AU;1SIGN VIRAMA;@11350;1OM;@11357;1AU LENGTH MARK",
    ";@1135D;1SIGN PLUTA;1LETTER VEDIC ANUSVARA;3DOUBLE ANUSVARA;2VOCALIC RR;3LL",
    ";1VOWEL SIGN VOCALIC L;4LL;@11366;0COMBINING GRANTHA DIGIT ZERO;3ONE;3TWO;3THREE;3FOUR;3FIVE",
    ";3SIX;@11370;2LETTER A;3KA;3NA;3VI;3PA;@11400;0NEWA LETTER A;2AA;2I;2II;2U;2UU;2VOCALIC R",
    ";3RR;3L;3LL;2E;2AI;2O;2AU;2KA;2KHA;2GA;2GHA;2NGA;2NGHA;2CA;2CHA;2JA;2JHA;2NYA;2NYHA;2TTA",
    ";2TTHA;2DDA;2DDHA;2NNA;2TA;2THA;2DA;2DHA;2NA;2NHA;2PA;2PHA;2BA;2BHA;2MA;2MHA;2YA;2RA;2RHA",
    ";2LA;2LHA;2WA;2SHA;2SSA;2SA;2HA;1VOWEL SIGN AA;3I;3II;3U;3UU;3VOCALIC R;4RR;4L;4LL;3E;3AI;3O",
    ";3AU;1SIGN VIRAMA;2CANDRABINDU;2ANUSVARA;2VISARGA;2NUKTA;2AVAGRAHA;2FINAL ANUSVARA;1OM",
    ";1SIDDHI;1DANDA;1DOUBLE DANDA;1COMMA;1GAP FILLER;1ABBREVIATION SIGN;1DIGIT ZERO;2ONE;2TWO",
    ";2THREE;2FOUR;2FIVE;2SIX;2SEVEN;2EIGHT;2NINE;1DOUBLE COMMA;1PLACEHOLDER MARK;@1145D",
    ";1INSERTION SIGN;1SANDHI MARK;1LETTER VEDIC ANUSVARA;1SIGN JIHVAMULIYA;2UPADHMANIYA;@11480",
    ";0TIRHUTA ANJI;1LETTER A;2AA;2I;2II;2U;2UU;2VOCALIC R;3RR;3L;3LL;2E;2AI;2O;2AU;2KA;2KHA;2GA",
    ";2GHA;2NGA;2CA;2CHA;2JA;2JHA;2NYA;2TTA;2TTHA;2DDA;2DDHA;2NNA;2TA;2THA;2DA;2DHA;2NA;2PA;2PHA",
    ";2BA;2BHA;2MA;2YA;2RA;2LA;2VA;2SHA;2SSA;2SA;2HA;1VOWEL SIGN AA;3I;3II;3U;3UU;3VOCALIC R;4RR",
    ";4L;4LL;3E;3SHORT E;3AI;3O;3SHORT O;3AU;1SIGN CANDRABINDU;2ANUSVARA;2VISARGA;2VIRAMA;2NUKTA",
    ";2AVAGRAHA;1GVANG;1ABBREVIATION SIGN;1OM;@114D0;1DIGIT ZERO;2ONE;2TWO;2THREE;2FOUR;2FIVE",
    ";2SIX;2SEVEN;2EIGHT;2NINE;@11580;0SIDDHAM LETTER A;2AA;2I;2II;2U;2UU;2VOCALIC R;3RR;3L;3LL",
    ";2E;2AI;2O;2AU;2KA;2KHA;2GA;2GHA;2NGA;2CA;2CHA;2JA;2JHA;2NYA;2TTA;2TTHA;2DDA;2DDHA;2NNA;2TA",
    ";2THA;2DA;2DHA;2NA;2PA;2PHA;2BA;2BHA;2MA;2YA;2RA;2LA;2VA;2SHA;2SSA;2SA;2HA;1VOWEL SIGN AA;3I",
    ";3II;3U;3UU;3VOCALIC R;4RR;@115B8;3E;3AI;3O;3AU;1SIGN CANDRABINDU;2ANUSVARA;2VISARGA;2VIRAMA",
    ";2NUKTA;2SIDDHAM;1DANDA;1DOUBLE DANDA;1SEPARATOR DOT;2BAR;1REPETITION MARK-1;2MARK-2;2MARK-3",
    ";1END OF TEXT MARK;1SECTION MARK WITH TRIDENT AND U-SHAPED ORNAMENTS;6DOTTED CRESCENTS",
    ";4RAYS AND DOTTED CRESCENTS;7DOUBLE CRESCENTS;7TRIPLE CRESCENTS;3DOUBLE RING;5WITH RAYS",
    ";3WITH DOUBLE CRESCENTS;4TRIPLE CRESCENTS;4QUADRUPLE CRESCENTS;4SEPTUPLE CRESCENTS",
    ";4CIRCLES AND RAYS;6TWO ENCLOSURES;6FOUR ENCLOSURES;1LETTER THREE-CIRCLE ALTERNATE I",
    ";2TWO-CIRCLE ALTERNATE I;4II;2ALTERNATE U;1VOWEL SIGN ALTERNATE U;4UU;@11600;0MODI LETTER A",
    ";2AA;2I;2II;2U;2UU;2VOCALIC R;3RR;3L;3LL;2E;2AI;2O;2AU;2KA;2KHA;2GA;2GHA;2NGA;2CA;2CHA;2JA",
    ";2JHA;2NYA;2TTA;2TTHA;2DDA;2DDHA;2NNA;2TA;2THA;2DA;2DHA;2NA;2PA;2PHA;2BA;2BHA;2MA;2YA;2RA",
    ";2LA;2VA;2SHA;2SSA;2SA;2HA;2LLA;1VOWEL SIGN AA;3I;3II;3U;3UU;3VOCALIC R;4RR;4L;4LL;3E;3AI;3O",
    ";3AU;1SIGN ANUSVARA;2VISARGA;2VIRAMA;2ARDHACANDRA;1DANDA;1DOUBLE DANDA;1ABBREVIATION SIGN",
    ";1SIGN HUVA;@11650;1DIGIT ZERO;2ONE;2TWO;2THREE;2FOUR;2FIVE;2SIX;2SEVEN;2EIGHT;2NINE;@11660",
    ";0MONGOLIAN BIRGA WITH ORNAMENT;1ROTATED BIRGA;1DOUBLE BIRGA WITH ORNAMENT",
    ";1TRIPLE BIRGA WITH ORNAMENT;1BIRGA WITH DOUBLE ORNAMENT;1ROTATED BIRGA WITH ORNAMENT",
    ";4DOUBLE ORNAMENT;1INVERTED BIRGA;3WITH DOUBLE ORNAMENT;1SWIRL BIRGA;3WITH ORNAMENT",
    ";4DOUBLE ORNAMENT;1TURNED SWIRL BIRGA WITH DOUBLE ORNAMENT;@11680;0TAKRI LETTER A;2AA;2I;2II",
    ";2U;2UU;2E;2AI;2O;2AU;2KA;2KHA;2GA;2GHA;2NGA;2CA;2CHA;2JA;2JHA;2NYA;2TTA;2TTHA;2DDA;2DDHA",
    ";2NNA;2TA;2THA;2DA;2DHA;2NA;2PA;2PHA;2BA;2BHA;2MA;2YA;2RA;2LA;2VA;2SHA;2SA;2HA;2RRA",
    ";1SIGN ANUSVARA;2VISARGA;1VOWEL SIGN AA;3I;3II;3U;3UU;3E;3AI;3O;3AU;1SIGN VIRAMA;2NUKTA",
    ";1LETTER ARCHAIC KHA;1ABBREVIATION SIGN"],
   [";@116C0;1DIGIT ZERO;2ONE;2TWO;2THREE;2FOUR;2FIVE;2SIX;2SEVEN;2EIGHT;2NINE;@11700",
    ";0AHOM LETTER KA;2KHA;2NGA;2NA;2TA;2ALTERNATE TA;2PA;2PHA;2BA;2MA;2JA;2CHA;2THA;2RA;2LA;2SA",
    ";2NYA;2HA;2A;2DA;2DHA;2GA;2ALTERNATE GA;2GHA;2BHA;2JHA;2ALTERNATE BA;@1171D",
    ";1CONSONANT SIGN MEDIAL LA;4RA;4LIGATING RA;1VOWEL SIGN A;3AA;3I;3II;3U;3UU;3E;3AW;3O;3AI",
    ";3AM;1SIGN KILLER;@11730;1DIGIT ZERO;2ONE;2TWO;2THREE;2FOUR;2FIVE;2SIX;2SEVEN;2EIGHT;2NINE",
    ";1NUMBER TEN;2TWENTY;1SIGN SMALL SECTION;2SECTION;2RULAI;1SYMBOL VI;1LETTER CA;2TTA;2TTHA",
    ";2DDA;2DDHA;2NNA;2LLA;@11800;0DOGRA LETTER A;2AA;2I;2II;2U;2UU;2E;2AI;2O;2AU;2KA;2KHA;2GA",
    ";2GHA;2NGA;2CA;2CHA;2JA;2JHA;2NYA;2TTA;2TTHA;2DDA;2DDHA;2NNA;2TA;2THA;2DA;2DHA;2NA;2PA;2PHA",
    ";2BA;2BHA;2MA;2YA;2RA;2LA;2VA;2SHA;2SSA;2SA;2HA;2RRA;1VOWEL SIGN AA;3I;3II;3U;3UU;3VOCALIC R",
    ";4RR;3E;3AI;3O;3AU;1SIGN ANUSVARA;2VISARGA;2VIRAMA;2NUKTA;1ABBREVIATION SIGN;@118A0",
    ";0WARANG CITI CAPITAL LETTER NGAA;4A;4WI;4YU;4YA;4YO;4II;4UU;4E;4O;4ANG;4GA;4KO;4ENY;4YUJ",
    ";4UC;4ENN;4ODD;4TTE;4NUNG;4DA;4AT;4AM;4BU;4PU;4HIYO;4HOLO;4HORR;4HAR;4SSUU;4SII;4VIYO",
    ";2SMALL LETTER NGAA;4A;4WI;4YU;4YA;4YO;4II;4UU;4E;4O;4ANG;4GA;4KO;4ENY;4YUJ;4UC;4ENN;4ODD",
    ";4TTE;4NUNG;4DA;4AT;4AM;4BU;4PU;4HIYO;4HOLO;4HORR;4HAR;4SSUU;4SII;4VIYO;2DIGIT ZERO;3ONE",
    ";3TWO;3THREE;3FOUR;3FIVE;3SIX;3SEVEN;3EIGHT;3NINE;2NUMBER TEN;3TWENTY;3THIRTY;3FORTY;3FIFTY",
    ";3SIXTY;3SEVENTY;3EIGHTY;3NINETY;@118FF;2OM;0DIVES AKURU LETTER A;3AA;3I;3II;3U;3UU;3E",
    ";@11909;3O;@1190C;3KA;3KHA;3GA;3GHA;3NGA;3CA;3CHA;3JA;@11915;3NYA;3TTA;@11918;3DDA;3DDHA",
    ";3NNA;3TA;3THA;3DA;3DHA;3NA;3PA;3PHA;3BA;3BHA;3MA;3YA;3YYA;3RA;3LA;3VA;3SHA;3SSA;3SA;3HA",
    ";3LLA;3ZA;2VOWEL SIGN AA;4I;4II;4U;4UU;4E;@11937;4AI;4O;@1193B;2SIGN ANUSVARA;3CANDRABINDU",
    ";3HALANTA;2VIRAMA;2PREFIXED NASAL SIGN;2MEDIAL YA;2INITIAL RA;2MEDIAL RA;2SIGN NUKTA",
    ";2DOUBLE DANDA;2GAP FILLER;2END OF TEXT MARK;@11950;2DIGIT ZERO;3ONE;3TWO;3THREE;3FOUR;3FIVE",
    ";3SIX;3SEVEN;3EIGHT;3NINE;@119A0;0NANDINAGARI LETTER A;2AA;2I;2II;2U;2UU;2VOCALIC R;3RR",
    ";@119AA;2E;2AI;2O;2AU;2KA;2KHA;2GA;2GHA;2NGA;2CA;2CHA;2JA;2JHA;2NYA;2TTA;2TTHA;2DDA;2DDHA",
    ";2NNA;2TA;2THA;2DA;2DHA;2NA;2PA;2PHA;2BA;2BHA;2MA;2YA;2RA;2LA;2VA;2SHA;2SSA;2SA;2HA;2LLA",
    ";2RRA;1VOWEL SIGN AA;3I;3II;3U;3UU;3VOCALIC R;4RR;@119DA;3E;3AI;3O;3AU;1SIGN ANUSVARA",
    ";2VISARGA;2VIRAMA;2AVAGRAHA;2SIDDHAM;1HEADSTROKE;1VOWEL SIGN PRISHTHAMATRA E;@11A00",
    ";0ZANABAZAR SQUARE LETTER A;2VOWEL SIGN I;4UE;4U;4E;4OE;4O;4AI;4AU;4REVERSED I;3LENGTH MARK",
    ";2LETTER KA;3KHA;3GA;3GHA;3NGA;3CA;3CHA;3JA;3NYA;3TTA;3TTHA;3DDA;3DDHA;3NNA;3TA;3THA;3DA",
    ";3DHA;3NA;3PA;3PHA;3BA;3BHA;3MA;3TSA;3TSHA;3DZA;3DZHA;3ZHA;3ZA;3-A;3YA;3RA;3LA;3VA;3SHA;3SSA",
    ";3SA;3HA;3KSSA;2FINAL CONSONANT MARK;2SIGN VIRAMA;3CANDRABINDU;4WITH ORNAMENT",
    ";3CANDRA WITH ORNAMENT;3ANUSVARA;3VISARGA;2CLUSTER-INITIAL LETTER RA",
    ";2CLUSTER-FINAL LETTER YA;4RA;4LA;4VA;2INITIAL HEAD MARK;2CLOSING HEAD MARK;2MARK TSHEG",
    ";3SHAD;3DOUBLE SHAD;3LONG TSHEG;2INITIAL DOUBLE-LINED HEAD MARK",
    ";2CLOSING DOUBLE-LINED HEAD MARK;2SUBJOINER;@11A50;0SOYOMBO LETTER A;1VOWEL SIGN I;3UE;3U;3E",
    ";3O;3OE;3AI;3AU;3VOCALIC R;4L;2LENGTH MARK;1LETTER KA;2KHA;2GA;2GHA;2NGA;2CA;2CHA;2JA;2JHA",
    ";2NYA;2TTA;2TTHA;2DDA;2DDHA;2NNA;2TA;2THA;2DA;2DHA;2NA;2PA;2PHA;2BA;2BHA;2MA;2TSA;2TSHA;2DZA",
    ";2ZHA;2ZA;2-A;2YA;2RA;2LA;2VA;2SHA;2SSA;2SA;2HA;2KSSA;1SIGN JIHVAMULIYA;2UPADHMANIYA",
    ";1CLUSTER-INITIAL LETTER RA;3LA;3SHA;3SA;1FINAL CONSONANT SIGN G;4K;4NG;4D;4N;4B;4M;4R;4L",
    ";4SH;4S;4-A;1SIGN ANUSVARA;2VISARGA;1GEMINATION MARK;1SUBJOINER;1MARK TSHEG;2SHAD",
    ";2DOUBLE SHAD;2PLUTA;1HEAD MARK WITH MOON AND SUN AND TRIPLE FLAME;8FLAME;6SUN",
    ";1TERMINAL MARK-1;2MARK-2"],
   [";@11AB0;0CANADIAN SYLLABICS NATTILIK HI;3HII;3HO;3HOO;3HA;3HAA;3SHRI;3SHRII;3SHRO;3SHROO",
    ";3SHRA;3SHRAA;2SPE;2SPI;2SPO;2SPA;0PAU CIN HAU LETTER PA;4KA;4LA;4MA;4DA;4ZA;4VA;4NGA;4HA",
    ";4GA;4KHA;4SA;4BA;4CA;4TA;4THA;4NA;4PHA;4RA;4FA;4CHA;4A;4E;4I;4O;4U;4UA;4IA;4FINAL P;5K;5T",
    ";5M;5N;5L;5W;5NG;5Y;3RISING TONE LONG;4TONE;3SANDHI GLOTTAL STOP;3RISING TONE LONG FINAL",
    ";5FINAL;3SANDHI GLOTTAL STOP FINAL;4TONE LONG;4TONE;5LONG FINAL;5FINAL;3MID-LEVEL TONE",
    ";3GLOTTAL STOP VARIANT;3MID-LEVEL TONE LONG FINAL;5FINAL;3LOW-FALLING TONE LONG;4TONE",
    ";3GLOTTAL STOP;3LOW-FALLING TONE LONG FINAL;5FINAL;3GLOTTAL STOP FINAL;@11C00",
    ";0BHAIKSUKI LETTER A;2AA;2I;2II;2U;2UU;2VOCALIC R;3RR;3L;@11C0A;2E;2AI;2O;2AU;2KA;2KHA;2GA",
    ";2GHA;2NGA;2CA;2CHA;2JA;2JHA;2NYA;2TTA;2TTHA;2DDA;2DDHA;2NNA;2TA;2THA;2DA;2DHA;2NA;2PA;2PHA",
    ";2BA;2BHA;2MA;2YA;2RA;2LA;2VA;2SHA;2SSA;2SA;2HA;1VOWEL SIGN AA;3I;3II;3U;3UU;3VOCALIC R;4RR",
    ";4L;@11C38;3E;3AI;3O;3AU;1SIGN CANDRABINDU;2ANUSVARA;2VISARGA;2VIRAMA;2AVAGRAHA;1DANDA",
    ";1DOUBLE DANDA;1WORD SEPARATOR;1GAP FILLER-1;2FILLER-2;@11C50;1DIGIT ZERO;2ONE;2TWO;2THREE",
    ";2FOUR;2FIVE;2SIX;2SEVEN;2EIGHT;2NINE;1NUMBER ONE;2TWO;2THREE;2FOUR;2FIVE;2SIX;2SEVEN;2EIGHT",
    ";2NINE;2TEN;2TWENTY;2THIRTY;2FORTY;2FIFTY;2SIXTY;2SEVENTY;2EIGHTY;2NINETY",
    ";1HUNDREDS UNIT MARK;@11C70;0MARCHEN HEAD MARK;1MARK SHAD;1LETTER KA;2KHA;2GA;2NGA;2CA;2CHA",
    ";2JA;2NYA;2TA;2THA;2DA;2NA;2PA;2PHA;2BA;2MA;2TSA;2TSHA;2DZA;2WA;2ZHA;2ZA;2-A;2YA;2RA;2LA",
    ";2SHA;2SA;2HA;2A;@11C92;1SUBJOINED LETTER KA;3KHA;3GA;3NGA;3CA;3CHA;3JA;3NYA;3TA;3THA;3DA",
    ";3NA;3PA;3PHA;3BA;3MA;3TSA;3TSHA;3DZA;3WA;3ZHA;3ZA;@11CA9;3YA;3RA;3LA;3SHA;3SA;3HA;3A",
    ";1VOWEL SIGN AA;3I;3U;3E;3O;1SIGN ANUSVARA;2CANDRABINDU;@11D00;0MASARAM GONDI LETTER A;3AA",
    ";3I;3II;3U;3UU;3E;@11D08;3AI;3O;@11D0B;3AU;3KA;3KHA;3GA;3GHA;3NGA;3CA;3CHA;3JA;3JHA;3NYA",
    ";3TTA;3TTHA;3DDA;3DDHA;3NNA;3TA;3THA;3DA;3DHA;3NA;3PA;3PHA;3BA;3BHA;3MA;3YA;3RA;3LA;3VA;3SHA",
    ";3SSA;3SA;3HA;3LLA;3KSSA;3JNYA;3TRA;2VOWEL SIGN AA;4I;4II;4U;4UU;4VOCALIC R;@11D3A;4E;@11D3C",
    ";4AI;4O;@11D3F;4AU;2SIGN ANUSVARA;3VISARGA;3NUKTA;3CANDRA;3HALANTA;2VIRAMA;2REPHA;2RA-KARA",
    ";@11D50;2DIGIT ZERO;3ONE;3TWO;3THREE;3FOUR;3FIVE;3SIX;3SEVEN;3EIGHT;3NINE;@11D60",
    ";0GUNJALA GONDI LETTER A;3AA;3I;3II;3U;3UU;@11D67;3EE;3AI;@11D6A;3OO;3AU;3YA;3VA;3BA;3BHA",
    ";3MA;3KA;3KHA;3TA;3THA;3LA;3GA;3GHA;3DA;3DHA;3NA;3CA;3CHA;3TTA;3TTHA;3LLA;3JA;3JHA;3DDA",
    ";3DDHA;3NGA;3PA;3PHA;3HA;3RA;3SA;2VOWEL SIGN AA;4I;4II;4U;4UU;@11D90;4EE;4AI;@11D93;4OO;4AU",
    ";2SIGN ANUSVARA;3VISARGA;2VIRAMA;2OM;@11DA0;2DIGIT ZERO;3ONE;3TWO;3THREE;3FOUR;3FIVE;3SIX",
    ";3SEVEN;3EIGHT;3NINE;@11EE0;0MAKASAR LETTER KA;2GA;2NGA;2PA;2BA;2MA;2TA;2DA;2NA;2CA;2JA;2NYA",
    ";2YA;2RA;2LA;2VA;2SA;2A;1ANGKA;1VOWEL SIGN I;3U;3E;3O;1PASSIMBANG;1END OF SECTION;@11FB0",
    ";0LISU LETTER YHA;@11FC0;0TAMIL FRACTION ONE THREE-HUNDRED-AND-TWENTIETH",
    ";3ONE-HUNDRED-AND-SIXTIETH;3EIGHTIETH;3SIXTY-FOURTH;3FORTIETH;3THIRTY-SECOND",
    ";2THREE EIGHTIETHS;3SIXTY-FOURTHS;2ONE TWENTIETH;3SIXTEENTH-1;3SIXTEENTH-2;3TENTH;3EIGHTH",
    ";2THREE TWENTIETHS;3SIXTEENTHS;2ONE FIFTH;3QUARTER;3HALF-1;3HALF-2;2THREE QUARTERS",
    ";2DOWNSCALING FACTOR KIIZH;1SIGN NEL;2CEVITU;2AAZHAAKKU;2UZHAKKU;2MUUVUZHAKKU;2KURUNI",
    ";2PATHAKKU;2MUKKURUNI;2KAACU;2PANAM;2PON;2VARAAKAN;2PAARAM;2KUZHI;2VELI",
    ";1WET CULTIVATION SIGN;1DRY CULTIVATION SIGN;1LAND SIGN;1SALT PAN SIGN",
    ";1TRADITIONAL CREDIT SIGN;2NUMBER SIGN;1CURRENT SIGN;1AND ODD SIGN;1SPENT SIGN;1TOTAL SIGN",
    ";1IN POSSESSION SIGN;1STARTING FROM SIGN;1SIGN MUTHALIYA;2VAKAIYARAA;@11FFF",
    ";1PUNCTUATION END OF TEXT;0CUNEIFORM SIGN A;3TIMES A;4BAD;4GAN2 TENU;4HA;4IGI;4LAGAR GUNU",
    ";4MUSH;4SAG;2A2;2AB;3TIMES ASH2;4DUN3 GUNU;4GAL;4GAN2 TENU;4HA;4IGI GUNU;4IMIN;4LAGAB;4SHESH",
    ";4U PLUS U PLUS U;3GUNU;2AB2;3TIMES BALAG;4GAN2 TENU;4ME PLUS EN;4SHA3;4TAK4;2AD;2AK",
    ";3TIMES ERIN2;4SHITA PLUS GISH;2AL;3TIMES AL;4DIM2;4GISH;4HA;4KAD3;4KI;4SHE;4USH;2ALAN",
    ";2ALEPH;2AMAR;3TIMES SHE;2AN;3OVER AN;3THREE TIMES;3PLUS NAGA OPPOSING AN PLUS NAGA;5SQUARED",
    ";2ANSHE;2APIN;2ARAD;3TIMES KUR;2ARKAB;2ASAL2;2ASH;3ZIDA TENU;3KABA TENU",
    ";3OVER ASH TUG2 OVER TUG2 TUG2 OVER TUG2 PAP;5OVER ASH;7CROSSING ASH OVER ASH OVER ASH;2ASH2",
    ";2ASHGAB;2BA;2BAD;2BAG3;2BAHAR2;2BAL;3OVER BAL;2BALAG;2BAR;2BARA2;2BI;3TIMES A;4GAR",
    ";4IGI GUNU;2BU;3OVER BU AB;5UN;3CROSSING BU;2BULUG;3OVER BULUG;2BUR;2BUR2;2DA;2DAG",
    ";3KISIM5 TIMES A PLUS MASH;5AMAR;5BALAG;5BI;5GA;6PLUS MASH;5GI;5GIR2;5GUD;5HA;5IR;6PLUS LU",
    ";5KAK;5LA;5LU;6PLUS MASH2;5LUM;5NE;5PAP PLUS PAP;5SI;5TAK4;5U2 PLUS GIR2;5USH;2DAM;2DAR",
    ";2DARA3;2DARA4;2DI;2DIB;2DIM;3TIMES SHE;2DIM2;2DIN;3KASKAL U GUNU DISH;2DISH;2DU;3OVER DU",
    ";3GUNU;3SHESHIG;2DUB;3TIMES ESH2;2DUB2;2DUG;2DUGUD;2DUH;2DUN;2DUN3;3GUNU;4GUNU;2DUN4;2DUR2",
    ";2E;3TIMES PAP;3OVER E NUN OVER NUN;2E2;3TIMES A PLUS HA PLUS DA;4GAR;4MI;4SAL;4SHE;4U;2EDIN",
    ";2EGIR;2EL;2EN;3TIMES GAN2;5TENU;4ME;3CROSSING EN;3OPPOSING EN;3SQUARED;2EREN;2ERIN2;2ESH2",
    ";2EZEN;3TIMES A;5PLUS LAL;7TIMES LAL;4AN;4BAD;4DUN3 GUNU;6GUNU;4HA;5GUNU;4IGI GUNU;4KASKAL",
    ";5SQUARED;4KU3;4LA;4LAL TIMES LAL;4LI;4LU;4U2;4UD;2GA;3GUNU;2GA2;3TIMES A PLUS DA PLUS HA",
    ";6HA;6IGI;4AB2 TENU PLUS TAB;4AN;4ASH;4ASH2 PLUS GAL;4BAD;4BAR PLUS RA;4BUR;5PLUS RA;4DA;4DI",
    ";4DIM TIMES SHE;4DUB;4EL;5PLUS LA;4EN;5TIMES GAN2 TENU;4GAN2 TENU;4GAR;4GI;4GI4;5PLUS A",
    ";4GIR2 PLUS SU;4HA PLUS LU PLUS ESH2;4HAL;5PLUS LA;4HI PLUS LI;4HUB2;4IGI GUNU",
    ";4ISH PLUS HU PLUS ASH;4KAK;4KASKAL;4KID;5PLUS LAL;4KU3 PLUS AN;4LA;4ME PLUS EN;4MI;4NUN",
    ";5OVER NUN"],
   [";4PA;4SAL;4SAR;4SHE;5PLUS TUR;4SHID;4SUM;4TAK4;4U;4UD;5PLUS DU;3OVER GA2;2GABA",
    ";3CROSSING GABA;2GAD;3OVER GAD GAR OVER GAR;2GAL;3GAD OVER GAD GAR OVER GAR;2GALAM;2GAM;2GAN",
    ";2GAN2;3TENU;3OVER GAN2;3CROSSING GAN2;2GAR;2GAR3;2GASHAN;2GESHTIN;3TIMES KUR;2GI;3TIMES E",
    ";4U;3CROSSING GI;2GI4;3OVER GI4;3CROSSING GI4;2GIDIM;2GIR2;3GUNU;2GIR3;3TIMES A PLUS IGI",
    ";4GAN2 TENU;4IGI;4LU PLUS IGI;4PA;2GISAL;2GISH;3CROSSING GISH;3TIMES BAD;4TAK4;3TENU;2GU",
    ";3CROSSING GU;2GU2;3TIMES KAK;5TIMES IGI GUNU;4NUN;4SAL PLUS TUG2;3GUNU;2GUD",
    ";3TIMES A PLUS KUR;4KUR;3OVER GUD LUGAL;2GUL;2GUM;3TIMES SHE;2GUR;2GUR7;2GURUN;2GURUSH;2HA",
    ";3TENU;3GUNU;2HAL;2HI;3TIMES ASH;4ASH2;4BAD;4DISH;4GAD;4KIN;4NUN;4SHE;4U;2HU;2HUB2;3TIMES AN",
    ";4HAL;4KASKAL;4LISH;4UD;2HUL2;2I;3A;2IB;2IDIM;3OVER IDIM BUR;5SQUARED;2IG;2IGI;3DIB;3RI",
    ";3OVER IGI SHIR OVER SHIR UD OVER UD;3GUNU;2IL;3TIMES GAN2 TENU;2IL2;2IM;3TIMES TAK4",
    ";3CROSSING IM;3OPPOSING IM;3SQUARED;2IMIN;2IN;2IR;2ISH;2KA;3TIMES A;4AD;5PLUS KU3;4ASH2;4BAD",
    ";4BALAG;4BAR;4BI;4ERIN2;4ESH2;4GA;4GAL;4GAN2 TENU;4GAR;5PLUS SHA3 PLUS A;4GI;4GIR2",
    ";4GISH PLUS SAR;5CROSSING GISH;4GU;4GUR7;4IGI;4IM;4KAK;4KI;4KID;4LI;4LU;4ME;5PLUS DU;6GI;6TE",
    ";4MI;5PLUS NUNUZ;4NE;4NUN;4PI;4RU;4SA;4SAR;4SHA;4SHE;4SHID;4SHU;4SIG;4SUHUR;4TAR;4U;4U2;4UD",
    ";4UMUM TIMES PA;4USH;4ZI;2KA2;3CROSSING KA2;2KAB;2KAD2;2KAD3;2KAD4;2KAD5;3OVER KAD5;2KAK",
    ";3TIMES IGI GUNU;2KAL;3TIMES BAD;3CROSSING KAL;2KAM2;2KAM4;2KASKAL",
    ";3LAGAB TIMES U OVER LAGAB TIMES U;3OVER KASKAL LAGAB TIMES U OVER LAGAB TIMES U;2KESH2;2KI",
    ";3TIMES BAD;4U;4UD;2KID;2KIN;2KISAL;2KISH;2KISIM5;3OVER KISIM5;2KU",
    ";3OVER HI TIMES ASH2 KU OVER HI TIMES ASH2;2KU3;2KU4;3VARIANT FORM;2KU7;2KUL;3GUNU;2KUN;2KUR",
    ";3OPPOSING KUR;2KUSHU2;2KWU318;2LA;2LAGAB;3TIMES A;5PLUS DA PLUS HA;6GAR;6LAL;4AL;4AN",
    ";4ASH ZIDA TENU;4BAD;4BI;4DAR;4EN;4GA;4GAR;4GUD;5PLUS GUD;4HA;4HAL;4HI TIMES NUN;4IGI GUNU",
    ";4IM;5PLUS HA;6LU;4KI;4KIN;4KU3;4KUL;5PLUS HI PLUS A;4LAGAB;4LISH;4LU;4LUL;4ME;5PLUS EN",
    ";4MUSH;4NE;4SHE PLUS SUM;4SHITA PLUS GISH PLUS ERIN2;7TENU;4SHU2;5PLUS SHU2;4SUM;4TAG;4TAK4",
    ";4TE PLUS A PLUS SU PLUS NA;4U;5PLUS A;6U PLUS U;4U2 PLUS ASH;4UD;4USH;3SQUARED;2LAGAR",
    ";3TIMES SHE;5PLUS SUM;3GUNU;4OVER LAGAR GUNU SHE;2LAHSHU;2LAL;3TIMES LAL;2LAM;3TIMES KUR",
    ";5PLUS RU;2LI;2LIL;2LIMMU2;2LISH;2LU;3TIMES BAD;2LU2;3TIMES AL;4BAD;4ESH2;5TENU;4GAN2 TENU",
    ";4HI TIMES BAD;4IM;4KAD2;4KAD3;5PLUS ASH;4KI;4LA PLUS ASH;4LAGAB;4ME PLUS EN;4NE;4NU",
    ";4SI PLUS ASH;4SIK2 PLUS BU;4TUG2;3TENU;3CROSSING LU2;3OPPOSING LU2;3SQUARED;3SHESHIG;2LU3",
    ";2LUGAL;3OVER LUGAL;3OPPOSING LUGAL;3SHESHIG;2LUH;2LUL;2LUM;3OVER LUM;5GAR OVER GAR;2MA",
    ";3TIMES TAK4;3GUNU;2MA2;2MAH;2MAR;2MASH;2MASH2;2ME;2MES;2MI;2MIN;2MU;3OVER MU;2MUG;3GUNU",
    ";2MUNSUB;2MURGU2;2MUSH;3TIMES A;4KUR;4ZA;3OVER MUSH;5TIMES A PLUS NA;3CROSSING MUSH;2MUSH3",
    ";3TIMES A;5PLUS DI;4DI;3GUNU;2NA;2NA2;2NAGA;3INVERTED;3TIMES SHU TENU;3OPPOSING NAGA;2NAGAR",
    ";2NAM NUTILLU;2NAM;2NAM2;2NE;3TIMES A;4UD;3SHESHIG;2NI;3TIMES E;2NI2;2NIM;3TIMES GAN2 TENU",
    ";4GAR PLUS GAN2 TENU;2NINDA2;3TIMES AN;4ASH;5PLUS ASH;4GUD;4ME PLUS GAN2 TENU;4NE;4NUN;4SHE",
    ";5PLUS A AN;6ASH;7PLUS ASH;4U2 PLUS ASH;4USH;2NISAG;2NU;2NU11;2NUN;3LAGAR TIMES GAR;5MASH",
    ";5SAL;6OVER NUN LAGAR TIMES SAL;5USH;3TENU;3OVER NUN;3CROSSING NUN;5LAGAR OVER LAGAR;2NUNUZ",
    ";3AB2 TIMES ASHGAB;5BI;5DUG;5GUD;5IGI GUNU;5KAD3;5LA;5NE;5SILA3;5U2;3KISIM5 TIMES BI;6U;2PA",
    ";2PAD;2PAN;2PAP;2PESH2;2PI;3TIMES A;4AB;4BI;4BU;4E;4I;4IB;4U;4U2;3CROSSING PI;2PIRIG",
    ";3TIMES KAL;4UD;4ZA;3OPPOSING PIRIG;2RA;2RAB;2RI;2RU;2SA;2SAG NUTILLU;2SAG;3TIMES A;4DU;4DUB",
    ";4HA;4KAK;4KUR;4LUM;4MI;4NUN;4SAL;4SHID;4TAB;4U2;4UB;4UM;4UR;4USH;3OVER SAG;3GUNU;2SAL",
    ";3LAGAB TIMES ASH2;2SANGA2;2SAR;2SHA;2SHA3;3TIMES A;4BAD;4GISH;4NE;4SHU2;4TUR;4U;5PLUS A",
    ";2SHA6;2SHAB6;2SHAR2;2SHE;3HU;3OVER SHE GAD OVER GAD GAR OVER GAR;5TAB OVER TAB GAR OVER GAR",
    ";2SHEG9;2SHEN;2SHESH;2SHESH2;2SHESHLAM;2SHID;3TIMES A;4IM;2SHIM;3TIMES A;4BAL;4BULUG;4DIN",
    ";4GAR;4IGI;5GUNU;4KUSHU2;4LUL;4MUG;4SAL;2SHINIG;2SHIR;3TENU;3OVER SHIR BUR OVER BUR;2SHITA",
    ";2SHU;3OVER INVERTED SHU;2SHU2;2SHUBUR;2SI;3GUNU;2SIG;2SIG4;3OVER SIG4 SHU2;2SIK2;2SILA3;2SU",
    ";3OVER SU;2SUD;2SUD2;2SUHUR;2SUM;2SUMASH;2SUR;2SUR9;2TA;3ASTERISK;3TIMES HI;4MI;3GUNU;2TAB",
    ";3OVER TAB NI OVER NI DISH OVER DISH;3SQUARED;2TAG;3TIMES BI;4GUD;4SHE;4SHU;4TUG2;4UD;2TAK4",
    ";2TAR;2TE;3GUNU;2TI;3TENU;2TIL;2TIR;3TIMES TAK4;3OVER TIR;5GAD OVER GAD GAR OVER GAR;2TU",
    ";2TUG2;2TUK;2TUM;2TUR;3OVER TUR ZA OVER ZA;2U;3GUD;3U U;3OVER U PA OVER PA GAR OVER GAR",
    ";5SUR OVER SUR;5U REVERSED OVER U REVERSED;2U2;2UB;2UD;3KUSHU2;3TIMES BAD;4MI",
    ";4U PLUS U PLUS U;9GUNU;3GUNU;3SHESHIG;4TIMES BAD;2UDUG;2UM;3TIMES LAGAB;4ME PLUS DA;4SHA3",
    ";4U;2UMBIN;2UMUM;3TIMES KASKAL;4PA;2UN;3GUNU;2UR;3CROSSING UR;3SHESHIG;2UR2;3TIMES A PLUS HA",
    ";6NA;4AL;4HA;4NUN;4U2;5PLUS ASH;6BI;2UR4;2URI;2URI3;2URU;3TIMES A;4ASHGAB;4BAR;4DUN;4GA;4GAL",
    ";4GAN2 TENU;4GAR;4GU;4HA;4IGI;4IM;4ISH;4KI;4LUM;4MIN;4PA;4SHE;4SIG4;4TU;4U PLUS GUD;4UD",
    ";4URUDA;2URUDA;3TIMES U;2USH;3TIMES A;4KU;4KUR;4TAK4;2USHX;2USH2;2USHUMX;2UTUKI;2UZ3",
    ";3TIMES KASKAL;2UZU;2ZA;3TENU;3SQUARED TIMES KUR;2ZAG;2ZAMX;2ZE2;2ZI;3OVER ZI;2ZI3;2ZIB",
    ";3KABA TENU;2ZIG;2ZIZ2;2ZU;2ZU5;3TIMES A;2ZUBUR;2ZUM;2KAP ELAMITE;2AB TIMES NUN;2AB2 TIMES A",
    ";2AMAR TIMES KUG;2DAG KISIM5 TIMES U2 PLUS MASH;2DAG3;2DISH PLUS SHU;2DUB TIMES SHE",
    ";2EZEN TIMES GUD;4SHE;2GA2 TIMES AN PLUS KAK PLUS A;4ASH2;2GE22;2GIG;2HUSH;2KA TIMES ANSHE",
    ";4ASH3;4GISH;4GUD;4HI TIMES ASH2;4LUM;4PA;4SHUL;4TU;4UR2;2LAGAB TIMES GI",
    ";2LU2 SHESHIG TIMES BAD"],
   [";3TIMES ESH2 PLUS LAL;4SHU;2MESH;2MUSH3 TIMES ZA;2NA4;2NIN;2NIN9;2NINDA2 TIMES BAL;4GI",
    ";2NU11 ROTATED NINETY DEGREES;2PESH2 ASTERISK;2PIR2;2SAG TIMES IGI GUNU;2TI2;2UM TIMES ME",
    ";2U U;@12400;1NUMERIC SIGN TWO ASH;3THREE ASH;3FOUR ASH;3FIVE ASH;3SIX ASH;3SEVEN ASH",
    ";3EIGHT ASH;3NINE ASH;3THREE DISH;3FOUR DISH;3FIVE DISH;3SIX DISH;3SEVEN DISH;3EIGHT DISH",
    ";3NINE DISH;3FOUR U;3FIVE U;3SIX U;3SEVEN U;3EIGHT U;3NINE U;3ONE GESH2;3TWO GESH2",
    ";3THREE GESH2;3FOUR GESH2;3FIVE GESH2;3SIX GESH2;3SEVEN GESH2;3EIGHT GESH2;3NINE GESH2",
    ";3ONE GESHU;3TWO GESHU;3THREE GESHU;3FOUR GESHU;3FIVE GESHU;3TWO SHAR2;3THREE SHAR2",
    ";5VARIANT FORM;3FOUR SHAR2;3FIVE SHAR2;3SIX SHAR2;3SEVEN SHAR2;3EIGHT SHAR2;3NINE SHAR2",
    ";3ONE SHARU;3TWO SHARU;3THREE SHARU;5VARIANT FORM;3FOUR SHARU;3FIVE SHARU",
    ";3SHAR2 TIMES GAL PLUS DISH;7MIN;3ONE BURU;3TWO BURU;3THREE BURU;5VARIANT FORM;3FOUR BURU",
    ";3FIVE BURU;3THREE VARIANT FORM ESH16;6ESH21;3FOUR VARIANT FORM LIMMU;6LIMMU4;6LIMMU A;7B",
    ";3SIX VARIANT FORM ASH9;3SEVEN VARIANT FORM IMIN3;6IMIN A;7B;3EIGHT VARIANT FORM USSU;6USSU3",
    ";3NINE VARIANT FORM ILIMMU;6ILIMMU3;6ILIMMU4;6ILIMMU A;3TWO ASH TENU;3THREE ASH TENU",
    ";3FOUR ASH TENU;3FIVE ASH TENU;3SIX ASH TENU;3ONE BAN2;3TWO BAN2;3THREE BAN2;3FOUR BAN2",
    ";5VARIANT FORM;3FIVE BAN2;5VARIANT FORM;3NIGIDAMIN;3NIGIDAESH;3ONE ESHE3;3TWO ESHE3",
    ";3ONE THIRD DISH;3TWO THIRDS DISH;3FIVE SIXTHS DISH;3ONE THIRD VARIANT FORM A",
    ";3TWO THIRDS VARIANT FORM A;3ONE EIGHTH ASH;4QUARTER ASH;3OLD ASSYRIAN ONE SIXTH;6QUARTER",
    ";3ONE QUARTER GUR;4HALF GUR;3ELAMITE ONE THIRD;4TWO THIRDS;4FORTY;4FIFTY",
    ";3FOUR U VARIANT FORM;3FIVE U VARIANT FORM;3SIX U VARIANT FORM;3SEVEN U VARIANT FORM",
    ";3EIGHT U VARIANT FORM;3NINE U VARIANT FORM;@12470",
    ";1PUNCTUATION SIGN OLD ASSYRIAN WORD DIVIDER;3VERTICAL COLON;3DIAGONAL COLON;4TRICOLON",
    ";4QUADCOLON;@12480;1SIGN AB TIMES NUN TENU;4SHU2;2AD TIMES ESH2;2BAD TIMES DISH TENU",
    ";2BAHAR2 TIMES AB2;4NI;4ZA;2BU OVER BU TIMES NA2;2DA TIMES TAK4;2DAG TIMES KUR",
    ";2DIM TIMES IGI;4U U U;2DIM2 TIMES UD;2DUG TIMES ANSHE;4ASH;5AT LEFT;4DIN;4DUN;4ERIN2;4GA",
    ";4GI;4GIR2 GUNU;4GISH;4HA;4HI;4IGI GUNU;4KASKAL;4KUR;4KUSHU2;5PLUS KASKAL;4LAK-020;4LAM",
    ";5TIMES KUR;4LUH PLUS GISH;4MASH;4MES;4MI;4NI;4PI;4SHE;4SI GUNU;2E2 TIMES KUR;4PAP;2ERIN2 X",
    ";2ESH2 CROSSING ESH2;2EZEN SHESHIG TIMES ASH;5HI;5IGI GUNU;5LA;5LAL;5ME;5MES;5SU;3TIMES SU",
    ";2GA2 TIMES BAHAR2;4DIM GUNU;4DUG TIMES IGI GUNU;6KASKAL;4EREN;4GA;4GAR PLUS DI;6NE",
    ";4HA PLUS A;4KUSHU2 PLUS KASKAL;4LAM;5TIMES KUR;4LUH;4MUSH;4NE;5PLUS E2;6GI;4SHIM;4ZIZ2",
    ";2GABA ROTATED NINETY DEGREES;2GESHTIN TIMES U;2GISH TIMES GISH CROSSING GISH",
    ";2GU2 TIMES IGI GUNU;2GUD PLUS GISH TIMES TAK4;2HA TENU GUNU;2HI TIMES ASH OVER HI TIMES ASH",
    ";2KA TIMES BU;4KA;4U U U;4UR;2LAGAB TIMES ZU OVER ZU;2LAK-003;2LAK-021;2LAK-025;2LAK-030",
    ";2LAK-050;2LAK-051;2LAK-062;2LAK-079 OVER LAK-079 GUNU;2LAK-080;2LAK-081 OVER LAK-081",
    ";2LAK-092;2LAK-130;2LAK-142;2LAK-210;2LAK-219;2LAK-220;2LAK-225;2LAK-228;2LAK-238;2LAK-265",
    ";2LAK-266;2LAK-343;2LAK-347;2LAK-348;2LAK-383;2LAK-384;2LAK-390;2LAK-441;2LAK-449;3TIMES GU",
    ";4IGI;4PAP PLUS LU3;6PAP PLUS LU3;4U2 PLUS BA;2LAK-450;2LAK-457;2LAK-470;2LAK-483;2LAK-490",
    ";2LAK-492;2LAK-493;2LAK-495;2LAK-550;2LAK-608;2LAK-617;3TIMES ASH;4BAD;4DUN3 GUNU GUNU;4KU3",
    ";4LA;4TAR;4TE;4U2;4UD;4URUDA;2LAK-636;2LAK-648;3TIMES DUB;4GA;4IGI;5GUNU;4NI",
    ";4PAP PLUS PAP PLUS LU3;4SHESH PLUS KI;4UD;4URUDA;2LAK-724;2LAK-749;2LU2 GUNU TIMES ASH",
    ";3TIMES DISH;4HAL;4PAP;5PLUS PAP PLUS LU3;4TAK4;2MI PLUS ZA7;2MUSH OVER MUSH TIMES GA;6KAK",
    ";2NINDA2 TIMES DIM GUNU;4GISH;4GUL;4HI;4KESH2;4LAK-050;4MASH;4PAP PLUS PAP;4U;5PLUS U;4URUDA",
    ";2SAG GUNU TIMES HA;3TIMES EN;4SHE AT LEFT;4TAK4;2SHA6 TENU;2SHE OVER SHE;3PLUS HUB2;4NAM2",
    ";4SAR;2SHU2 PLUS DUG TIMES NI;4E2 TIMES AN;2SI TIMES TAK4;2TAK4 PLUS SAG",
    ";2TUM TIMES GAN2 TENU;4THREE DISH;2UR2 INVERTED;3TIMES UD;2URU TIMES DARA3;4LAK-668;4LU3",
    ";2ZA7;2ZU OVER ZU PLUS SAR;2ZU5 TIMES THREE DISH TENU"],
   [";@12F90;0CYPRO-MINOAN SIGN CM001;2CM002;2CM004;2CM005;2CM006;2CM007;2CM008;2CM009;2CM010",
    ";2CM011;2CM012;2CM012B;2CM013;2CM015;2CM017;2CM019;2CM021;2CM023;2CM024;2CM025;2CM026;2CM027",
    ";2CM028;2CM029;2CM030;2CM033;2CM034;2CM035;2CM036;2CM037;2CM038;2CM039;2CM040;2CM041;2CM044",
    ";2CM046;2CM047;2CM049;2CM050;2CM051;2CM052;2CM053;2CM054;2CM055;2CM056;2CM058;2CM059;2CM060",
    ";2CM061;2CM062;2CM063;2CM064;2CM066;2CM067;2CM068;2CM069;2CM070;2CM071;2CM072;2CM073;2CM074",
    ";2CM075;2CM075B;2CM076;2CM078;2CM079;2CM080;2CM081;2CM082;2CM083;2CM084;2CM085;2CM086;2CM087",
    ";2CM088;2CM089;2CM090;2CM091;2CM092;2CM094;2CM095;2CM096;2CM097;2CM098;2CM099;2CM100;2CM101",
    ";2CM102;2CM103;2CM104;2CM105;2CM107;2CM108;2CM109;2CM110;2CM112;2CM114;2CM301;2CM302;@13000",
    ";0EGYPTIAN HIEROGLYPH A001;2A002;2A003;2A004;2A005;2A005A;2A006;2A006A;2A006B;2A007;2A008",
    ";2A009;2A010;2A011;2A012;2A013;2A014;2A014A;2A015;2A016;2A017;2A017A;2A018;2A019;2A020;2A021",
    ";2A022;2A023;2A024;2A025;2A026;2A027;2A028;2A029;2A030;2A031;2A032;2A032A;2A033;2A034;2A035",
    ";2A036;2A037;2A038;2A039;2A040;2A040A;2A041;2A042;2A042A;2A043;2A043A;2A044;2A045;2A045A",
    ";2A046;2A047;2A048;2A049;2A050;2A051;2A052;2A053;2A054;2A055;2A056;2A057;2A058;2A059;2A060",
    ";2A061;2A062;2A063;2A064;2A065;2A066;2A067;2A068;2A069;2A070;2B001;2B002;2B003;2B004;2B005",
    ";2B005A;2B006;2B007;2B008;2B009;2C001;2C002;2C002A;2C002B;2C002C;2C003;2C004;2C005;2C006",
    ";2C007;2C008;2C009;2C010;2C010A;2C011;2C012;2C013;2C014;2C015;2C016;2C017;2C018;2C019;2C020",
    ";2C021;2C022;2C023;2C024;2D001;2D002;2D003;2D004;2D005;2D006;2D007;2D008;2D008A;2D009;2D010",
    ";2D011;2D012;2D013;2D014;2D015;2D016;2D017;2D018;2D019;2D020;2D021;2D022;2D023;2D024;2D025",
    ";2D026;2D027;2D027A;2D028;2D029;2D030;2D031;2D031A;2D032;2D033;2D034;2D034A;2D035;2D036",
    ";2D037;2D038;2D039;2D040;2D041;2D042;2D043;2D044;2D045;2D046;2D046A;2D047;2D048;2D048A;2D049",
    ";2D050;2D050A;2D050B;2D050C;2D050D;2D050E;2D050F;2D050G;2D050H;2D050I;2D051;2D052;2D052A",
    ";2D053;2D054;2D054A;2D055;2D056;2D057;2D058;2D059;2D060;2D061;2D062;2D063;2D064;2D065;2D066",
    ";2D067;2D067A;2D067B;2D067C;2D067D;2D067E;2D067F;2D067G;2D067H;2E001;2E002;2E003;2E004;2E005",
    ";2E006;2E007;2E008;2E008A;2E009;2E009A;2E010;2E011;2E012;2E013;2E014;2E015;2E016;2E016A",
    ";2E017;2E017A;2E018;2E019;2E020;2E020A;2E021;2E022;2E023;2E024;2E025;2E026;2E027;2E028",
    ";2E028A;2E029;2E030;2E031;2E032;2E033;2E034;2E034A;2E036;2E037;2E038;2F001;2F001A;2F002",
    ";2F003;2F004;2F005;2F006;2F007;2F008;2F009;2F010;2F011;2F012;2F013;2F013A;2F014;2F015;2F016",
    ";2F017;2F018;2F019;2F020;2F021;2F021A;2F022;2F023;2F024;2F025;2F026;2F027;2F028;2F029;2F030",
    ";2F031;2F031A;2F032;2F033;2F034;2F035;2F036;2F037;2F037A;2F038;2F038A;2F039;2F040;2F041",
    ";2F042;2F043;2F044;2F045;2F045A;2F046;2F046A;2F047;2F047A;2F048;2F049;2F050;2F051;2F051A",
    ";2F051B;2F051C;2F052;2F053;2G001;2G002;2G003;2G004;2G005;2G006;2G006A;2G007;2G007A;2G007B",
    ";2G008;2G009;2G010;2G011;2G011A;2G012;2G013;2G014;2G015;2G016;2G017;2G018;2G019;2G020;2G020A",
    ";2G021;2G022;2G023;2G024;2G025;2G026;2G026A;2G027;2G028;2G029;2G030;2G031;2G032;2G033;2G034",
    ";2G035;2G036;2G036A;2G037;2G037A;2G038;2G039;2G040;2G041;2G042;2G043;2G043A;2G044;2G045",
    ";2G045A;2G046;2G047;2G048;2G049;2G050;2G051;2G052;2G053;2G054;2H001;2H002;2H003;2H004;2H005",
    ";2H006;2H006A;2H007;2H008;2I001;2I002;2I003;2I004;2I005;2I005A;2I006;2I007;2I008;2I009",
    ";2I009A;2I010;2I010A;2I011;2I011A;2I012;2I013;2I014;2I015;2K001;2K002;2K003;2K004;2K005",
    ";2K006;2K007;2K008;2L001;2L002;2L002A;2L003;2L004;2L005;2L006;2L006A;2L007;2L008;2M001",
    ";2M001A;2M001B;2M002;2M003;2M003A;2M004;2M005;2M006;2M007;2M008;2M009;2M010;2M010A;2M011",
    ";2M012;2M012A;2M012B;2M012C;2M012D;2M012E;2M012F;2M012G;2M012H;2M013;2M014;2M015;2M015A",
    ";2M016;2M016A;2M017;2M017A;2M018;2M019;2M020;2M021;2M022;2M022A;2M023;2M024;2M024A;2M025",
    ";2M026;2M027;2M028;2M028A;2M029;2M030;2M031;2M031A;2M032;2M033;2M033A;2M033B;2M034;2M035",
    ";2M036;2M037;2M038;2M039;2M040;2M040A;2M041;2M042;2M043;2M044;2N001;2N002;2N003;2N004;2N005",
    ";2N006;2N007;2N008;2N009;2N010;2N011;2N012;2N013;2N014;2N015;2N016;2N017;2N018;2N018A;2N018B",
    ";2N019;2N020;2N021;2N022;2N023;2N024;2N025;2N025A;2N026;2N027;2N028;2N029;2N030;2N031;2N032",
    ";2N033;2N033A;2N034;2N034A;2N035;2N035A;2N036;2N037;2N037A;2N038;2N039;2N040;2N041;2N042",
    ";2NL001;2NL002;2NL003;2NL004;2NL005;2NL005A;2NL006;2NL007;2NL008;2NL009;2NL010;2NL011;2NL012",
    ";2NL013;2NL014;2NL015;2NL016;2NL017;2NL017A;2NL018;2NL019;2NL020;2NU001;2NU002;2NU003;2NU004",
    ";2NU005;2NU006;2NU007;2NU008;2NU009;2NU010;2NU010A;2NU011;2NU011A;2NU012;2NU013;2NU014",
    ";2NU015;2NU016;2NU017;2NU018;2NU018A;2NU019;2NU020;2NU021;2NU022;2NU022A;2O001;2O001A;2O002",
    ";2O003;2O004;2O005;2O005A;2O006;2O006A;2O006B;2O006C;2O006D;2O006E;2O006F;2O007;2O008;2O009",
    ";2O010;2O010A;2O010B;2O010C;2O011;2O012;2O013;2O014;2O015;2O016;2O017;2O018;2O019;2O019A",
    ";2O020;2O020A;2O021;2O022;2O023;2O024;2O024A;2O025;2O025A;2O026;2O027;2O028;2O029;2O029A",
    ";2O030;2O030A;2O031;2O032;2O033;2O033A;2O034;2O035;2O036;2O036A;2O036B;2O036C;2O036D;2O037",
    ";2O038;2O039;2O040;2O041;2O042;2O043;2O044;2O045;2O046;2O047;2O048;2O049;2O050;2O050A;2O050B",
    ";2O051;2P001;2P001A;2P002;2P003;2P003A;2P004;2P005;2P006;2P007;2P008;2P009;2P010;2P011;2Q001",
    ";2Q002;2Q003;2Q004;2Q005;2Q006;2Q007;2R001;2R002;2R002A;2R003;2R003A;2R003B;2R004;2R005",
    ";2R006;2R007;2R008;2R009;2R010;2R010A;2R011;2R012;2R013;2R014;2R015;2R016;2R016A;2R017;2R018",
    ";2R019;2R020;2R021;2R022;2R023;2R024;2R025;2R026;2R027;2R028;2R029;2S001;2S002;2S002A;2S003",
    ";2S004;2S005;2S006;2S006A;2S007;2S008;2S009;2S010;2S011;2S012;2S013;2S014;2S014A;2S014B",
    ";2S015"],
   [";2S016;2S017;2S017A;2S018;2S019;2S020;2S021;2S022;2S023;2S024;2S025;2S026;2S026A;2S026B",
    ";2S027;2S028;2S029;2S030;2S031;2S032;2S033;2S034;2S035;2S035A;2S036;2S037;2S038;2S039;2S040",
    ";2S041;2S042;2S043;2S044;2S045;2S046;2T001;2T002;2T003;2T003A;2T004;2T005;2T006;2T007;2T007A",
    ";2T008;2T008A;2T009;2T009A;2T010;2T011;2T011A;2T012;2T013;2T014;2T015;2T016;2T016A;2T017",
    ";2T018;2T019;2T020;2T021;2T022;2T023;2T024;2T025;2T026;2T027;2T028;2T029;2T030;2T031;2T032",
    ";2T032A;2T033;2T033A;2T034;2T035;2T036;2U001;2U002;2U003;2U004;2U005;2U006;2U006A;2U006B",
    ";2U007;2U008;2U009;2U010;2U011;2U012;2U013;2U014;2U015;2U016;2U017;2U018;2U019;2U020;2U021",
    ";2U022;2U023;2U023A;2U024;2U025;2U026;2U027;2U028;2U029;2U029A;2U030;2U031;2U032;2U032A",
    ";2U033;2U034;2U035;2U036;2U037;2U038;2U039;2U040;2U041;2U042;2V001;2V001A;2V001B;2V001C",
    ";2V001D;2V001E;2V001F;2V001G;2V001H;2V001I;2V002;2V002A;2V003;2V004;2V005;2V006;2V007;2V007A",
    ";2V007B;2V008;2V009;2V010;2V011;2V011A;2V011B;2V011C;2V012;2V012A;2V012B;2V013;2V014;2V015",
    ";2V016;2V017;2V018;2V019;2V020;2V020A;2V020B;2V020C;2V020D;2V020E;2V020F;2V020G;2V020H",
    ";2V020I;2V020J;2V020K;2V020L;2V021;2V022;2V023;2V023A;2V024;2V025;2V026;2V027;2V028;2V028A",
    ";2V029;2V029A;2V030;2V030A;2V031;2V031A;2V032;2V033;2V033A;2V034;2V035;2V036;2V037;2V037A",
    ";2V038;2V039;2V040;2V040A;2W001;2W002;2W003;2W003A;2W004;2W005;2W006;2W007;2W008;2W009",
    ";2W009A;2W010;2W010A;2W011;2W012;2W013;2W014;2W014A;2W015;2W016;2W017;2W017A;2W018;2W018A",
    ";2W019;2W020;2W021;2W022;2W023;2W024;2W024A;2W025;2X001;2X002;2X003;2X004;2X004A;2X004B",
    ";2X005;2X006;2X006A;2X007;2X008;2X008A;2Y001;2Y001A;2Y002;2Y003;2Y004;2Y005;2Y006;2Y007",
    ";2Y008;2Z001;2Z002;2Z002A;2Z002B;2Z002C;2Z002D;2Z003;2Z003A;2Z003B;2Z004;2Z004A;2Z005;2Z005A",
    ";2Z006;2Z007;2Z008;2Z009;2Z010;2Z011;2Z012;2Z013;2Z014;2Z015;2Z015A;2Z015B;2Z015C;2Z015D",
    ";2Z015E;2Z015F;2Z015G;2Z015H;2Z015I;2Z016;2Z016A;2Z016B;2Z016C;2Z016D;2Z016E;2Z016F;2Z016G",
    ";2Z016H;2AA001;2AA002;2AA003;2AA004;2AA005;2AA006;2AA007;2AA007A;2AA007B;2AA008;2AA009",
    ";2AA010;2AA011;2AA012;2AA013;2AA014;2AA015;2AA016;2AA017;2AA018;2AA019;2AA020;2AA021;2AA022",
    ";2AA023;2AA024;2AA025;2AA026;2AA027;2AA028;2AA029;2AA030;2AA031;2AA032;@13430",
    ";2VERTICAL JOINER;2HORIZONTAL JOINER;2INSERT AT TOP START;4BOTTOM START;4TOP END;4BOTTOM END",
    ";2OVERLAY MIDDLE;2BEGIN SEGMENT;2END SEGMENT;@14400;0ANATOLIAN HIEROGLYPH A001;2A002;2A003",
    ";2A004;2A005;2A006;2A007;2A008;2A009;2A010;2A010A;2A011;2A012;2A013;2A014;2A015;2A016;2A017",
    ";2A018;2A019;2A020;2A021;2A022;2A023;2A024;2A025;2A026;2A026A;2A027;2A028;2A029;2A030;2A031",
    ";2A032;2A033;2A034;2A035;2A036;2A037;2A038;2A039;2A039A;2A040;2A041;2A041A;2A042;2A043;2A044",
    ";2A045;2A045A;2A046;2A046A;2A046B;2A047;2A048;2A049;2A050;2A051;2A052;2A053;2A054;2A055",
    ";2A056;2A057;2A058;2A059;2A060;2A061;2A062;2A063;2A064;2A065;2A066;2A066A;2A066B;2A066C",
    ";2A067;2A068;2A069;2A070;2A071;2A072;2A073;2A074;2A075;2A076;2A077;2A078;2A079;2A080;2A081",
    ";2A082;2A083;2A084;2A085;2A086;2A087;2A088;2A089;2A090;2A091;2A092;2A093;2A094;2A095;2A096",
    ";2A097;2A097A;2A098;2A098A;2A099;2A100;2A100A;2A101;2A101A;2A102;2A102A;2A103;2A104;2A104A",
    ";2A104B;2A104C;2A105;2A105A;2A105B;2A106;2A107;2A107A;2A107B;2A107C;2A108;2A109;2A110;2A110A",
    ";2A110B;2A111;2A112;2A113;2A114;2A115;2A115A;2A116;2A117;2A118;2A119;2A120;2A121;2A122;2A123",
    ";2A124;2A125;2A125A;2A126;2A127;2A128;2A129;2A130;2A131;2A132;2A133;2A134;2A135;2A135A;2A136",
    ";2A137;2A138;2A139;2A140;2A141;2A142;2A143;2A144;2A145;2A146;2A147;2A148;2A149;2A150;2A151",
    ";2A152;2A153;2A154;2A155;2A156;2A157;2A158;2A159;2A160;2A161;2A162;2A163;2A164;2A165;2A166",
    ";2A167;2A168;2A169;2A170;2A171;2A172;2A173;2A174;2A175;2A176;2A177;2A178;2A179;2A180;2A181",
    ";2A182;2A183;2A184;2A185;2A186;2A187;2A188;2A189;2A190;2A191;2A192;2A193;2A194;2A195;2A196",
    ";2A197;2A198;2A199;2A200;2A201;2A202;2A202A;2A202B;2A203;2A204;2A205;2A206;2A207;2A207A",
    ";2A208;2A209;2A209A;2A210;2A211;2A212;2A213;2A214;2A215;2A215A;2A216;2A216A;2A217;2A218",
    ";2A219;2A220;2A221;2A222;2A223;2A224;2A225;2A226;2A227;2A227A;2A228;2A229;2A230;2A231;2A232",
    ";2A233;2A234;2A235;2A236;2A237;2A238;2A239;2A240;2A241;2A242;2A243;2A244;2A245;2A246;2A247",
    ";2A248;2A249;2A250;2A251;2A252;2A253;2A254;2A255;2A256;2A257;2A258;2A259;2A260;2A261;2A262",
    ";2A263;2A264;2A265;2A266;2A267;2A267A;2A268;2A269;2A270;2A271;2A272;2A273;2A274;2A275;2A276",
    ";2A277;2A278;2A279;2A280;2A281;2A282;2A283;2A284;2A285;2A286;2A287;2A288;2A289;2A289A;2A290",
    ";2A291;2A292;2A293;2A294;2A294A;2A295;2A296;2A297;2A298;2A299;2A299A;2A300;2A301;2A302;2A303",
    ";2A304;2A305;2A306;2A307;2A308;2A309;2A309A;2A310;2A311;2A312;2A313;2A314;2A315;2A316;2A317",
    ";2A318;2A319;2A320;2A321;2A322;2A323;2A324;2A325;2A326;2A327;2A328;2A329;2A329A;2A330;2A331",
    ";2A332A;2A332B;2A332C;2A333;2A334;2A335;2A336;2A336A;2A336B;2A336C;2A337;2A338;2A339;2A340",
    ";2A341;2A342;2A343;2A344;2A345;2A346;2A347;2A348;2A349;2A350;2A351;2A352;2A353;2A354;2A355",
    ";2A356;2A357;2A358;2A359;2A359A;2A360;2A361;2A362;2A363;2A364;2A364A;2A365;2A366;2A367;2A368",
    ";2A368A;2A369;2A370;2A371;2A371A;2A372;2A373;2A374;2A375;2A376;2A377;2A378;2A379;2A380;2A381",
    ";2A381A;2A382;2A383 RA OR RI;2A383A;2A384;2A385;2A386;2A386A;2A387;2A388;2A389;2A390;2A391",
    ";2A392;2A393 EIGHT;2A394;2A395;2A396;2A397;2A398;2A399;2A400;2A401;2A402;2A403;2A404;2A405",
    ";2A406;2A407;2A408;2A409;2A410 BEGIN LOGOGRAM MARK;2A410A END LOGOGRAM MARK;2A411;2A412",
    ";2A413;2A414;2A415;2A416;2A417;2A418;2A419;2A420;2A421;2A422;2A423;2A424;2A425;2A426;2A427",
    ";2A428;2A429;2A430;2A431;2A432;2A433;2A434;2A435;2A436;2A437;2A438;2A439;2A440;2A441;2A442",
    ";2A443"],
   [";2A444;2A445;2A446;2A447;2A448;2A449;2A450;2A450A;2A451;2A452;2A453;2A454;2A455;2A456;2A457",
    ";2A457A;2A458;2A459;2A460;2A461;2A462;2A463;2A464;2A465;2A466;2A467;2A468;2A469;2A470;2A471",
    ";2A472;2A473;2A474;2A475;2A476;2A477;2A478;2A479;2A480;2A481;2A482;2A483;2A484;2A485;2A486",
    ";2A487;2A488;2A489;2A490;2A491;2A492;2A493;2A494;2A495;2A496;2A497;2A501;2A502;2A503;2A504",
    ";2A505;2A506;2A507;2A508;2A509;2A510;2A511;2A512;2A513;2A514;2A515;2A516;2A517;2A518;2A519",
    ";2A520;2A521;2A522;2A523;2A524;2A525;2A526;2A527;2A528;2A529;2A530;@16800",
    ";0BAMUM LETTER PHASE-A NGKUE MFON;3GBIEE FON;3PON MFON PIPAEMGBIEE;5PIPAEMBA;3NAA MFON",
    ";3SHUENSHUET;3TITA MFON;3NZA MFON;3SHINDA PA NJI;3PON PA NJI PIPAEMGBIEE;6PIPAEMBA",
    ";3MAEMBGBIEE;3TU MAEMBA;3NGANGU;3MAEMVEUX;3MANSUAE;3MVEUAENGAM;3SEUNYAM;3NTOQPEN;3KEUKEUTNDA",
    ";3NKINDI;3SUU;3NGKUENZEUM;3LAPAQ;3LET KUT;3NTAP MFAA;3MAEKEUP;3PASHAE;3GHEUAERAE;3PAMSHAE",
    ";3MON NGGEUAET;3NZUN MEUT;3U YUQ NAE;3GHEUAEGHEUAE;3NTAP NTAA;3SISA;3MGBASA;3MEUNJOMNDEUQ",
    ";3MOOMPUQ;3KAFA;3PA LEERAEWA;3NDA LEERAEWA;3PET;3MAEMKPEN;3NIKA;3PUP;3TUAEP;3LUAEP;3SONJAM",
    ";3TEUTEUWEN;3MAENYI;3KET;3NDAANGGEUAET;3KUOQ;3MOOMEUT;3SHUM;3LOMMAE;3FIRI;3ROM;3KPOQ;3SOQ",
    ";3MAP PIEET;3SHIRAE;3NTAP;3SHOQ NSHUT YUM;3NYIT MONGKEUAEQ;3PAARAE;3NKAARAE;3UNKNOWN;3NGGEN",
    ";3MAESI;3NJAM;3MBANYI;3NYET;3TEUAEN;3SOT;3PAAM;3NSHIEE;3MAEM;3NYI;3KAQ;3NSHA;3VEE;3LU;3NEN",
    ";3NAQ;3MBAQ;2PHASE-B NSHUET;3TU MAEMGBIEE;3SIEE;3SET TU;3LOM NTEUM;3MBA MAELEE;3KIEEM",
    ";3YEURAE;3MBAARAE;3KAM;3PEESHI;3YAFU LEERAEWA;3LAM NSHUT NYAM;3NTIEE SHEUOQ;3NDU NJAA",
    ";3GHEUGHEUAEM;3PIT;3TU NSIEE;3SHET NJAQ;3SHEUAEQTU;3MFON TEUAEQ;3MBIT MBAAKET;3NYI NTEUM",
    ";3KEUPUQ;3GHEUGHEN;3KEUYEUX;3LAANAE;3PARUM;3VEUM;3NGKINDI MVOP;3NGGEU MBU;3WUAET;3SAKEUAE",
    ";3TAAM;3MEUQ;3NGGUOQ;4LARGE;3MFIYAQ;3SUE;3MBEURI;3MONTIEEN;3NYAEMAE;3PUNGAAM;3MEUT NGGEET",
    ";3FEUX;3MBUOQ;3FEE;3KEUAEM;3MA NJEUAENA;4NJUQA;3LET;3NGGAAM;3NSEN;3MA;3KIQ;3NGOM",
    ";2PHASE-C NGKUE MAEMBA;3NZA;3YUM;3WANGKUOQ;3NGGEN;3NDEUAEREE;3NGKAQ;3GHARAE;3MBEEKEET;3GBAYI",
    ";3NYIR MKPARAQ MEUN;3NTU MBIT;3MBEUM;3PIRIEEN;3NDOMBU;3MBAA CABBAGE-TREE;3KEUSHEUAEP;3GHAP",
    ";3KEUKAQ;3YU MUOMAE;3NZEUM;3MBUE;3NSEUAEN;3MBIT;3YEUQ;3KPARAQ;3KAA;3SEUX;3NDIDA;3TAASHAE",
    ";3NJUEQ;3TITA YUE;3SUAET;3NGGUAEN NYAM;3VEUX;3NANSANAQ;3MA KEUAERI;3NTAA;3NGGUON;3LAP",
    ";3MBIRIEEN;3MGBASAQ;3NTEUNGBA;3TEUTEUX;3NGGUM;3FUE;3NDEUT;3NSA;3NSHAQ;3BUNG;3VEUAEPEN",
    ";3MBERAE;3RU;3NJAEM;3LAM;3TITUAEP;3NSUOT NGOM;3NJEEEE;3KET;3NGGU;3MAESI;3MBUAEM;3LU;3KUT",
    ";3NJAM;3NGOM;3WUP;3NGGUEET;3NSOM;3NTEN;3KUOP NKAARAE;3NSUN;3NDAM;3MA NSIEE;3YAA;3NDAP;3SHUEQ",
    ";3SETFON;3MBI;3MAEMBA;3MBANYI;3KEUSEUX;3MBEUX;3KEUM;3MBAA PICKET;3YUWOQ;3NJEUX;3MIEE;3MUAE",
    ";3SHIQ;3KEN LAW;4FATIGUE;3NGAQ;3NAQ;3LIQ;3PIN;3PEN;3TET;2PHASE-D MBUO;3WAP;3NJI;3MFON;3NJIEE",
    ";3LIEE;3NJEUT;3NSHEE;3NGGAAMAE;3NYAM;3WUAEN;3NGKUN;3SHEE;3NGKAP;3KEUAETMEUN;3TEUT;3SHEUAE",
    ";3NJAP;3SUE;3KET;3YAEMMAE;3KUOM;3SAP;3MFEUT;3NDEUX;3MALEERI;3MEUT;3SEUAEQ;3YEN;3NJEUAEM",
    ";3KEUOT MBUAE;3NGKEURI;3TU;3GHAA;3NGKYEE;3FEUFEUAET;3NDEE;3MGBOFUM;3LEUAEP;3NDON;3MONI",
    ";3MGBEUN;3PUUT;3MGBIEE;3MFO;3LUM;3NSIEEP;3MBAA;3KWAET;3NYET;3TEUAEN;3SOT;3YUWOQ;3KEUM;3RAEM",
    ";3TEEEE;3NGKEUAEQ;3MFEUAE;3NSIEET;3KEUP;3PIP;3PEUTAE;3NYUE;3LET;3NGGAAM;3MFIEE;3NGGWAEN",
    ";3YUOM;3PAP;3YUOP;3NDAM;3NTEUM;3SUAE;3KUN;3NGGEUX;3NGKIEE;3TUOT;3MEUN;3KUQ;3NSUM;3TEUN",
    ";3MAENJET;3NGGAP;3LEUM;3NGGUOM;3NSHUT;3NJUEQ;3GHEUAE;3KU;3REN OLD;3TAE;3TOQ;3NYI;3RII;3LEEEE",
    ";3MEEEE;3M;3SUU;3MU;3SHII;3SHEUX;3KYEE;3NU;3SHU;3NTEE;3PEE;3NI;3SHOQ;3PUQ;3MVOP;3LOQ",
    ";3REN MUCH;3TI;3NTUU;3MBAA SEVEN;3SAQ;3FAA;2PHASE-E NDAP;3TOON;3MBEUM;3LAP;3VOM;3LOON;3PAA",
    ";3SOM;3RAQ;3NSHUOP;3NDUN;3PUAE;3TAM;3NGKA;3KPEUX;3WUO;3SEE;3NGGEUAET;3PAAM;3TOO;3KUOP;3LOM",
    ";3NSHIEE;3NGOP;3MAEM;3NGKEUX;3NGOQ;3NSHUE;3RIMGBA;3NJEUX;3PEEM;3SAA;3NGGURAE;3MGBA;3GHEUX",
    ";3NGKEUAEM;3NJAEMLI;3MAP;3LOOT;3NGGEEEE;3NDIQ;3TAEN NTEUM;3SET;3PUM;3NDAA SOFTNESS",
    ";3NGGUAESHAE NYAM;3YIEE;3GHEUN;3TUAE;3YEUAE;3PO;3TUMAE;3KEUAE;3SUAEN;3TEUAEQ;3VEUAE;3WEUX",
    ";3LAAM;3PU;3TAAQ;3GHAAMAE;3NGEUREUT;3SHEUAEQ;3MGBEN;3MBEE;3NZAQ;3NKOM;3GBET;3TUM;3KUET;3YAP",
    ";3NYI CLEAVER;3YIT;3MFEUQ;3NDIAQ;3PIEEQ;3YUEQ;3LEUAEM;3FUE;3GBEUX;3NGKUP;3KET;3MAE;3NGKAAMI",
    ";3GHET;3FA;3NTUM;3PEUT;3YEUM;3NGGEUAE;3NYI BETWEEN;3NZUQ;3POON;3MIEE;3FUET;3NAE;3MUAE",
    ";3GHEUAE;3FU I;3MVI;3PUAQ;3NGKUM;3KUT;3PIET;3NTAP;3YEUAET;3NGGUP;3PA PEOPLE;3FU CALL;3FOM",
    ";3NJEE;3A;3TOQ;3O;3I;3LAQ;3PA PLURAL;3TAA;3TAQ;3NDAA MY HOUSE;3SHIQ;3YEUX;3NGUAE;3YUAEN",
    ";3YOQ SWIMMING;4COVER;3YUQ;3YUN;3KEUX;3PEUX;3NJEE EPOCH;3PUE;3WUE;3FEE;3VEE;3LU;3MI;3REUX",
    ";3RAE;3NGUAET;3NGA;3SHO;3SHOQ;3FU REMEDY;3NA;3PI;3LOQ;3KO;3MEN;3MA;3MAQ;3TEU;3KI;3MON;3TEN",
    ";3FAQ;3GHOM;2PHASE-F KA;3U;3KU;3EE;3REE;3TAE;3NYI;3LA;3RII;3RIEE;3MEEEE;3TAA;3NDAA;3NJAEM;3M",
    ";3SUU;3SHII;3SI;3SEUX;3KYEE;3KET;3NUAE;3NU;3NJUAE;3YOQ;3SHU;3YA;3NSHA;3PEUX;3NTEE;3WUE;3PEE",
    ";3RU;3NI;3REUX;3KEN;3NGKWAEN;3NGGA;3SHO;3PUAE;3FOM;3WA;3LI;3LOQ;3KO;3MBEN;3REN;3MA;3MO;3MBAA",
    ";3TET;3KPA;3SAMBA;3VUEQ"],
   [";@16A40;0MRO LETTER TA;2NGI;2YO;2MIM;2BA;2DA;2A;2PHI;2KHAI;2HAO;2DAI;2CHU;2KEAAE;2OL;2MAEM",
    ";2NIN;2PA;2OO;2O;2RO;2SHI;2THEA;2EA;2WA;2E;2KO;2LAN;2LA;2HAI;2RI;2TEK;@16A60;1DIGIT ZERO",
    ";2ONE;2TWO;2THREE;2FOUR;2FIVE;2SIX;2SEVEN;2EIGHT;2NINE;@16A6E;1DANDA;1DOUBLE DANDA",
    ";0TANGSA LETTER OZ;2OC;2OQ;2OX;2AZ;2AC;2AQ;2AX;2VZ;2VC;2VQ;2VX;2EZ;2EC;2EQ;2EX;2IZ;2IC;2IQ",
    ";2IX;2UZ;2UC;2UQ;2UX;2AWZ;2AWC;2AWQ;2AWX;2UIZ;2UIC;2UIQ;2UIX;2FINAL NG;2LONG UEX;2SHORT UEZ",
    ";3AWX;2UEC;2UEZ;2UEQ;2UEX;2UIUZ;2UIUC;2UIUQ;2UIUX;2MZ;2MC;2MQ;2MX;2KA;2KHA;2GA;2NGA;2SA;2YA",
    ";2WA;2PA;2NYA;2PHA;2BA;2MA;2NA;2HA;2LA;2HTA;2TA;2DA;2RA;2NHA;2SHA;2CA;2TSA;2GHA;2HTTA;2THA",
    ";2XA;2FA;2DHA;2CHA;2ZA;@16AC0;1DIGIT ZERO;2ONE;2TWO;2THREE;2FOUR;2FIVE;2SIX;2SEVEN;2EIGHT",
    ";2NINE;@16AD0;0BASSA VAH LETTER ENNI;3KA;3SE;3FA;3MBE;3YIE;3GAH;3DHII;3KPAH;3JO;3HWAH;3WA",
    ";3ZO;3GBU;3DO;3CE;3UWU;3TO;3BA;3VU;3YEIN;3PA;3WADDA;3A;3O;3OO;3U;3EE;3E;3I;@16AF0",
    ";2COMBINING HIGH TONE;3LOW TONE;3MID TONE;3LOW-MID TONE;3HIGH-LOW TONE;2FULL STOP;@16B00",
    ";0PAHAWH HMONG VOWEL KEEB;3KEEV;3KIB;3KIV;3KAUB;3KAUV;3KUB;3KUV;3KEB;3KEV;3KAIB;3KAIV;3KOOB",
    ";3KOOV;3KAWB;3KAWV;3KUAB;3KUAV;3KOB;3KOV;3KIAB;3KIAV;3KAB;3KAV;3KWB;3KWV;3KAAB;3KAAV",
    ";2CONSONANT VAU;3NTSAU;3LAU;3HAU;3NLAU;3RAU;3NKAU;3QHAU;3YAU;3HLAU;3MAU;3CHAU;3NCHAU;3HNAU",
    ";3PLHAU;3NTHAU;3NAU;3AU;3XAU;3CAU;2MARK CIM TUB;4SO;4KES;4KHAV;4SUAM;4HOM;4TAUM",
    ";2SIGN VOS THOM;4TSHAB CEEB;3CIM CHEEM;3VOS THIAB;4FEEM;3XYEEM NTXIV;4RHO;4TOV;4FAIB",
    ";3VOS SEEV;3MEEJ SUAB;3VOS NRUA;3IB YAM;3XAUS;3CIM TSOV ROG;@16B50;2DIGIT ZERO;3ONE;3TWO",
    ";3THREE;3FOUR;3FIVE;3SIX;3SEVEN;3EIGHT;3NINE;@16B5B;2NUMBER TENS;3HUNDREDS;3TEN THOUSANDS",
    ";3MILLIONS;3HUNDRED MILLIONS;3TEN BILLIONS;3TRILLIONS;@16B63;2SIGN VOS LUB;3XYOO;3HLI",
    ";3THIRD-STAGE HLI;3ZWJ THAJ;3HNUB;3NQIG;3XIAB;3NTUJ;3AV;3TXHEEJ CEEV;3MEEJ TSEEB;3TAU;3LOS",
    ";3MUS;3CIM HAIS LUS NTOG NTOG;4CUAM TSHOOJ;4TXWV;5CHWV;4PUB DAWB;4NRES TOS;@16B7D",
    ";2CLAN SIGN TSHEEJ;4YEEG;4LIS;4LAUJ;4XYOOJ;4KOO;4HAWJ;4MUAS;4THOJ;4TSAB;4PHAB;4KHAB;4HAM",
    ";4VAJ;4FAJ;4YAJ;4TSWB;4KWM;4VWJ;@16E40;0MEDEFAIDRIN CAPITAL LETTER M;3S;3V;3W;3ATIU;3Z;3KP",
    ";3P;3T;3G;3F;3I;3K;3A;3J;3E;3B;3C;3U;3YU;3L;3Q;3HP;3NY;3X;3D;3OE;3N;3R;3O;3AI;3Y",
    ";1SMALL LETTER M;3S;3V;3W;3ATIU;3Z;3KP;3P;3T;3G;3F;3I;3K;3A;3J;3E;3B;3C;3U;3YU;3L;3Q;3HP;3NY",
    ";3X;3D;3OE;3N;3R;3O;3AI;3Y;1DIGIT ZERO;2ONE;2TWO;2THREE;2FOUR;2FIVE;2SIX;2SEVEN;2EIGHT;2NINE",
    ";1NUMBER TEN;2ELEVEN;2TWELVE;2THIRTEEN;2FOURTEEN;2FIFTEEN;2SIXTEEN;2SEVENTEEN;2EIGHTEEN",
    ";2NINETEEN;1DIGIT ONE ALTERNATE FORM;2TWO ALTERNATE FORM;2THREE ALTERNATE FORM;1COMMA",
    ";1FULL STOP;1SYMBOL AIVA;1EXCLAMATION OH;@16F00;0MIAO LETTER PA;2BA;2YI PA;2PLA;2MA;2MHA",
    ";2ARCHAIC MA;2FA;2VA;2VFA;2TA;2DA;2YI TTA;3TA;2TTA;2DDA;2NA;2NHA;2YI NNA;2ARCHAIC NA;2NNA",
    ";2NNHA;2LA;2LYA;2LHA;2LHYA;2TLHA;2DLHA;2TLHYA;2DLHYA;2KA;2GA;2YI KA;2QA;2QGA;2NGA;2NGHA",
    ";2ARCHAIC NGA;2HA;2XA;2GHA;2GHHA;2TSSA;2DZZA;2NYA;2NYHA;2TSHA;2DZHA;2YI TSHA;3DZHA",
    ";2REFORMED TSHA;2SHA;2SSA;2ZHA;2ZSHA;2TSA;2DZA;2YI TSA;2SA;2ZA;2ZSA;2ZZA;2ZZSA;2ARCHAIC ZZA",
    ";2ZZYA;2ZZSYA;2WA;2AH;2HHA;2BRI;2SYI;2DZYI;2TE;2TSE;2RTE;@16F4F;1SIGN CONSONANT MODIFIER BAR",
    ";1LETTER NASALIZATION;1SIGN ASPIRATION;2REFORMED VOICING;3ASPIRATION;1VOWEL SIGN A;3AA;3AHH",
    ";3AN;3ANG;3O;3OO;3WO;3W;3E;3EN;3ENG;3OEY;3I;3IA;3IAN;3IANG;3IO;3IE;3II;3IU;3ING;3U;3UA;3UAN",
    ";3UANG;3UU;3UEI;3UNG;3Y;3YI;3AE;3AEE;3ERR;3ROUNDED ERR;3ER;3ROUNDED ER;3AI;3EI;3AU;3OU;3N",
    ";3NG;3UOG;3YUI;3OG;3OER;3VW;3IG;3EA;3IONG;3UI;@16F8F;1TONE RIGHT;2TOP RIGHT;2ABOVE;2BELOW",
    ";1LETTER TONE-2;2TONE-3;2TONE-4;2TONE-5;2TONE-6;2TONE-7;2TONE-8;2REFORMED TONE-1;3TONE-2",
    ";3TONE-4;3TONE-5;3TONE-6;3TONE-8;@16FE0;0TANGUT ITERATION MARK;0NUSHU ITERATION MARK",
    ";0OLD CHINESE HOOK MARK;2ITERATION MARK;0KHITAN SMALL SCRIPT FILLER"],
   [";@16FF0;0VIETNAMESE ALTERNATE READING MARK CA;4NHAY;@18800;0TANGUT COMPONENT-001",
    ";1COMPONENT-002;1COMPONENT-003;1COMPONENT-004;1COMPONENT-005;1COMPONENT-006;1COMPONENT-007",
    ";1COMPONENT-008;1COMPONENT-009;1COMPONENT-010;1COMPONENT-011;1COMPONENT-012;1COMPONENT-013",
    ";1COMPONENT-014;1COMPONENT-015;1COMPONENT-016;1COMPONENT-017;1COMPONENT-018;1COMPONENT-019",
    ";1COMPONENT-020;1COMPONENT-021;1COMPONENT-022;1COMPONENT-023;1COMPONENT-024;1COMPONENT-025",
    ";1COMPONENT-026;1COMPONENT-027;1COMPONENT-028;1COMPONENT-029;1COMPONENT-030;1COMPONENT-031",
    ";1COMPONENT-032;1COMPONENT-033;1COMPONENT-034;1COMPONENT-035;1COMPONENT-036;1COMPONENT-037",
    ";1COMPONENT-038;1COMPONENT-039;1COMPONENT-040;1COMPONENT-041;1COMPONENT-042;1COMPONENT-043",
    ";1COMPONENT-044;1COMPONENT-045;1COMPONENT-046;1COMPONENT-047;1COMPONENT-048;1COMPONENT-049",
    ";1COMPONENT-050;1COMPONENT-051;1COMPONENT-052;1COMPONENT-053;1COMPONENT-054;1COMPONENT-055",
    ";1COMPONENT-056;1COMPONENT-057;1COMPONENT-058;1COMPONENT-059;1COMPONENT-060;1COMPONENT-061",
    ";1COMPONENT-062;1COMPONENT-063;1COMPONENT-064;1COMPONENT-065;1COMPONENT-066;1COMPONENT-067",
    ";1COMPONENT-068;1COMPONENT-069;1COMPONENT-070;1COMPONENT-071;1COMPONENT-072;1COMPONENT-073",
    ";1COMPONENT-074;1COMPONENT-075;1COMPONENT-076;1COMPONENT-077;1COMPONENT-078;1COMPONENT-079",
    ";1COMPONENT-080;1COMPONENT-081;1COMPONENT-082;1COMPONENT-083;1COMPONENT-084;1COMPONENT-085",
    ";1COMPONENT-086;1COMPONENT-087;1COMPONENT-088;1COMPONENT-089;1COMPONENT-090;1COMPONENT-091",
    ";1COMPONENT-092;1COMPONENT-093;1COMPONENT-094;1COMPONENT-095;1COMPONENT-096;1COMPONENT-097",
    ";1COMPONENT-098;1COMPONENT-099;1COMPONENT-100;1COMPONENT-101;1COMPONENT-102;1COMPONENT-103",
    ";1COMPONENT-104;1COMPONENT-105;1COMPONENT-106;1COMPONENT-107;1COMPONENT-108;1COMPONENT-109",
    ";1COMPONENT-110;1COMPONENT-111;1COMPONENT-112;1COMPONENT-113;1COMPONENT-114;1COMPONENT-115",
    ";1COMPONENT-116;1COMPONENT-117;1COMPONENT-118;1COMPONENT-119;1COMPONENT-120;1COMPONENT-121",
    ";1COMPONENT-122;1COMPONENT-123;1COMPONENT-124;1COMPONENT-125;1COMPONENT-126;1COMPONENT-127",
    ";1COMPONENT-128;1COMPONENT-129;1COMPONENT-130;1COMPONENT-131;1COMPONENT-132;1COMPONENT-133",
    ";1COMPONENT-134;1COMPONENT-135;1COMPONENT-136;1COMPONENT-137;1COMPONENT-138;1COMPONENT-139",
    ";1COMPONENT-140;1COMPONENT-141;1COMPONENT-142;1COMPONENT-143;1COMPONENT-144;1COMPONENT-145",
    ";1COMPONENT-146;1COMPONENT-147;1COMPONENT-148;1COMPONENT-149;1COMPONENT-150;1COMPONENT-151",
    ";1COMPONENT-152;1COMPONENT-153;1COMPONENT-154;1COMPONENT-155;1COMPONENT-156;1COMPONENT-157",
    ";1COMPONENT-158;1COMPONENT-159;1COMPONENT-160;1COMPONENT-161;1COMPONENT-162;1COMPONENT-163",
    ";1COMPONENT-164;1COMPONENT-165;1COMPONENT-166;1COMPONENT-167;1COMPONENT-168;1COMPONENT-169",
    ";1COMPONENT-170;1COMPONENT-171;1COMPONENT-172;1COMPONENT-173;1COMPONENT-174;1COMPONENT-175",
    ";1COMPONENT-176;1COMPONENT-177;1COMPONENT-178;1COMPONENT-179;1COMPONENT-180;1COMPONENT-181",
    ";1COMPONENT-182;1COMPONENT-183;1COMPONENT-184;1COMPONENT-185;1COMPONENT-186;1COMPONENT-187",
    ";1COMPONENT-188;1COMPONENT-189;1COMPONENT-190;1COMPONENT-191;1COMPONENT-192;1COMPONENT-193",
    ";1COMPONENT-194;1COMPONENT-195;1COMPONENT-196;1COMPONENT-197;1COMPONENT-198;1COMPONENT-199",
    ";1COMPONENT-200;1COMPONENT-201;1COMPONENT-202;1COMPONENT-203;1COMPONENT-204;1COMPONENT-205",
    ";1COMPONENT-206;1COMPONENT-207;1COMPONENT-208;1COMPONENT-209;1COMPONENT-210;1COMPONENT-211",
    ";1COMPONENT-212;1COMPONENT-213;1COMPONENT-214;1COMPONENT-215;1COMPONENT-216;1COMPONENT-217",
    ";1COMPONENT-218;1COMPONENT-219;1COMPONENT-220;1COMPONENT-221;1COMPONENT-222;1COMPONENT-223",
    ";1COMPONENT-224;1COMPONENT-225;1COMPONENT-226;1COMPONENT-227;1COMPONENT-228;1COMPONENT-229",
    ";1COMPONENT-230;1COMPONENT-231;1COMPONENT-232;1COMPONENT-233;1COMPONENT-234;1COMPONENT-235",
    ";1COMPONENT-236;1COMPONENT-237;1COMPONENT-238;1COMPONENT-239;1COMPONENT-240;1COMPONENT-241",
    ";1COMPONENT-242;1COMPONENT-243;1COMPONENT-244;1COMPONENT-245;1COMPONENT-246;1COMPONENT-247",
    ";1COMPONENT-248;1COMPONENT-249;1COMPONENT-250;1COMPONENT-251;1COMPONENT-252;1COMPONENT-253",
    ";1COMPONENT-254;1COMPONENT-255;1COMPONENT-256;1COMPONENT-257;1COMPONENT-258;1COMPONENT-259",
    ";1COMPONENT-260;1COMPONENT-261;1COMPONENT-262;1COMPONENT-263;1COMPONENT-264;1COMPONENT-265",
    ";1COMPONENT-266;1COMPONENT-267;1COMPONENT-268;1COMPONENT-269;1COMPONENT-270;1COMPONENT-271",
    ";1COMPONENT-272;1COMPONENT-273;1COMPONENT-274;1COMPONENT-275;1COMPONENT-276;1COMPONENT-277",
    ";1COMPONENT-278;1COMPONENT-279;1COMPONENT-280;1COMPONENT-281;1COMPONENT-282;1COMPONENT-283",
    ";1COMPONENT-284;1COMPONENT-285;1COMPONENT-286;1COMPONENT-287;1COMPONENT-288;1COMPONENT-289",
    ";1COMPONENT-290;1COMPONENT-291;1COMPONENT-292;1COMPONENT-293;1COMPONENT-294;1COMPONENT-295",
    ";1COMPONENT-296;1COMPONENT-297;1COMPONENT-298;1COMPONENT-299;1COMPONENT-300;1COMPONENT-301",
    ";1COMPONENT-302;1COMPONENT-303;1COMPONENT-304;1COMPONENT-305;1COMPONENT-306;1COMPONENT-307",
    ";1COMPONENT-308;1COMPONENT-309;1COMPONENT-310;1COMPONENT-311;1COMPONENT-312;1COMPONENT-313",
    ";1COMPONENT-314;1COMPONENT-315;1COMPONENT-316;1COMPONENT-317;1COMPONENT-318;1COMPONENT-319",
    ";1COMPONENT-320;1COMPONENT-321;1COMPONENT-322;1COMPONENT-323;1COMPONENT-324;1COMPONENT-325",
    ";1COMPONENT-326;1COMPONENT-327;1COMPONENT-328;1COMPONENT-329;1COMPONENT-330;1COMPONENT-331",
    ";1COMPONENT-332;1COMPONENT-333;1COMPONENT-334;1COMPONENT-335;1COMPONENT-336;1COMPONENT-337",
    ";1COMPONENT-338;1COMPONENT-339;1COMPONENT-340;1COMPONENT-341;1COMPONENT-342;1COMPONENT-343",
    ";1COMPONENT-344;1COMPONENT-345;1COMPONENT-346;1COMPONENT-347;1COMPONENT-348;1COMPONENT-349",
    ";1COMPONENT-350;1COMPONENT-351;1COMPONENT-352;1COMPONENT-353;1COMPONENT-354;1COMPONENT-355",
    ";1COMPONENT-356"],
   [";1COMPONENT-357;1COMPONENT-358;1COMPONENT-359;1COMPONENT-360;1COMPONENT-361;1COMPONENT-362",
    ";1COMPONENT-363;1COMPONENT-364;1COMPONENT-365;1COMPONENT-366;1COMPONENT-367;1COMPONENT-368",
    ";1COMPONENT-369;1COMPONENT-370;1COMPONENT-371;1COMPONENT-372;1COMPONENT-373;1COMPONENT-374",
    ";1COMPONENT-375;1COMPONENT-376;1COMPONENT-377;1COMPONENT-378;1COMPONENT-379;1COMPONENT-380",
    ";1COMPONENT-381;1COMPONENT-382;1COMPONENT-383;1COMPONENT-384;1COMPONENT-385;1COMPONENT-386",
    ";1COMPONENT-387;1COMPONENT-388;1COMPONENT-389;1COMPONENT-390;1COMPONENT-391;1COMPONENT-392",
    ";1COMPONENT-393;1COMPONENT-394;1COMPONENT-395;1COMPONENT-396;1COMPONENT-397;1COMPONENT-398",
    ";1COMPONENT-399;1COMPONENT-400;1COMPONENT-401;1COMPONENT-402;1COMPONENT-403;1COMPONENT-404",
    ";1COMPONENT-405;1COMPONENT-406;1COMPONENT-407;1COMPONENT-408;1COMPONENT-409;1COMPONENT-410",
    ";1COMPONENT-411;1COMPONENT-412;1COMPONENT-413;1COMPONENT-414;1COMPONENT-415;1COMPONENT-416",
    ";1COMPONENT-417;1COMPONENT-418;1COMPONENT-419;1COMPONENT-420;1COMPONENT-421;1COMPONENT-422",
    ";1COMPONENT-423;1COMPONENT-424;1COMPONENT-425;1COMPONENT-426;1COMPONENT-427;1COMPONENT-428",
    ";1COMPONENT-429;1COMPONENT-430;1COMPONENT-431;1COMPONENT-432;1COMPONENT-433;1COMPONENT-434",
    ";1COMPONENT-435;1COMPONENT-436;1COMPONENT-437;1COMPONENT-438;1COMPONENT-439;1COMPONENT-440",
    ";1COMPONENT-441;1COMPONENT-442;1COMPONENT-443;1COMPONENT-444;1COMPONENT-445;1COMPONENT-446",
    ";1COMPONENT-447;1COMPONENT-448;1COMPONENT-449;1COMPONENT-450;1COMPONENT-451;1COMPONENT-452",
    ";1COMPONENT-453;1COMPONENT-454;1COMPONENT-455;1COMPONENT-456;1COMPONENT-457;1COMPONENT-458",
    ";1COMPONENT-459;1COMPONENT-460;1COMPONENT-461;1COMPONENT-462;1COMPONENT-463;1COMPONENT-464",
    ";1COMPONENT-465;1COMPONENT-466;1COMPONENT-467;1COMPONENT-468;1COMPONENT-469;1COMPONENT-470",
    ";1COMPONENT-471;1COMPONENT-472;1COMPONENT-473;1COMPONENT-474;1COMPONENT-475;1COMPONENT-476",
    ";1COMPONENT-477;1COMPONENT-478;1COMPONENT-479;1COMPONENT-480;1COMPONENT-481;1COMPONENT-482",
    ";1COMPONENT-483;1COMPONENT-484;1COMPONENT-485;1COMPONENT-486;1COMPONENT-487;1COMPONENT-488",
    ";1COMPONENT-489;1COMPONENT-490;1COMPONENT-491;1COMPONENT-492;1COMPONENT-493;1COMPONENT-494",
    ";1COMPONENT-495;1COMPONENT-496;1COMPONENT-497;1COMPONENT-498;1COMPONENT-499;1COMPONENT-500",
    ";1COMPONENT-501;1COMPONENT-502;1COMPONENT-503;1COMPONENT-504;1COMPONENT-505;1COMPONENT-506",
    ";1COMPONENT-507;1COMPONENT-508;1COMPONENT-509;1COMPONENT-510;1COMPONENT-511;1COMPONENT-512",
    ";1COMPONENT-513;1COMPONENT-514;1COMPONENT-515;1COMPONENT-516;1COMPONENT-517;1COMPONENT-518",
    ";1COMPONENT-519;1COMPONENT-520;1COMPONENT-521;1COMPONENT-522;1COMPONENT-523;1COMPONENT-524",
    ";1COMPONENT-525;1COMPONENT-526;1COMPONENT-527;1COMPONENT-528;1COMPONENT-529;1COMPONENT-530",
    ";1COMPONENT-531;1COMPONENT-532;1COMPONENT-533;1COMPONENT-534;1COMPONENT-535;1COMPONENT-536",
    ";1COMPONENT-537;1COMPONENT-538;1COMPONENT-539;1COMPONENT-540;1COMPONENT-541;1COMPONENT-542",
    ";1COMPONENT-543;1COMPONENT-544;1COMPONENT-545;1COMPONENT-546;1COMPONENT-547;1COMPONENT-548",
    ";1COMPONENT-549;1COMPONENT-550;1COMPONENT-551;1COMPONENT-552;1COMPONENT-553;1COMPONENT-554",
    ";1COMPONENT-555;1COMPONENT-556;1COMPONENT-557;1COMPONENT-558;1COMPONENT-559;1COMPONENT-560",
    ";1COMPONENT-561;1COMPONENT-562;1COMPONENT-563;1COMPONENT-564;1COMPONENT-565;1COMPONENT-566",
    ";1COMPONENT-567;1COMPONENT-568;1COMPONENT-569;1COMPONENT-570;1COMPONENT-571;1COMPONENT-572",
    ";1COMPONENT-573;1COMPONENT-574;1COMPONENT-575;1COMPONENT-576;1COMPONENT-577;1COMPONENT-578",
    ";1COMPONENT-579;1COMPONENT-580;1COMPONENT-581;1COMPONENT-582;1COMPONENT-583;1COMPONENT-584",
    ";1COMPONENT-585;1COMPONENT-586;1COMPONENT-587;1COMPONENT-588;1COMPONENT-589;1COMPONENT-590",
    ";1COMPONENT-591;1COMPONENT-592;1COMPONENT-593;1COMPONENT-594;1COMPONENT-595;1COMPONENT-596",
    ";1COMPONENT-597;1COMPONENT-598;1COMPONENT-599;1COMPONENT-600;1COMPONENT-601;1COMPONENT-602",
    ";1COMPONENT-603;1COMPONENT-604;1COMPONENT-605;1COMPONENT-606;1COMPONENT-607;1COMPONENT-608",
    ";1COMPONENT-609;1COMPONENT-610;1COMPONENT-611;1COMPONENT-612;1COMPONENT-613;1COMPONENT-614",
    ";1COMPONENT-615;1COMPONENT-616;1COMPONENT-617;1COMPONENT-618;1COMPONENT-619;1COMPONENT-620",
    ";1COMPONENT-621;1COMPONENT-622;1COMPONENT-623;1COMPONENT-624;1COMPONENT-625;1COMPONENT-626",
    ";1COMPONENT-627;1COMPONENT-628;1COMPONENT-629;1COMPONENT-630;1COMPONENT-631;1COMPONENT-632",
    ";1COMPONENT-633;1COMPONENT-634;1COMPONENT-635;1COMPONENT-636;1COMPONENT-637;1COMPONENT-638",
    ";1COMPONENT-639;1COMPONENT-640;1COMPONENT-641;1COMPONENT-642;1COMPONENT-643;1COMPONENT-644",
    ";1COMPONENT-645;1COMPONENT-646;1COMPONENT-647;1COMPONENT-648;1COMPONENT-649;1COMPONENT-650",
    ";1COMPONENT-651;1COMPONENT-652;1COMPONENT-653;1COMPONENT-654;1COMPONENT-655;1COMPONENT-656",
    ";1COMPONENT-657;1COMPONENT-658;1COMPONENT-659;1COMPONENT-660;1COMPONENT-661;1COMPONENT-662",
    ";1COMPONENT-663;1COMPONENT-664;1COMPONENT-665;1COMPONENT-666;1COMPONENT-667;1COMPONENT-668",
    ";1COMPONENT-669;1COMPONENT-670;1COMPONENT-671;1COMPONENT-672;1COMPONENT-673;1COMPONENT-674",
    ";1COMPONENT-675;1COMPONENT-676;1COMPONENT-677;1COMPONENT-678;1COMPONENT-679;1COMPONENT-680",
    ";1COMPONENT-681;1COMPONENT-682;1COMPONENT-683;1COMPONENT-684;1COMPONENT-685;1COMPONENT-686",
    ";1COMPONENT-687;1COMPONENT-688;1COMPONENT-689;1COMPONENT-690;1COMPONENT-691;1COMPONENT-692",
    ";1COMPONENT-693;1COMPONENT-694;1COMPONENT-695;1COMPONENT-696;1COMPONENT-697;1COMPONENT-698",
    ";1COMPONENT-699;1COMPONENT-700;1COMPONENT-701;1COMPONENT-702;1COMPONENT-703;1COMPONENT-704",
    ";1COMPONENT-705;1COMPONENT-706;1COMPONENT-707;1COMPONENT-708;1COMPONENT-709;1COMPONENT-710",
    ";1COMPONENT-711;1COMPONENT-712;1COMPONENT-713;1COMPONENT-714;1COMPONENT-715;1COMPONENT-716",
    ";1COMPONENT-717"],
   [";1COMPONENT-718;1COMPONENT-719;1COMPONENT-720;1COMPONENT-721;1COMPONENT-722;1COMPONENT-723",
    ";1COMPONENT-724;1COMPONENT-725;1COMPONENT-726;1COMPONENT-727;1COMPONENT-728;1COMPONENT-729",
    ";1COMPONENT-730;1COMPONENT-731;1COMPONENT-732;1COMPONENT-733;1COMPONENT-734;1COMPONENT-735",
    ";1COMPONENT-736;1COMPONENT-737;1COMPONENT-738;1COMPONENT-739;1COMPONENT-740;1COMPONENT-741",
    ";1COMPONENT-742;1COMPONENT-743;1COMPONENT-744;1COMPONENT-745;1COMPONENT-746;1COMPONENT-747",
    ";1COMPONENT-748;1COMPONENT-749;1COMPONENT-750;1COMPONENT-751;1COMPONENT-752;1COMPONENT-753",
    ";1COMPONENT-754;1COMPONENT-755;1COMPONENT-756;1COMPONENT-757;1COMPONENT-758;1COMPONENT-759",
    ";1COMPONENT-760;1COMPONENT-761;1COMPONENT-762;1COMPONENT-763;1COMPONENT-764;1COMPONENT-765",
    ";1COMPONENT-766;1COMPONENT-767;1COMPONENT-768;@1AFF0;0KATAKANA LETTER MINNAN TONE-2;3TONE-3",
    ";3TONE-4;3TONE-5;@1AFF5;3TONE-7;3TONE-8;3NASALIZED TONE-1;4TONE-2;4TONE-3;4TONE-4;4TONE-5",
    ";@1AFFD;4TONE-7;4TONE-8;@1B000;2ARCHAIC E;0HIRAGANA LETTER ARCHAIC YE;0HENTAIGANA LETTER A-1",
    ";2A-2;2A-3;2A-WO;2I-1;2I-2;2I-3;2I-4;2U-1;2U-2;2U-3;2U-4;2U-5;2E-2;2E-3;2E-4;2E-5;2E-6;2O-1",
    ";2O-2;2O-3;2KA-1;2KA-2;2KA-3;2KA-4;2KA-5;2KA-6;2KA-7;2KA-8;2KA-9;2KA-10;2KA-11;2KA-KE;2KI-1",
    ";2KI-2;2KI-3;2KI-4;2KI-5;2KI-6;2KI-7;2KI-8;2KU-1;2KU-2;2KU-3;2KU-4;2KU-5;2KU-6;2KU-7;2KE-1",
    ";2KE-2;2KE-3;2KE-4;2KE-5;2KE-6;2KO-1;2KO-2;2KO-3;2KO-KI;2SA-1;2SA-2;2SA-3;2SA-4;2SA-5;2SA-6",
    ";2SA-7;2SA-8;2SI-1;2SI-2;2SI-3;2SI-4;2SI-5;2SI-6;2SU-1;2SU-2;2SU-3;2SU-4;2SU-5;2SU-6;2SU-7",
    ";2SU-8;2SE-1;2SE-2;2SE-3;2SE-4;2SE-5;2SO-1;2SO-2;2SO-3;2SO-4;2SO-5;2SO-6;2SO-7;2TA-1;2TA-2",
    ";2TA-3;2TA-4;2TI-1;2TI-2;2TI-3;2TI-4;2TI-5;2TI-6;2TI-7;2TU-1;2TU-2;2TU-3;2TU-4;2TU-TO;2TE-1",
    ";2TE-2;2TE-3;2TE-4;2TE-5;2TE-6;2TE-7;2TE-8;2TE-9;2TO-1;2TO-2;2TO-3;2TO-4;2TO-5;2TO-6;2TO-RA",
    ";2NA-1;2NA-2;2NA-3;2NA-4;2NA-5;2NA-6;2NA-7;2NA-8;2NA-9;2NI-1;2NI-2;2NI-3;2NI-4;2NI-5;2NI-6",
    ";2NI-7;2NI-TE;2NU-1;2NU-2;2NU-3;2NE-1;2NE-2;2NE-3;2NE-4;2NE-5;2NE-6;2NE-KO;2NO-1;2NO-2;2NO-3",
    ";2NO-4;2NO-5;2HA-1;2HA-2;2HA-3;2HA-4;2HA-5;2HA-6;2HA-7;2HA-8;2HA-9;2HA-10;2HA-11;2HI-1;2HI-2",
    ";2HI-3;2HI-4;2HI-5;2HI-6;2HI-7;2HU-1;2HU-2;2HU-3;2HE-1;2HE-2;2HE-3;2HE-4;2HE-5;2HE-6;2HE-7",
    ";2HO-1;2HO-2;2HO-3;2HO-4;2HO-5;2HO-6;2HO-7;2HO-8;2MA-1;2MA-2;2MA-3;2MA-4;2MA-5;2MA-6;2MA-7",
    ";2MI-1;2MI-2;2MI-3;2MI-4;2MI-5;2MI-6;2MI-7;2MU-1;2MU-2;2MU-3;2MU-4;2ME-1;2ME-2;2ME-MA;2MO-1",
    ";2MO-2;2MO-3;2MO-4;2MO-5;2MO-6;2YA-1;2YA-2;2YA-3;2YA-4;2YA-5;2YA-YO;2YU-1;2YU-2;2YU-3;2YU-4",
    ";2YO-1;2YO-2;2YO-3;2YO-4;2YO-5;2YO-6;2RA-1;2RA-2;2RA-3;2RA-4;2RI-1;2RI-2;2RI-3;2RI-4;2RI-5",
    ";2RI-6;2RI-7;2RU-1;2RU-2;2RU-3;2RU-4;2RU-5;2RU-6;2RE-1;2RE-2;2RE-3;2RE-4;2RO-1;2RO-2;2RO-3",
    ";2RO-4;2RO-5;2RO-6;2WA-1;2WA-2;2WA-3;2WA-4;2WA-5;2WI-1;2WI-2;2WI-3;2WI-4;2WI-5;2WE-1;2WE-2",
    ";2WE-3;2WE-4;2WO-1;2WO-2;2WO-3;2WO-4;2WO-5;2WO-6;2WO-7;2N-MU-MO-1;2N-MU-MO-2",
    ";0HIRAGANA LETTER ARCHAIC WU;0KATAKANA LETTER ARCHAIC YI;3YE;3WU;@1B150",
    ";0HIRAGANA LETTER SMALL WI;3WE;3WO;@1B164;0KATAKANA LETTER SMALL WI;3WE;3WO;3N;@1BC00",
    ";0DUPLOYAN LETTER H;2X;2P;2T;2F;2K;2L;2B;2D;2V;2G;2R;2P N;2D S;2F N;2K M;2R S;2TH;2SLOAN DH",
    ";2DH;2KK;2SLOAN J;2HL;2LH;2RH;2M;2N;2J;2S;2M N;2N M;2J M;2S J;2M WITH DOT;2N WITH DOT",
    ";2J WITH DOT;4DOTS INSIDE AND ABOVE;2S WITH DOT;5BELOW;2M S;2N S;2J S;2S S;2M N S;2N M S",
    ";2J M S;2S J S;2J S WITH DOT;3N;4S;2S T;4R;3P;4R;2T S;3R S;2W;2WH;2W R;2S N;3M;2K R S;2G R S",
    ";2S K;4R;2A;2SLOAN OW;2OA;2O;2AOU;2I;2E;2IE;2SHORT I;2UI;2EE;2SLOAN EH;2ROMANIAN I;2SLOAN EE",
    ";2LONG I;2YE;2U;2EU;2XW;2U N;2LONG U;2ROMANIAN U;2UH;2SLOAN U;2OOH;2OW;2OU;2WA;2WO;2WI;2WEI",
    ";2WOW;2NASAL U;3O;3I;3A;2PERNIN AN;3AM;2SLOAN EN;3AN;3ON;2VOCALIC M;@1BC70",
    ";1AFFIX LEFT HORIZONTAL SECANT;2MID HORIZONTAL SECANT;2RIGHT HORIZONTAL SECANT",
    ";2LOW VERTICAL SECANT;2MID VERTICAL SECANT;2HIGH VERTICAL SECANT;2ATTACHED SECANT",
    ";3LEFT-TO-RIGHT SECANT;3TANGENT;3TAIL;3E HOOK;3I HOOK;3TANGENT HOOK"],
   [";@1BC80;2HIGH ACUTE;3TIGHT ACUTE;3GRAVE;3LONG GRAVE;3DOT;3CIRCLE;3LINE;3WAVE;3VERTICAL",
    ";@1BC90;2LOW ACUTE;3TIGHT ACUTE;3GRAVE;3LONG GRAVE;3DOT;3CIRCLE;3LINE;3WAVE;3VERTICAL;3ARROW",
    ";@1BC9C;1SIGN O WITH CROSS;1THICK LETTER SELECTOR;1DOUBLE MARK",
    ";1PUNCTUATION CHINOOK FULL STOP;0SHORTHAND FORMAT LETTER OVERLAP;2CONTINUING OVERLAP",
    ";2DOWN STEP;2UP STEP;@1CF00;0ZNAMENNY COMBINING MARK GORAZDO NIZKO S KRYZHEM ON LEFT",
    ";3NIZKO S KRYZHEM ON LEFT;3TSATA ON LEFT;3GORAZDO NIZKO ON LEFT;3NIZKO ON LEFT",
    ";3SREDNE ON LEFT;3MALO POVYSHE ON LEFT;3POVYSHE ON LEFT;3VYSOKO ON LEFT",
    ";3MALO POVYSHE S KHOKHLOM ON LEFT;3POVYSHE S KHOKHLOM ON LEFT;3VYSOKO S KHOKHLOM ON LEFT",
    ";3GORAZDO NIZKO S KRYZHEM ON RIGHT;3NIZKO S KRYZHEM ON RIGHT;3TSATA ON RIGHT",
    ";3GORAZDO NIZKO ON RIGHT;3NIZKO ON RIGHT;3SREDNE ON RIGHT;3MALO POVYSHE ON RIGHT",
    ";3POVYSHE ON RIGHT;3VYSOKO ON RIGHT;3MALO POVYSHE S KHOKHLOM ON RIGHT",
    ";3POVYSHE S KHOKHLOM ON RIGHT;3VYSOKO S KHOKHLOM ON RIGHT;3TSATA S KRYZHEM",
    ";3MALO POVYSHE S KRYZHEM;3STRANNO MALO POVYSHE;3POVYSHE S KRYZHEM;4STRANNO;3VYSOKO S KRYZHEM",
    ";3MALO POVYSHE STRANNO;3GORAZDO VYSOKO;3ZELO;3ON;3RAVNO;3TIKHAYA;3BORZAYA;3UDARKA;3PODVERTKA",
    ";3LOMKA;3KUPNAYA;3KACHKA;3ZEVOK;3SKOBA;3RAZSEKA;3KRYZH ON LEFT;@1CF30",
    ";2TONAL RANGE MARK MRACHNO;5SVETLO;5TRESVETLO;2MARK ZADERZHKA;3DEMESTVENNY ZADERZHKA",
    ";3OTSECHKA;3PODCHASHIE;4WITH VERTICAL STROKE;3CHASHKA;4POLNAYA;3OBLACHKO;3SOROCHYA NOZHKA",
    ";3TOCHKA;3DVOETOCHIE;2ATTACHING VERTICAL OMET;2MARK CURVED OMET;3KRYZH",
    ";2LOWER TONAL RANGE INDICATOR;1PRIZNAK MODIFIER LEVEL-2;3LEVEL-3;3DIRECTION FLIP;3KRYZH;3ROG",
    ";@1CF50;1NEUME KRYUK;3TIKHY;2PARAKLIT;2DVA V CHELNU;2KLYUCH;2ZANOZHEK;2STOPITSA;3S OCHKOM",
    ";2PEREVODKA;3NEPOSTOYANNAYA;2STOPITSA WITH SOROCHYA NOZHKA;2CHELYUSTKA;2PALKA;2ZAPYATAYA",
    ";2GOLUBCHIK BORZY;3TIKHY;3MRACHNY;3SVETLY;3TRESVETLY;2VRAKHIYA PROSTAYA;3MRACHNAYA;3SVETLAYA",
    ";3TRESVETLAYA;3KLYUCHEVAYA PROSTAYA;4MRACHNAYA;4SVETLAYA;4TRESVETLAYA;2DOUBLE ZAPYATAYA",
    ";2REVERSED CHELYUSTKA;2DERBITSA;2KHAMILO;2CHASHKA;2PODCHASHIE;2SKAMEYTSA MRACHNAYA;3SVETLAYA",
    ";3TRESVETLAYA;3TIKHAYA;2DEMESTVENNY KLYUCH;2SKAMEYTSA KLYUCHEVAYA SVETLAYA",
    ";3KLYUCHENEPOSTOYANNAYA;3KLYUCHEVAYA TIKHAYA;3DVOECHELNAYA PROSTAYA;4SVETLAYA",
    ";4NEPOSTOYANNAYA;4KLYUCHEVAYA;2SLOZHITIE;3S ZAPYATOY;3ZAKRYTOE;3S KRYZHEM;2KRYZH;2ROG;2FITA",
    ";2KOBYLA;2ZMEYTSA;2STATYA;3S ZAPYATOY;4KRYZHEM;4ZAPYATOY I KRYZHEM;4KRYZHEM I ZAPYATOY",
    ";3ZAKRYTAYA;4S ZAPYATOY;3S ROGOM;4DVUMYA ZAPYATYMI;4ZAPYATOY I PODCHASHIEM;2POLKULIZMY",
    ";2STATYA NEPOSTOYANNAYA;2STRELA PROSTAYA;3MRACHNOTIKHAYA;3KRYZHEVAYA;3POLUPOVODNAYA",
    ";3POVODNAYA;3NEPOSTOYANNAYA;3KLYUCHEPOVODNAYA;3KLYUCHENEPOSTOYANNAYA;3TIKHAYA PUTNAYA",
    ";3DVOECHELNAYA;3DVOECHELNOKRYZHEVAYA;3DVOECHELNOPOVODNAYA;3DVOECHELNAYA KLYUCHEVAYA",
    ";3DVOECHELNOPOVODNAYA KLYUCHEVAYA;3GROMNAYA WITH SINGLE ZAPYATAYA",
    ";3GROMOPOVODNAYA WITH SINGLE ZAPYATAYA;3GROMNAYA;3GROMOPOVODNAYA;4WITH DOUBLE ZAPYATAYA",
    ";3GROMOKRYZHEVAYA;4POVODNAYA;2MECHIK;3POVODNY;3KLYUCHEVOY;3KLYUCHEPOVODNY",
    ";3KLYUCHENEPOSTOYANNY;2STRELA TRYASOGLASNAYA;3TRYASOPOVODNAYA;3TRYASOSTRELNAYA;2OSOKA",
    ";3SVETLAYA;3TRESVETLAYA;3KRYUKOVAYA SVETLAYA;3KLYUCHEVAYA SVETLAYA;4NEPOSTOYANNAYA",
    ";2STRELA KRYUKOVAYA;4POVODNAYA;4GROMNAYA WITH SINGLE ZAPYATAYA",
    ";4GROMOPOVODNAYA WITH SINGLE ZAPYATAYA;4GROMNAYA;4GROMOPOVODNAYA;5WITH DOUBLE ZAPYATAYA",
    ";4GROMOKRYZHEVAYA;5POVODNAYA;4TRYASKA;2KUFISMA;2OBLAKO;2DUDA;2NEMKA;2PAUK;@1D000",
    ";0BYZANTINE MUSICAL SYMBOL PSILI;3DASEIA;3PERISPOMENI;3OXEIA EKFONITIKON;4DIPLI",
    ";3VAREIA EKFONITIKON;4DIPLI;3KATHISTI;3SYRMATIKI;3PARAKLITIKI;3YPOKRISIS;4DIPLI;3KREMASTI",
    ";3APESO EKFONITIKON;3EXO EKFONITIKON;3TELEIA;3KENTIMATA;3APOSTROFOS;4DIPLI;3SYNEVMA;3THITA",
    ";3OLIGON ARCHAION;3GORGON ARCHAION;3PSILON;3CHAMILON;3VATHY;3ISON ARCHAION;3KENTIMA ARCHAION",
    ";3KENTIMATA ARCHAION;3SAXIMATA;3PARICHON;3STAVROS APODEXIA;3OXEIAI ARCHAION",
    ";3VAREIAI ARCHAION;3APODERMA ARCHAION;3APOTHEMA;3KLASMA;3REVMA;3PIASMA ARCHAION;3TINAGMA",
    ";3ANATRICHISMA;3SEISMA;3SYNAGMA ARCHAION;4META STAVROU;3OYRANISMA ARCHAION;3THEMA;3LEMOI",
    ";3DYO;3TRIA;3TESSERA;3KRATIMATA;3APESO EXO NEO;3FTHORA ARCHAION;3IMIFTHORA",
    ";3TROMIKON ARCHAION;3KATAVA TROMIKON;3PELASTON;3PSIFISTON;3KONTEVMA;3CHOREVMA ARCHAION",
    ";3RAPISMA;3PARAKALESMA ARCHAION;3PARAKLITIKI ARCHAION;3ICHADIN;3NANA;3PETASMA;3KONTEVMA ALLO",
    ";3TROMIKON ALLO;3STRAGGISMATA;3GRONTHISMATA;3ISON NEO;3OLIGON NEO;3OXEIA NEO;3PETASTI",
    ";3KOUFISMA;3PETASTOKOUFISMA;3KRATIMOKOUFISMA;3PELASTON NEO;3KENTIMATA NEO ANO",
    ";3KENTIMA NEO ANO;3YPSILI;3APOSTROFOS NEO;3APOSTROFOI SYNDESMOS NEO;3YPORROI",
    ";3KRATIMOYPORROON;3ELAFRON;3CHAMILI;3MIKRON ISON;3VAREIA NEO;3PIASMA NEO;3PSIFISTON NEO",
    ";3OMALON;3ANTIKENOMA;3LYGISMA;3PARAKLITIKI NEO;3PARAKALESMA NEO;3ETERON PARAKALESMA;3KYLISMA",
    ";3ANTIKENOKYLISMA;3TROMIKON NEO;3EKSTREPTON;3SYNAGMA NEO;3SYRMA;3CHOREVMA NEO;3EPEGERMA",
    ";3SEISMA NEO;3XIRON KLASMA;3TROMIKOPSIFISTON;3PSIFISTOLYGISMA;3TROMIKOLYGISMA",
    ";3TROMIKOPARAKALESMA;3PSIFISTOPARAKALESMA;3TROMIKOSYNAGMA;3PSIFISTOSYNAGMA;3GORGOSYNTHETON",
    ";3ARGOSYNTHETON;3ETERON ARGOSYNTHETON;3OYRANISMA NEO;3THEMATISMOS ESO;4EXO;3THEMA APLOUN",
    ";3THES KAI APOTHES;3KATAVASMA;3ENDOFONON;3YFEN KATO;4ANO;3STAVROS;3KLASMA ANO",
    ";3DIPLI ARCHAION"],
   [";3KRATIMA ARCHAION;4ALLO;4NEO;3APODERMA NEO;3APLI;3DIPLI;3TRIPLI;3TETRAPLI;3KORONIS",
    ";3LEIMMA ENOS CHRONOU;4DYO CHRONON;4TRION CHRONON;4TESSARON CHRONON;4IMISEOS CHRONOU",
    ";3GORGON NEO ANO;4PARESTIGMENON ARISTERA;5DEXIA;3DIGORGON;4PARESTIGMENON ARISTERA KATO;6ANO",
    ";5DEXIA;3TRIGORGON;3ARGON;3IMIDIARGON;3DIARGON;3AGOGI POLI ARGI;4ARGOTERI;4ARGI;4METRIA",
    ";4MESI;4GORGI;4GORGOTERI;4POLI GORGI;3MARTYRIA PROTOS ICHOS;4ALLI PROTOS ICHOS",
    ";4DEYTEROS ICHOS;4ALLI DEYTEROS ICHOS;4TRITOS ICHOS;4TRIFONIAS;4TETARTOS ICHOS",
    ";5LEGETOS ICHOS;4LEGETOS ICHOS;4PLAGIOS ICHOS;3ISAKIA TELOUS ICHIMATOS",
    ";3APOSTROFOI TELOUS ICHIMATOS;3FANEROSIS TETRAFONIAS;4MONOFONIAS;4DIFONIAS",
    ";3MARTYRIA VARYS ICHOS;4PROTOVARYS ICHOS;4PLAGIOS TETARTOS ICHOS;3GORTHMIKON N APLOUN",
    ";5DIPLOUN;3ENARXIS KAI FTHORA VOU;3IMIFONON;3IMIFTHORON;3FTHORA ARCHAION DEYTEROU ICHOU",
    ";4DIATONIKI PA;5NANA;4NAOS ICHOS;4DIATONIKI DI;4SKLIRON DIATONON DI;4DIATONIKI KE;5ZO",
    ";5NI KATO;6ANO;4MALAKON CHROMA DIFONIAS;6MONOFONIAS;3FHTORA SKLIRON CHROMA VASIS",
    ";3FTHORA SKLIRON CHROMA SYNAFI;4NENANO;3CHROA ZYGOS;4KLITON;4SPATHI",
    ";3FTHORA I YFESIS TETARTIMORION;4ENARMONIOS ANTIFONIA;3YFESIS TRITIMORION",
    ";3DIESIS TRITIMORION;4TETARTIMORION;4APLI DYO DODEKATA;4MONOGRAMMOS TESSERA DODEKATA",
    ";4DIGRAMMOS EX DODEKATA;4TRIGRAMMOS OKTO DODEKATA;3YFESIS APLI DYO DODEKATA",
    ";4MONOGRAMMOS TESSERA DODEKATA;4DIGRAMMOS EX DODEKATA;4TRIGRAMMOS OKTO DODEKATA",
    ";3GENIKI DIESIS;4YFESIS;3DIASTOLI APLI MIKRI;5MEGALI;4DIPLI;4THESEOS;3SIMANSIS THESEOS",
    ";5DISIMOU;5TRISIMOU;5TETRASIMOU;4ARSEOS;5DISIMOU;5TRISIMOU;5TETRASIMOU;3DIGRAMMA GG",
    ";3DIFTOGGOS OU;3STIGMA;3ARKTIKO PA;4VOU;4GA;4DI;4KE;4ZO;4NI;3KENTIMATA NEO MESO",
    ";3KENTIMA NEO MESO;3KENTIMATA NEO KATO;3KENTIMA NEO KATO;3KLASMA KATO;3GORGON NEO KATO",
    ";@1D100;0MUSICAL SYMBOL SINGLE BARLINE;2DOUBLE BARLINE;2FINAL BARLINE;2REVERSE FINAL BARLINE",
    ";2DASHED BARLINE;2SHORT BARLINE;2LEFT REPEAT SIGN;2RIGHT REPEAT SIGN;2REPEAT DOTS;2DAL SEGNO",
    ";2DA CAPO;2SEGNO;2CODA;2REPEATED FIGURE-1;3FIGURE-2;3FIGURE-3;2FERMATA;3BELOW;2BREATH MARK",
    ";2CAESURA;2BRACE;2BRACKET;2ONE-LINE STAFF;2TWO-LINE STAFF;2THREE-LINE STAFF;2FOUR-LINE STAFF",
    ";2FIVE-LINE STAFF;2SIX-LINE STAFF;2SIX-STRING FRETBOARD;2FOUR-STRING FRETBOARD;2G CLEF",
    ";4OTTAVA ALTA;5BASSA;2C CLEF;2F CLEF;4OTTAVA ALTA;5BASSA;2DRUM CLEF-1;3CLEF-2;@1D129",
    ";2MULTIPLE MEASURE REST;2DOUBLE SHARP;3FLAT;2FLAT UP;3DOWN;2NATURAL UP;3DOWN;2SHARP UP;3DOWN",
    ";2QUARTER TONE SHARP;4FLAT;2COMMON TIME;2CUT TIME;2OTTAVA ALTA;3BASSA;2QUINDICESIMA ALTA",
    ";3BASSA;2MULTI REST;2WHOLE REST;2HALF REST;2QUARTER REST;2EIGHTH REST;2SIXTEENTH REST",
    ";2THIRTY-SECOND REST;2SIXTY-FOURTH REST;2ONE HUNDRED TWENTY-EIGHTH REST;2X NOTEHEAD",
    ";2PLUS NOTEHEAD;2CIRCLE X NOTEHEAD;2SQUARE NOTEHEAD WHITE;4BLACK;2TRIANGLE NOTEHEAD UP WHITE",
    ";5BLACK;4LEFT WHITE;5BLACK;4RIGHT WHITE;5BLACK;4DOWN WHITE;5BLACK;4UP RIGHT WHITE;6BLACK",
    ";2MOON NOTEHEAD WHITE;4BLACK;2TRIANGLE-ROUND NOTEHEAD DOWN WHITE;5BLACK",
    ";2PARENTHESIS NOTEHEAD;2VOID NOTEHEAD;2NOTEHEAD BLACK;2NULL NOTEHEAD;2CLUSTER NOTEHEAD WHITE",
    ";4BLACK;2BREVE;2WHOLE NOTE;2HALF NOTE;2QUARTER NOTE;2EIGHTH NOTE;2SIXTEENTH NOTE",
    ";2THIRTY-SECOND NOTE;2SIXTY-FOURTH NOTE;2ONE HUNDRED TWENTY-EIGHTH NOTE;2COMBINING STEM",
    ";3SPRECHGESANG STEM;3TREMOLO-1;3TREMOLO-2;3TREMOLO-3;2FINGERED TREMOLO-1;3TREMOLO-2",
    ";3TREMOLO-3;2COMBINING AUGMENTATION DOT;3FLAG-1;3FLAG-2;3FLAG-3;3FLAG-4;3FLAG-5;2BEGIN BEAM",
    ";2END BEAM;2BEGIN TIE;2END TIE;2BEGIN SLUR;2END SLUR;2BEGIN PHRASE;2END PHRASE",
    ";2COMBINING ACCENT;3STACCATO;3TENUTO;3STACCATISSIMO;3MARCATO;3MARCATO-STACCATO",
    ";3ACCENT-STACCATO;3LOURE;2ARPEGGIATO UP;3DOWN;2COMBINING DOIT;3RIP;3FLIP;3SMEAR;3BEND",
    ";3DOUBLE TONGUE;3TRIPLE TONGUE;2RINFORZANDO;2SUBITO;2Z;2PIANO;2MEZZO;2FORTE;2CRESCENDO",
    ";2DECRESCENDO;2GRACE NOTE SLASH;4NO SLASH;2TR;2TURN;2INVERTED TURN;2TURN SLASH;3UP",
    ";2ORNAMENT STROKE-1;3STROKE-2;3STROKE-3;3STROKE-4;3STROKE-5;3STROKE-6;3STROKE-7;3STROKE-8",
    ";3STROKE-9;3STROKE-10;3STROKE-11;2HAUPTSTIMME;2NEBENSTIMME;2END OF STIMME;2DEGREE SLASH",
    ";2COMBINING DOWN BOW;3UP BOW;3HARMONIC;3SNAP PIZZICATO;2PEDAL MARK;3UP MARK;2HALF PEDAL MARK",
    ";2GLISSANDO UP;3DOWN;2WITH FINGERNAILS;2DAMP;3ALL;2MAXIMA;2LONGA;2BREVIS;2SEMIBREVIS WHITE",
    ";3BLACK;2MINIMA;3BLACK;2SEMIMINIMA WHITE;3BLACK;2FUSA WHITE;3BLACK;2LONGA PERFECTA REST",
    ";3IMPERFECTA REST;2BREVIS REST;2SEMIBREVIS REST;2MINIMA REST;2SEMIMINIMA REST",
    ";2TEMPUS PERFECTUM CUM PROLATIONE PERFECTA;6IMPERFECTA;6PERFECTA DIMINUTION-1",
    ";3IMPERFECTUM CUM PROLATIONE PERFECTA;6IMPERFECTA;7DIMINUTION-1;7DIMINUTION-2;7DIMINUTION-3",
    ";2CROIX;2GREGORIAN C CLEF;3F CLEF;2SQUARE B;2VIRGA;2PODATUS;2CLIVIS;2SCANDICUS;2CLIMACUS",
    ";2TORCULUS;2PORRECTUS;3FLEXUS;2SCANDICUS FLEXUS;2TORCULUS RESUPINUS;2PES SUBPUNCTIS",
    ";2KIEVAN C CLEF;3END OF PIECE;3FINAL NOTE;3RECITATIVE MARK;3WHOLE NOTE;3HALF NOTE",
    ";3QUARTER NOTE STEM DOWN;6UP;3EIGHTH NOTE STEM DOWN;6UP;3FLAT SIGN;2SORI;2KORON"],
   [";@1D200;0GREEK VOCAL NOTATION SYMBOL-1;3SYMBOL-2;3SYMBOL-3;3SYMBOL-4;3SYMBOL-5;3SYMBOL-6",
    ";3SYMBOL-7;3SYMBOL-8;3SYMBOL-9;3SYMBOL-10;3SYMBOL-11;3SYMBOL-12;3SYMBOL-13;3SYMBOL-14",
    ";3SYMBOL-15;3SYMBOL-16;3SYMBOL-17;3SYMBOL-18;3SYMBOL-19;3SYMBOL-20;3SYMBOL-21;3SYMBOL-22",
    ";3SYMBOL-23;3SYMBOL-24;3SYMBOL-50;3SYMBOL-51;3SYMBOL-52;3SYMBOL-53;3SYMBOL-54",
    ";1INSTRUMENTAL NOTATION SYMBOL-1;3SYMBOL-2;3SYMBOL-4;3SYMBOL-5;3SYMBOL-7;3SYMBOL-8",
    ";3SYMBOL-11;3SYMBOL-12;3SYMBOL-13;3SYMBOL-14;3SYMBOL-17;3SYMBOL-18;3SYMBOL-19;3SYMBOL-23",
    ";3SYMBOL-24;3SYMBOL-25;3SYMBOL-26;3SYMBOL-27;3SYMBOL-29;3SYMBOL-30;3SYMBOL-32;3SYMBOL-36",
    ";3SYMBOL-37;3SYMBOL-38;3SYMBOL-39;3SYMBOL-40;3SYMBOL-42;3SYMBOL-43;3SYMBOL-45;3SYMBOL-47",
    ";3SYMBOL-48;3SYMBOL-49;3SYMBOL-50;3SYMBOL-51;3SYMBOL-52;3SYMBOL-53;3SYMBOL-54",
    ";0COMBINING GREEK MUSICAL TRISEME;3TETRASEME;3PENTASEME;0GREEK MUSICAL LEIMMA;@1D2E0",
    ";0MAYAN NUMERAL ZERO;2ONE;2TWO;2THREE;2FOUR;2FIVE;2SIX;2SEVEN;2EIGHT;2NINE;2TEN;2ELEVEN",
    ";2TWELVE;2THIRTEEN;2FOURTEEN;2FIFTEEN;2SIXTEEN;2SEVENTEEN;2EIGHTEEN;2NINETEEN;@1D300",
    ";0MONOGRAM FOR EARTH;0DIGRAM FOR HEAVENLY EARTH;2HUMAN EARTH;2EARTHLY HEAVEN;3HUMAN;2EARTH",
    ";0TETRAGRAM FOR CENTRE;2FULL CIRCLE;2MIRED;2BARRIER;2KEEPING SMALL;2CONTRARIETY;2ASCENT",
    ";2OPPOSITION;2BRANCHING OUT;2DEFECTIVENESS OR DISTORTION;2DIVERGENCE;2YOUTHFULNESS;2INCREASE",
    ";2PENETRATION;2REACH;2CONTACT;2HOLDING BACK;2WAITING;2FOLLOWING;2ADVANCE;2RELEASE",
    ";2RESISTANCE;2EASE;2JOY;2CONTENTION;2ENDEAVOUR;2DUTIES;2CHANGE;2DECISIVENESS",
    ";2BOLD RESOLUTION;2PACKING;2LEGION;2CLOSENESS;2KINSHIP;2GATHERING;2STRENGTH;2PURITY",
    ";2FULLNESS;2RESIDENCE;2LAW OR MODEL;2RESPONSE;2GOING TO MEET;2ENCOUNTERS;2STOVE;2GREATNESS",
    ";2ENLARGEMENT;2PATTERN;2RITUAL;2FLIGHT;2VASTNESS OR WASTING;2CONSTANCY;2MEASURE;2ETERNITY",
    ";2UNITY;2DIMINISHMENT;2CLOSED MOUTH;2GUARDEDNESS;2GATHERING IN;2MASSING;2ACCUMULATION",
    ";2EMBELLISHMENT;2DOUBT;2WATCH;2SINKING;2INNER;2DEPARTURE;2DARKENING;2DIMMING;2EXHAUSTION",
    ";2SEVERANCE;2STOPPAGE;2HARDNESS;2COMPLETION;2CLOSURE;2FAILURE;2AGGRAVATION;2COMPLIANCE",
    ";2ON THE VERGE;2DIFFICULTIES;2LABOURING;2FOSTERING;@1D360;0COUNTING ROD UNIT DIGIT ONE;4TWO",
    ";4THREE;4FOUR;4FIVE;4SIX;4SEVEN;4EIGHT;4NINE;2TENS DIGIT ONE;4TWO;4THREE;4FOUR;4FIVE;4SIX",
    ";4SEVEN;4EIGHT;4NINE;0IDEOGRAPHIC TALLY MARK ONE;3TWO;3THREE;3FOUR;3FIVE;0TALLY MARK ONE",
    ";2FIVE;@1D400;0MATHEMATICAL BOLD CAPITAL A;3B;3C;3D;3E;3F;3G;3H;3I;3J;3K;3L;3M;3N;3O;3P;3Q",
    ";3R;3S;3T;3U;3V;3W;3X;3Y;3Z;2SMALL A;3B;3C;3D;3E;3F;3G;3H;3I;3J;3K;3L;3M;3N;3O;3P;3Q;3R;3S",
    ";3T;3U;3V;3W;3X;3Y;3Z;1ITALIC CAPITAL A;3B;3C;3D;3E;3F;3G;3H;3I;3J;3K;3L;3M;3N;3O;3P;3Q;3R",
    ";3S;3T;3U;3V;3W;3X;3Y;3Z;2SMALL A;3B;3C;3D;3E;3F;3G;@1D456;3I;3J;3K;3L;3M;3N;3O;3P;3Q;3R;3S",
    ";3T;3U;3V;3W;3X;3Y;3Z;1BOLD ITALIC CAPITAL A;4B;4C;4D;4E;4F;4G;4H;4I;4J;4K;4L;4M;4N;4O;4P;4Q",
    ";4R;4S;4T;4U;4V;4W;4X;4Y;4Z;3SMALL A;4B;4C;4D;4E;4F;4G;4H;4I;4J;4K;4L;4M;4N;4O;4P;4Q;4R;4S",
    ";4T;4U;4V;4W;4X;4Y;4Z;1SCRIPT CAPITAL A;@1D49E;3C;3D;@1D4A2;3G;@1D4A5;3J;3K;@1D4A9;3N;3O;3P",
    ";3Q;@1D4AE;3S;3T;3U;3V;3W;3X;3Y;3Z;2SMALL A;3B;3C;3D;@1D4BB;3F;@1D4BD;3H;3I;3J;3K;3L;3M;3N",
    ";@1D4C5;3P;3Q;3R;3S;3T;3U;3V;3W;3X;3Y;3Z;1BOLD SCRIPT CAPITAL A;4B;4C;4D;4E;4F;4G;4H;4I;4J",
    ";4K;4L;4M;4N;4O;4P;4Q;4R;4S;4T;4U;4V;4W;4X;4Y;4Z;3SMALL A;4B;4C;4D;4E;4F;4G;4H;4I;4J;4K;4L",
    ";4M;4N;4O;4P;4Q;4R;4S;4T;4U;4V;4W;4X;4Y;4Z;1FRAKTUR CAPITAL A;3B;@1D507;3D;3E;3F;3G;@1D50D",
    ";3J;3K;3L;3M;3N;3O;3P;3Q;@1D516;3S;3T;3U;3V;3W;3X;3Y;@1D51E;2SMALL A;3B;3C;3D;3E;3F;3G;3H;3I",
    ";3J;3K;3L;3M;3N;3O;3P;3Q;3R;3S;3T;3U;3V;3W;3X;3Y;3Z;1DOUBLE-STRUCK CAPITAL A;3B;@1D53B;3D;3E",
    ";3F;3G;@1D540;3I;3J;3K;3L;3M;@1D546;3O;@1D54A;3S;3T;3U;3V;3W;3X;3Y;@1D552;2SMALL A;3B;3C;3D",
    ";3E;3F;3G;3H;3I;3J;3K;3L;3M;3N;3O;3P;3Q;3R;3S;3T;3U;3V;3W;3X;3Y;3Z;1BOLD FRAKTUR CAPITAL A",
    ";4B;4C;4D;4E;4F;4G;4H;4I;4J;4K;4L;4M;4N;4O;4P;4Q;4R;4S;4T;4U;4V;4W;4X;4Y;4Z;3SMALL A;4B;4C",
    ";4D;4E;4F;4G;4H;4I;4J;4K;4L;4M;4N;4O;4P;4Q;4R;4S;4T;4U;4V;4W;4X;4Y;4Z;1SANS-SERIF CAPITAL A",
    ";3B;3C;3D;3E;3F;3G;3H;3I;3J;3K;3L;3M;3N;3O;3P;3Q;3R;3S;3T;3U;3V;3W;3X;3Y;3Z;2SMALL A;3B;3C",
    ";3D;3E;3F;3G;3H;3I;3J;3K;3L;3M;3N;3O;3P;3Q;3R;3S;3T;3U;3V;3W;3X;3Y;3Z;2BOLD CAPITAL A;4B;4C",
    ";4D;4E;4F;4G;4H;4I;4J;4K;4L;4M;4N;4O;4P;4Q;4R;4S;4T;4U;4V;4W;4X;4Y;4Z;3SMALL A;4B;4C;4D;4E",
    ";4F;4G;4H;4I;4J;4K;4L;4M;4N;4O;4P;4Q;4R;4S;4T;4U;4V;4W;4X;4Y;4Z;2ITALIC CAPITAL A;4B;4C;4D",
    ";4E;4F;4G;4H;4I;4J;4K;4L;4M;4N;4O;4P;4Q;4R;4S;4T;4U;4V;4W;4X;4Y;4Z;3SMALL A;4B;4C;4D;4E;4F",
    ";4G;4H;4I;4J;4K;4L;4M;4N;4O;4P;4Q;4R;4S;4T;4U;4V;4W;4X;4Y;4Z;2BOLD ITALIC CAPITAL A;5B;5C;5D",
    ";5E;5F;5G;5H;5I;5J;5K;5L;5M;5N;5O;5P;5Q;5R;5S;5T;5U;5V;5W;5X;5Y;5Z;4SMALL A;5B;5C;5D;5E;5F",
    ";5G;5H;5I;5J;5K;5L;5M;5N;5O;5P;5Q;5R;5S;5T;5U;5V;5W;5X;5Y;5Z;1MONOSPACE CAPITAL A;3B;3C;3D",
    ";3E;3F;3G;3H;3I;3J;3K;3L;3M;3N;3O;3P;3Q;3R;3S;3T;3U;3V;3W;3X;3Y;3Z;2SMALL A;3B;3C;3D;3E;3F",
    ";3G;3H;3I;3J;3K;3L;3M;3N;3O;3P;3Q;3R;3S;3T;3U;3V;3W;3X;3Y;3Z;1ITALIC SMALL DOTLESS I;4J"],
   [";@1D6A8;1BOLD CAPITAL ALPHA;3BETA;3GAMMA;3DELTA;3EPSILON;3ZETA;3ETA;3THETA;3IOTA;3KAPPA",
    ";3LAMDA;3MU;3NU;3XI;3OMICRON;3PI;3RHO;3THETA SYMBOL;3SIGMA;3TAU;3UPSILON;3PHI;3CHI;3PSI",
    ";3OMEGA;2NABLA;2SMALL ALPHA;3BETA;3GAMMA;3DELTA;3EPSILON;3ZETA;3ETA;3THETA;3IOTA;3KAPPA",
    ";3LAMDA;3MU;3NU;3XI;3OMICRON;3PI;3RHO;3FINAL SIGMA;3SIGMA;3TAU;3UPSILON;3PHI;3CHI;3PSI",
    ";3OMEGA;2PARTIAL DIFFERENTIAL;2EPSILON SYMBOL;2THETA SYMBOL;2KAPPA SYMBOL;2PHI SYMBOL",
    ";2RHO SYMBOL;2PI SYMBOL;1ITALIC CAPITAL ALPHA;3BETA;3GAMMA;3DELTA;3EPSILON;3ZETA;3ETA;3THETA",
    ";3IOTA;3KAPPA;3LAMDA;3MU;3NU;3XI;3OMICRON;3PI;3RHO;3THETA SYMBOL;3SIGMA;3TAU;3UPSILON;3PHI",
    ";3CHI;3PSI;3OMEGA;2NABLA;2SMALL ALPHA;3BETA;3GAMMA;3DELTA;3EPSILON;3ZETA;3ETA;3THETA;3IOTA",
    ";3KAPPA;3LAMDA;3MU;3NU;3XI;3OMICRON;3PI;3RHO;3FINAL SIGMA;3SIGMA;3TAU;3UPSILON;3PHI;3CHI",
    ";3PSI;3OMEGA;2PARTIAL DIFFERENTIAL;2EPSILON SYMBOL;2THETA SYMBOL;2KAPPA SYMBOL;2PHI SYMBOL",
    ";2RHO SYMBOL;2PI SYMBOL;1BOLD ITALIC CAPITAL ALPHA;4BETA;4GAMMA;4DELTA;4EPSILON;4ZETA;4ETA",
    ";4THETA;4IOTA;4KAPPA;4LAMDA;4MU;4NU;4XI;4OMICRON;4PI;4RHO;4THETA SYMBOL;4SIGMA;4TAU;4UPSILON",
    ";4PHI;4CHI;4PSI;4OMEGA;3NABLA;3SMALL ALPHA;4BETA;4GAMMA;4DELTA;4EPSILON;4ZETA;4ETA;4THETA",
    ";4IOTA;4KAPPA;4LAMDA;4MU;4NU;4XI;4OMICRON;4PI;4RHO;4FINAL SIGMA;4SIGMA;4TAU;4UPSILON;4PHI",
    ";4CHI;4PSI;4OMEGA;3PARTIAL DIFFERENTIAL;3EPSILON SYMBOL;3THETA SYMBOL;3KAPPA SYMBOL",
    ";3PHI SYMBOL;3RHO SYMBOL;3PI SYMBOL;1SANS-SERIF BOLD CAPITAL ALPHA;4BETA;4GAMMA;4DELTA",
    ";4EPSILON;4ZETA;4ETA;4THETA;4IOTA;4KAPPA;4LAMDA;4MU;4NU;4XI;4OMICRON;4PI;4RHO;4THETA SYMBOL",
    ";4SIGMA;4TAU;4UPSILON;4PHI;4CHI;4PSI;4OMEGA;3NABLA;3SMALL ALPHA;4BETA;4GAMMA;4DELTA;4EPSILON",
    ";4ZETA;4ETA;4THETA;4IOTA;4KAPPA;4LAMDA;4MU;4NU;4XI;4OMICRON;4PI;4RHO;4FINAL SIGMA;4SIGMA",
    ";4TAU;4UPSILON;4PHI;4CHI;4PSI;4OMEGA;3PARTIAL DIFFERENTIAL;3EPSILON SYMBOL;3THETA SYMBOL",
    ";3KAPPA SYMBOL;3PHI SYMBOL;3RHO SYMBOL;3PI SYMBOL;3ITALIC CAPITAL ALPHA;5BETA;5GAMMA;5DELTA",
    ";5EPSILON;5ZETA;5ETA;5THETA;5IOTA;5KAPPA;5LAMDA;5MU;5NU;5XI;5OMICRON;5PI;5RHO;5THETA SYMBOL",
    ";5SIGMA;5TAU;5UPSILON;5PHI;5CHI;5PSI;5OMEGA;4NABLA;4SMALL ALPHA;5BETA;5GAMMA;5DELTA;5EPSILON",
    ";5ZETA;5ETA;5THETA;5IOTA;5KAPPA;5LAMDA;5MU;5NU;5XI;5OMICRON;5PI;5RHO;5FINAL SIGMA;5SIGMA",
    ";5TAU;5UPSILON;5PHI;5CHI;5PSI;5OMEGA;4PARTIAL DIFFERENTIAL;4EPSILON SYMBOL;4THETA SYMBOL",
    ";4KAPPA SYMBOL;4PHI SYMBOL;4RHO SYMBOL;4PI SYMBOL;1BOLD CAPITAL DIGAMMA;2SMALL DIGAMMA",
    ";@1D7CE;2DIGIT ZERO;3ONE;3TWO;3THREE;3FOUR;3FIVE;3SIX;3SEVEN;3EIGHT;3NINE",
    ";1DOUBLE-STRUCK DIGIT ZERO;3ONE;3TWO;3THREE;3FOUR;3FIVE;3SIX;3SEVEN;3EIGHT;3NINE",
    ";1SANS-SERIF DIGIT ZERO;3ONE;3TWO;3THREE;3FOUR;3FIVE;3SIX;3SEVEN;3EIGHT;3NINE",
    ";2BOLD DIGIT ZERO;4ONE;4TWO;4THREE;4FOUR;4FIVE;4SIX;4SEVEN;4EIGHT;4NINE",
    ";1MONOSPACE DIGIT ZERO;3ONE;3TWO;3THREE;3FOUR;3FIVE;3SIX;3SEVEN;3EIGHT;3NINE",
    ";0SIGNWRITING HAND-FIST INDEX;1HAND-CIRCLE INDEX;1HAND-CUP INDEX;1HAND-OVAL INDEX",
    ";1HAND-HINGE INDEX;1HAND-ANGLE INDEX;1HAND-FIST INDEX BENT;1HAND-CIRCLE INDEX BENT",
    ";1HAND-FIST THUMB UNDER INDEX BENT;2INDEX RAISED KNUCKLE;3CUPPED;3HINGED;4LOW",
    ";1HAND-CIRCLE INDEX HINGE;1HAND-FIST INDEX MIDDLE;1HAND-CIRCLE INDEX MIDDLE",
    ";1HAND-FIST INDEX MIDDLE BENT;4RAISED KNUCKLES;4HINGED;3UP MIDDLE HINGED;3HINGED MIDDLE UP",
    ";3MIDDLE CONJOINED;5INDEX BENT;5MIDDLE BENT;5CUPPED;5HINGED;4CROSSED",
    ";1HAND-CIRCLE INDEX MIDDLE CROSSED;1HAND-FIST MIDDLE BENT OVER INDEX;2INDEX BENT OVER MIDDLE",
    ";3MIDDLE THUMB;1HAND-CIRCLE INDEX MIDDLE THUMB;1HAND-FIST INDEX MIDDLE STRAIGHT THUMB BENT",
    ";4BENT THUMB STRAIGHT;4THUMB BENT;4HINGED SPREAD THUMB SIDE;3UP MIDDLE HINGED THUMB SIDE",
    ";7CONJOINED;3HINGED MIDDLE UP THUMB SIDE;3MIDDLE UP SPREAD THUMB FORWARD;4THUMB CUPPED",
    ";5CIRCLED;5HOOKED;5HINGED;2THUMB BETWEEN INDEX MIDDLE STRAIGHT",
    ";2INDEX MIDDLE CONJOINED THUMB SIDE;7CONJOINED;7BENT;2MIDDLE THUMB HOOKED INDEX UP",
    ";2INDEX THUMB HOOKED MIDDLE UP;3MIDDLE CONJOINED HINGED THUMB SIDE;4CROSSED THUMB SIDE",
    ";4CONJOINED THUMB FORWARD;5CUPPED THUMB FORWARD;2MIDDLE THUMB CUPPED INDEX UP",
    ";2INDEX THUMB CUPPED MIDDLE UP;2MIDDLE THUMB CIRCLED INDEX UP;6HINGED",
    ";2INDEX THUMB ANGLED OUT MIDDLE UP;5IN MIDDLE UP;4CIRCLED MIDDLE UP",
    ";3MIDDLE THUMB CONJOINED HINGED;5ANGLED OUT;5ANGLED;2MIDDLE THUMB ANGLED OUT INDEX UP",
    ";7CROSSED;5INDEX UP;2INDEX THUMB HOOKED MIDDLE HINGED;1HAND-FLAT FOUR FINGERS;4BENT;4HINGED",
    ";4CONJOINED;5SPLIT;1HAND-CLAW FOUR FINGERS CONJOINED;1HAND-FIST FOUR FINGERS CONJOINED BENT",
    ";1HAND-HINGE FOUR FINGERS CONJOINED;1HAND-FLAT FIVE FINGERS SPREAD;2HEEL FIVE FINGERS SPREAD",
    ";2FIVE FINGERS SPREAD FOUR BENT;2HEEL FIVE FINGERS SPREAD FOUR BENT",
    ";2FIVE FINGERS SPREAD BENT;2HEEL FIVE FINGERS SPREAD BENT;2FIVE FINGERS SPREAD THUMB FORWARD",
    ";1HAND-CUP FIVE FINGERS SPREAD;5OPEN;1HAND-HINGE FIVE FINGERS SPREAD OPEN",
    ";1HAND-OVAL FIVE FINGERS SPREAD;1HAND-FLAT FIVE FINGERS SPREAD HINGED;6THUMB SIDE;6NO THUMB",
    ";1HAND-FLAT;2BETWEEN PALM FACINGS;2HEEL;2THUMB SIDE;2HEEL THUMB SIDE;2THUMB BENT;3FORWARD",
    ";2SPLIT INDEX THUMB SIDE;3CENTRE;4THUMB SIDE;6BENT;3LITTLE;1HAND-CLAW;2THUMB SIDE;2NO THUMB",
    ";2THUMB FORWARD;1HAND-HOOK CURLICUE;1HAND-HOOK;1HAND-CUP OPEN;1HAND-CUP;2OPEN THUMB SIDE",
    ";2THUMB SIDE;2OPEN NO THUMB;2NO THUMB;2OPEN THUMB FORWARD;2THUMB FORWARD;1HAND-CURLICUE OPEN",
    ";1HAND-CURLICUE;1HAND-CIRCLE;1HAND-OVAL;2THUMB SIDE;2NO THUMB;2THUMB FORWARD",
    ";1HAND-HINGE OPEN"],
   [";3THUMB FORWARD;1HAND-HINGE;2SMALL;2OPEN THUMB SIDE;2THUMB SIDE;2OPEN NO THUMB;2NO THUMB",
    ";2THUMB SIDE TOUCHING INDEX;3BETWEEN MIDDLE RING;1HAND-ANGLE;1HAND-FIST INDEX MIDDLE RING",
    ";1HAND-CIRCLE INDEX MIDDLE RING;1HAND-HINGE INDEX MIDDLE RING;1HAND-ANGLE INDEX MIDDLE RING",
    ";1HAND-HINGE LITTLE;1HAND-FIST INDEX MIDDLE RING BENT;5CONJOINED",
    ";1HAND-HINGE INDEX MIDDLE RING CONJOINED;1HAND-FIST LITTLE DOWN;4RIPPLE STRAIGHT;5CURVED",
    ";4OTHERS CIRCLED;3UP;2THUMB UNDER LITTLE UP;1HAND-CIRCLE LITTLE UP;1HAND-OVAL LITTLE UP",
    ";1HAND-ANGLE LITTLE UP;1HAND-FIST LITTLE RAISED KNUCKLE;3BENT;3TOUCHES THUMB;3THUMB",
    ";1HAND-HINGE LITTLE THUMB;1HAND-FIST LITTLE INDEX THUMB;1HAND-HINGE LITTLE INDEX THUMB",
    ";1HAND-ANGLE LITTLE INDEX THUMB INDEX THUMB OUT;6THUMB;1HAND-FIST LITTLE INDEX",
    ";1HAND-CIRCLE LITTLE INDEX;1HAND-HINGE LITTLE INDEX;1HAND-ANGLE LITTLE INDEX",
    ";1HAND-FIST INDEX MIDDLE LITTLE;1HAND-CIRCLE INDEX MIDDLE LITTLE",
    ";1HAND-HINGE INDEX MIDDLE LITTLE;2RING;1HAND-ANGLE INDEX MIDDLE LITTLE",
    ";1HAND-FIST INDEX MIDDLE CROSS LITTLE;1HAND-CIRCLE INDEX MIDDLE CROSS LITTLE",
    ";1HAND-FIST RING DOWN;1HAND-HINGE RING DOWN INDEX THUMB HOOK MIDDLE",
    ";1HAND-ANGLE RING DOWN MIDDLE THUMB INDEX CROSS;1HAND-FIST RING UP;3RAISED KNUCKLE;3LITTLE",
    ";1HAND-CIRCLE RING LITTLE;1HAND-OVAL RING LITTLE;1HAND-ANGLE RING LITTLE",
    ";1HAND-FIST RING MIDDLE;4CONJOINED;4RAISED KNUCKLES;3INDEX;3THUMB;1HAND-HOOK RING THUMB",
    ";1HAND-FIST INDEX RING LITTLE;1HAND-CIRCLE INDEX RING LITTLE",
    ";1HAND-CURLICUE INDEX RING LITTLE ON;1HAND-HOOK INDEX RING LITTLE OUT;5IN;5UNDER",
    ";1HAND-CUP INDEX RING LITTLE;1HAND-HINGE INDEX RING LITTLE;1HAND-ANGLE INDEX RING LITTLE OUT",
    ";4LITTLE;1HAND-FIST MIDDLE DOWN;1HAND-HINGE MIDDLE;1HAND-FIST MIDDLE UP",
    ";1HAND-CIRCLE MIDDLE UP;1HAND-FIST MIDDLE RAISED KNUCKLE;3UP THUMB SIDE",
    ";1HAND-HOOK MIDDLE THUMB;1HAND-FIST MIDDLE THUMB LITTLE;3LITTLE;3RING LITTLE",
    ";1HAND-CIRCLE MIDDLE RING LITTLE;1HAND-CURLICUE MIDDLE RING LITTLE ON",
    ";1HAND-CUP MIDDLE RING LITTLE;1HAND-HINGE MIDDLE RING LITTLE",
    ";1HAND-ANGLE MIDDLE RING LITTLE OUT;5IN;4LITTLE;1HAND-CIRCLE MIDDLE RING LITTLE BENT",
    ";1HAND-CLAW MIDDLE RING LITTLE CONJOINED;6SIDE;1HAND-HOOK MIDDLE RING LITTLE CONJOINED OUT",
    ";6IN;5CONJOINED;1HAND-HINGE INDEX HINGED;1HAND-FIST INDEX THUMB SIDE",
    ";1HAND-HINGE INDEX THUMB SIDE;1HAND-FIST INDEX THUMB SIDE THUMB DIAGONAL;6CONJOINED;6BENT",
    ";5INDEX BENT;5BOTH BENT;5INDEX HINGE;4FORWARD INDEX STRAIGHT;6BENT;4HOOK;4CURLICUE",
    ";4CURVE THUMB INSIDE;1HAND-CLAW INDEX THUMB CURVE THUMB INSIDE",
    ";1HAND-FIST INDEX THUMB CURVE THUMB UNDER;4CIRCLE;1HAND-CUP INDEX THUMB;4OPEN",
    ";1HAND-HINGE INDEX THUMB OPEN;4LARGE;3THUMB;4SMALL;1HAND-ANGLE INDEX THUMB OUT;4IN;3THUMB",
    ";1HAND-FIST THUMB;3HEEL;3SIDE DIAGONAL;4CONJOINED;4BENT;3FORWARD;3BETWEEN INDEX MIDDLE",
    ";4MIDDLE RING;4RING LITTLE;3UNDER TWO FINGERS;3OVER TWO FINGERS;3UNDER THREE FINGERS",
    ";4FOUR FINGERS;3OVER FOUR RAISED KNUCKLES;1HAND-FIST;2HEEL;1TOUCH SINGLE;2MULTIPLE;2BETWEEN",
    ";1GRASP SINGLE;2MULTIPLE;2BETWEEN;1STRIKE SINGLE;2MULTIPLE;2BETWEEN;1BRUSH SINGLE;2MULTIPLE",
    ";2BETWEEN;1RUB SINGLE;2MULTIPLE;2BETWEEN;1SURFACE SYMBOLS;2BETWEEN;1SQUEEZE LARGE SINGLE",
    ";2SMALL SINGLE;2LARGE MULTIPLE;2SMALL MULTIPLE;2SEQUENTIAL;1FLICK LARGE SINGLE;2SMALL SINGLE",
    ";2LARGE MULTIPLE;2SMALL MULTIPLE;2SEQUENTIAL;1SQUEEZE FLICK ALTERNATING",
    ";1MOVEMENT-HINGE UP DOWN LARGE;4SMALL;3SEQUENTIAL;2DOWN SEQUENTIAL",
    ";2UP DOWN ALTERNATING LARGE;5SMALL;2SIDE TO SIDE SCISSORS;1MOVEMENT-WALLPLANE FINGER CONTACT",
    ";1MOVEMENT-FLOORPLANE FINGER CONTACT;1MOVEMENT-WALLPLANE SINGLE STRAIGHT SMALL;4MEDIUM",
    ";4LARGE;4LARGEST;3WRIST FLEX;2DOUBLE STRAIGHT;3WRIST FLEX;3ALTERNATING;4WRIST FLEX;2CROSS",
    ";2TRIPLE STRAIGHT MOVEMENT;3WRIST FLEX;3ALTERNATING;4WRIST FLEX;2BEND SMALL;3MEDIUM;3LARGE",
    ";2CORNER SMALL;3MEDIUM;3LARGE;3ROTATION;2CHECK SMALL;3MEDIUM;3LARGE;2BOX SMALL;3MEDIUM",
    ";3LARGE;2ZIGZAG SMALL;3MEDIUM;3LARGE;2PEAKS SMALL;3MEDIUM;3LARGE",
    ";1TRAVEL-WALLPLANE ROTATION-WALLPLANE SINGLE;3DOUBLE;3ALTERNATING",
    ";2ROTATION-FLOORPLANE SINGLE;3DOUBLE;3ALTERNATING;2SHAKING;2ARM SPIRAL SINGLE;4DOUBLE",
    ";4TRIPLE;1MOVEMENT-DIAGONAL AWAY SMALL;3MEDIUM;3LARGE;3LARGEST;2TOWARDS SMALL;3MEDIUM;3LARGE",
    ";3LARGEST;2BETWEEN AWAY SMALL;4MEDIUM;4LARGE;4LARGEST;3TOWARDS SMALL;4MEDIUM;4LARGE;4LARGEST",
    ";1MOVEMENT-FLOORPLANE SINGLE STRAIGHT SMALL;4MEDIUM;4LARGE;4LARGEST;3WRIST FLEX",
    ";2DOUBLE STRAIGHT;3WRIST FLEX;3ALTERNATING;4WRIST FLEX;2CROSS;2TRIPLE STRAIGHT MOVEMENT",
    ";3WRIST FLEX;3ALTERNATING MOVEMENT;4WRIST FLEX;2BEND;2CORNER SMALL;3MEDIUM;3LARGE;2CHECK",
    ";2BOX SMALL;3MEDIUM;3LARGE;2ZIGZAG SMALL;3MEDIUM;3LARGE;2PEAKS SMALL;3MEDIUM;3LARGE",
    ";1TRAVEL-FLOORPLANE ROTATION-FLOORPLANE SINGLE;3DOUBLE;3ALTERNATING",
    ";2ROTATION-WALLPLANE SINGLE;3DOUBLE;3ALTERNATING;2SHAKING",
    ";1MOVEMENT-WALLPLANE CURVE QUARTER SMALL;4MEDIUM;4LARGE;4LARGEST;3HALF-CIRCLE SMALL;4MEDIUM",
    ";4LARGE;4LARGEST;3THREE-QUARTER CIRCLE SMALL;5MEDIUM;2HUMP SMALL;3MEDIUM;3LARGE;2LOOP SMALL",
    ";3MEDIUM;3LARGE;3SMALL DOUBLE;2WAVE CURVE DOUBLE SMALL;5MEDIUM;5LARGE;4TRIPLE SMALL;5MEDIUM",
    ";5LARGE"],
   [";2CURVE THEN STRAIGHT;2CURVED CROSS SMALL;4MEDIUM;1ROTATION-WALLPLANE SINGLE;2DOUBLE",
    ";2ALTERNATE;1MOVEMENT-WALLPLANE SHAKING;2CURVE HITTING FRONT WALL;2HUMP HITTING FRONT WALL",
    ";2LOOP HITTING FRONT WALL;2WAVE HITTING FRONT WALL",
    ";1ROTATION-WALLPLANE SINGLE HITTING FRONT WALL;2DOUBLE HITTING FRONT WALL",
    ";2ALTERNATING HITTING FRONT WALL;1MOVEMENT-WALLPLANE CURVE HITTING CHEST;2HUMP HITTING CHEST",
    ";2LOOP HITTING CHEST;2WAVE HITTING CHEST;1ROTATION-WALLPLANE SINGLE HITTING CHEST",
    ";2DOUBLE HITTING CHEST;2ALTERNATING HITTING CHEST",
    ";1MOVEMENT-WALLPLANE WAVE DIAGONAL PATH SMALL;5MEDIUM;5LARGE",
    ";1MOVEMENT-FLOORPLANE CURVE HITTING CEILING SMALL;5LARGE;2HUMP HITTING CEILING SMALL DOUBLE",
    ";5LARGE DOUBLE;5SMALL TRIPLE;5LARGE TRIPLE;2LOOP HITTING CEILING SMALL SINGLE;5LARGE SINGLE",
    ";5SMALL DOUBLE;5LARGE DOUBLE;2WAVE HITTING CEILING SMALL;5LARGE",
    ";1ROTATION-FLOORPLANE SINGLE HITTING CEILING;2DOUBLE HITTING CEILING",
    ";2ALTERNATING HITTING CEILING;1MOVEMENT-FLOORPLANE CURVE HITTING FLOOR SMALL;5LARGE",
    ";2HUMP HITTING FLOOR SMALL DOUBLE;5LARGE DOUBLE;5TRIPLE SMALL TRIPLE;6LARGE TRIPLE",
    ";2LOOP HITTING FLOOR SMALL SINGLE;5LARGE SINGLE;5SMALL DOUBLE;5LARGE DOUBLE",
    ";2WAVE HITTING FLOOR SMALL;5LARGE;1ROTATION-FLOORPLANE SINGLE HITTING FLOOR",
    ";2DOUBLE HITTING FLOOR;2ALTERNATING HITTING FLOOR;1MOVEMENT-FLOORPLANE CURVE SMALL;3MEDIUM",
    ";3LARGE;3LARGEST;3COMBINED;2HUMP SMALL;2LOOP SMALL;2WAVE SNAKE;3SMALL;3LARGE",
    ";1ROTATION-FLOORPLANE SINGLE;2DOUBLE;2ALTERNATING;1MOVEMENT-FLOORPLANE SHAKING PARALLEL",
    ";1MOVEMENT-WALLPLANE ARM CIRCLE SMALL SINGLE;4MEDIUM SINGLE;4SMALL DOUBLE;4MEDIUM DOUBLE",
    ";1MOVEMENT-FLOORPLANE ARM CIRCLE HITTING WALL SMALL SINGLE;6MEDIUM SINGLE;6LARGE SINGLE",
    ";6SMALL DOUBLE;6MEDIUM DOUBLE;6LARGE DOUBLE;1MOVEMENT-WALLPLANE WRIST CIRCLE FRONT SINGLE",
    ";5DOUBLE;1MOVEMENT-FLOORPLANE WRIST CIRCLE HITTING WALL SINGLE;6DOUBLE",
    ";1MOVEMENT-WALLPLANE FINGER CIRCLES SINGLE;4DOUBLE",
    ";1MOVEMENT-FLOORPLANE FINGER CIRCLES HITTING WALL SINGLE;6DOUBLE;1DYNAMIC ARROWHEAD SMALL",
    ";3LARGE;2FAST;2SLOW;2TENSE;2RELAXED;2SIMULTANEOUS;3ALTERNATING;2EVERY OTHER TIME;2GRADUAL",
    ";1HEAD;2RIM;2MOVEMENT-WALLPLANE STRAIGHT;3TILT;2MOVEMENT-FLOORPLANE STRAIGHT",
    ";2MOVEMENT-WALLPLANE CURVE;2MOVEMENT-FLOORPLANE CURVE;2MOVEMENT CIRCLE",
    ";1FACE DIRECTION POSITION NOSE FORWARD TILTING;5UP OR DOWN;8TILTING;1EYEBROWS STRAIGHT UP",
    ";3NEUTRAL;3DOWN;1DREAMY EYEBROWS NEUTRAL DOWN;3DOWN NEUTRAL;3UP NEUTRAL;3NEUTRAL UP",
    ";1FOREHEAD NEUTRAL;2CONTACT;2WRINKLED;1EYES OPEN;2SQUEEZED;2CLOSED;1EYE BLINK SINGLE",
    ";3MULTIPLE;1EYES HALF OPEN;2WIDE OPEN;2HALF CLOSED;2WIDENING MOVEMENT;1EYE WINK",
    ";1EYELASHES UP;2DOWN;2FLUTTERING;1EYEGAZE-WALLPLANE STRAIGHT;3DOUBLE;3ALTERNATING",
    ";1EYEGAZE-FLOORPLANE STRAIGHT;3DOUBLE;3ALTERNATING;1EYEGAZE-WALLPLANE CURVED",
    ";1EYEGAZE-FLOORPLANE CURVED;1EYEGAZE-WALLPLANE CIRCLING;1CHEEKS PUFFED;2NEUTRAL;2SUCKED",
    ";1TENSE CHEEKS HIGH;3MIDDLE;3LOW;1EARS;1NOSE NEUTRAL;2CONTACT;2WRINKLES;2WIGGLES",
    ";1AIR BLOWING OUT;2SUCKING IN;2BLOW SMALL ROTATIONS;2SUCK SMALL ROTATIONS;1BREATH INHALE",
    ";2EXHALE;1MOUTH CLOSED NEUTRAL;3FORWARD;3CONTACT;2SMILE;3WRINKLED;3OPEN;2FROWN;3WRINKLED",
    ";3OPEN;2OPEN CIRCLE;3FORWARD;3WRINKLED;3OVAL;4WRINKLED;4YAWN;3RECTANGLE;4WRINKLED;4YAWN",
    ";2KISS;3FORWARD;3WRINKLED;2TENSE;3FORWARD;3SUCKED;1LIPS PRESSED TOGETHER",
    ";1LIP LOWER OVER UPPER;2UPPER OVER LOWER;1MOUTH CORNERS;2WRINKLES SINGLE;3DOUBLE",
    ";1TONGUE STICKING OUT FAR;2LICKING LIPS;2TIP BETWEEN LIPS;3TOUCHING INSIDE MOUTH",
    ";2INSIDE MOUTH RELAXED;2MOVES AGAINST CHEEK;2CENTRE STICKING OUT;3INSIDE MOUTH;1TEETH",
    ";2MOVEMENT;2ON TONGUE;4MOVEMENT;3LIPS;4MOVEMENT;2BITE LIPS;1MOVEMENT-WALLPLANE JAW",
    ";1MOVEMENT-FLOORPLANE JAW;1NECK;1HAIR;1EXCITEMENT;1SHOULDER HIP SPINE;3POSITIONS",
    ";1WALLPLANE SHOULDER HIP MOVE;1FLOORPLANE SHOULDER HIP MOVE;1SHOULDER TILTING FROM WAIST",
    ";1TORSO-WALLPLANE STRAIGHT STRETCH;2CURVED BEND;1TORSO-FLOORPLANE TWISTING",
    ";1UPPER BODY TILTING FROM HIP JOINTS;1LIMB COMBINATION;2LENGTH-1;2LENGTH-2;2LENGTH-3",
    ";2LENGTH-4;2LENGTH-5;2LENGTH-6;2LENGTH-7;1FINGER;1LOCATION-WALLPLANE SPACE",
    ";1LOCATION-FLOORPLANE SPACE;1LOCATION HEIGHT;2WIDTH;2DEPTH;2HEAD NECK;2TORSO;2LIMBS DIGITS",
    ";1COMMA;1FULL STOP;1SEMICOLON;1COLON;1PARENTHESIS"],
   [";@1DA9B;1FILL MODIFIER-2;2MODIFIER-3;2MODIFIER-4;2MODIFIER-5;2MODIFIER-6;@1DAA1",
    ";1ROTATION MODIFIER-2;2MODIFIER-3;2MODIFIER-4;2MODIFIER-5;2MODIFIER-6;2MODIFIER-7",
    ";2MODIFIER-8;2MODIFIER-9;2MODIFIER-10;2MODIFIER-11;2MODIFIER-12;2MODIFIER-13;2MODIFIER-14",
    ";2MODIFIER-15;2MODIFIER-16;@1DF00;0LATIN SMALL LETTER FENG DIGRAPH WITH TRILL",
    ";3REVERSED SCRIPT G;1LETTER SMALL CAPITAL TURNED G;1SMALL LETTER REVERSED K",
    ";1LETTER SMALL CAPITAL L WITH BELT;1SMALL LETTER LEZH WITH RETROFLEX HOOK",
    ";3TURNED Y WITH BELT;3REVERSED ENG;3TURNED R WITH LONG LEG AND RETROFLEX HOOK",
    ";3T WITH HOOK AND RETROFLEX HOOK;1LETTER RETROFLEX CLICK WITH RETROFLEX HOOK",
    ";1SMALL LETTER ESH WITH DOUBLE BAR;7AND CURL;3TURNED T WITH CURL",
    ";1LETTER INVERTED GLOTTAL STOP WITH CURL;2STRETCHED C WITH CURL;2SMALL CAPITAL TURNED K",
    ";1SMALL LETTER L WITH FISHHOOK;3DEZH DIGRAPH WITH PALATAL HOOK;3L WITH BELT AND PALATAL HOOK",
    ";3ENG WITH PALATAL HOOK;3TURNED R WITH PALATAL HOOK;3R WITH FISHHOOK AND PALATAL HOOK",
    ";3TESH DIGRAPH WITH PALATAL HOOK;3EZH WITH PALATAL HOOK;3DEZH DIGRAPH WITH RETROFLEX HOOK",
    ";3I WITH STROKE AND RETROFLEX HOOK;3O WITH RETROFLEX HOOK;3TESH DIGRAPH WITH RETROFLEX HOOK",
    ";3C WITH RETROFLEX HOOK;3S WITH CURL;@1E000;0COMBINING GLAGOLITIC LETTER AZU;3BUKY;3VEDE",
    ";3GLAGOLI;3DOBRO;3YESTU;3ZHIVETE;@1E008;3ZEMLJA;3IZHE;3INITIAL IZHE;3I;3DJERVI;3KAKO",
    ";3LJUDIJE;3MYSLITE;3NASHI;3ONU;3POKOJI;3RITSI;3SLOVO;3TVRIDO;3UKU;3FRITU;3HERU;@1E01B;3SHTA",
    ";3TSI;3CHRIVI;3SHA;3YERU;3YERI;3YATI;@1E023;3YU;3SMALL YUS;@1E026;3YO;3IOTATED SMALL YUS",
    ";3BIG YUS;3IOTATED BIG YUS;3FITA;@1E100;0NYIAKENG PUACHUE HMONG LETTER MA;4TSA;4NTA;4TA;4HA",
    ";4NA;4XA;4NKA;4CA;4LA;4SA;4ZA;4NCA;4NTSA;4KA;4DA;4NYA;4NRA;4VA;4NTXA;4TXA;4FA;4RA;4QA;4YA",
    ";4NQA;4PA;4XYA;4NPA;4DLA;4NPLA;4HAH;4MLA;4PLA;4GA;4RRA;4A;4AA;4I;4U;4O;4OO;4E;4EE;4W;@1E130",
    ";3TONE-B;3TONE-M;3TONE-J;3TONE-V;3TONE-S;3TONE-G;3TONE-D;3SIGN FOR PERSON;5THING;5LOCATION",
    ";5ANIMAL;5INVERTEBRATE;4XW XW;3SYLLABLE LENGTHENER;@1E140;3DIGIT ZERO;4ONE;4TWO;4THREE;4FOUR",
    ";4FIVE;4SIX;4SEVEN;4EIGHT;4NINE;@1E14E;3LOGOGRAM NYAJ;3CIRCLED CA;@1E290;0TOTO LETTER PA;2BA",
    ";2TA;2DA;2KA;2GA;2MA;2NA;2NGA;2SA;2CHA;2YA;2WA;2JA;2HA;2RA;2LA;2I;2BREATHY I;2IU;2BREATHY IU",
    ";2U;2E;2BREATHY E;2EO;2BREATHY EO;2O;2AE;2BREATHY AE;2A;1SIGN RISING TONE;@1E2C0",
    ";0WANCHO LETTER AA;2A;2BA;2CA;2DA;2GA;2YA;2PHA;2LA;2NA;2PA;2TA;2THA;2FA;2SA;2SHA;2JA;2ZA;2WA",
    ";2VA;2KA;2O;2AU;2RA;2MA;2KHA;2HA;2E;2I;2NGA;2U;2LLHA;2TSA;2TRA;2ONG;2AANG;2ANG;2ING;2ON;2EN",
    ";2AAN;2NYA;2UEN;2YIH;1TONE TUP;2TUPNI;2KOI;2KOINI;1DIGIT ZERO;2ONE;2TWO;2THREE;2FOUR;2FIVE",
    ";2SIX;2SEVEN;2EIGHT;2NINE;@1E2FF;1NGUN SIGN;@1E7E0;0ETHIOPIC SYLLABLE HHYA;2HHYU;2HHYI",
    ";2HHYAA;2HHYEE;2HHYE;2HHYO;@1E7E8;2GURAGE HHWA;2HHWI;2HHWEE;2HHWE;@1E7ED;2GURAGE MWI;3MWEE",
    ";@1E7F0;3QWI;3QWEE;3QWE;3BWI;3BWEE;3KWI;3KWEE;3KWE;3GWI;3GWEE;3GWE;3FWI;3FWEE;3PWI;3PWEE",
    ";@1E800;0MENDE KIKAKUI SYLLABLE M001 KI;3M002 KA;3M003 KU;3M065 KEE;3M095 KE;3M076 KOO",
    ";3M048 KO;3M179 KUA;3M004 WI;3M005 WA;3M006 WU;3M126 WEE;3M118 WE;3M114 WOO;3M045 WO",
    ";3M194 WUI;3M143 WEI;3M061 WVI;3M049 WVA;3M139 WVE;3M007 MIN;3M008 MAN;3M009 MUN;3M059 MEN",
    ";3M094 MON;3M154 MUAN;3M189 MUEN;3M010 BI;3M011 BA;3M012 BU;3M150 BEE;3M097 BE;3M103 BOO",
    ";3M138 BO;3M013 I;3M014 A;3M015 U;3M163 EE;3M100 E;3M165 OO;3M147 O;3M137 EI;3M131 IN",
    ";3M135 IN;3M195 AN;3M178 EN;3M019 SI;3M020 SA;3M021 SU;3M162 SEE;3M116 SE;3M136 SOO;3M079 SO",
    ";3M196 SIA;3M025 LI;3M026 LA;3M027 LU;3M084 LEE;3M073 LE;3M054 LOO;3M153 LO;3M110 LONG LE",
    ";3M016 DI;3M017 DA;3M018 DU;3M089 DEE;3M180 DOO;3M181 DO;3M022 TI;3M023 TA;3M024 TU",
    ";3M091 TEE;3M055 TE;3M104 TOO;3M069 TO;3M028 JI;3M029 JA;3M030 JU;3M157 JEE;3M113 JE",
    ";3M160 JOO;3M063 JO;3M175 LONG JO;3M031 YI;3M032 YA;3M033 YU;3M109 YEE;3M080 YE;3M141 YOO",
    ";3M121 YO;3M034 FI;3M035 FA;3M036 FU;3M078 FEE;3M075 FE;3M133 FOO;3M088 FO;3M197 FUA",
    ";3M101 FAN;3M037 NIN;3M038 NAN;3M039 NUN;3M117 NEN;3M169 NON;3M176 HI;3M041 HA;3M186 HU",
    ";3M040 HEE;3M096 HE;3M042 HOO;3M140 HO;3M083 HEEI;3M128 HOOU;3M053 HIN;3M130 HAN;3M087 HUN",
    ";3M052 HEN;3M193 HON;3M046 HUAN;3M090 NGGI;3M043 NGGA;3M082 NGGU;3M115 NGGEE;3M146 NGGE",
    ";3M156 NGGOO;3M120 NGGO;3M159 NGGAA;3M127 NGGUA;3M086 LONG NGGE;3M106 LONG NGGOO",
    ";3M183 LONG NGGO;3M155 GI;3M111 GA;3M168 GU;3M190 GEE;3M166 GUEI;3M167 GUAN;3M184 NGEN",
    ";3M057 NGON;3M177 NGUAN;3M068 PI;3M099 PA;3M050 PU;3M081 PEE;3M051 PE;3M102 POO;3M066 PO",
    ";3M145 MBI;3M062 MBA;3M122 MBU;3M047 MBEE;3M188 MBEE;3M072 MBE;3M172 MBOO;3M174 MBO",
    ";3M187 MBUU;3M161 LONG MBE;3M105 LONG MBOO;3M142 LONG MBO;3M132 KPI;3M092 KPA;3M074 KPU",
    ";3M044 KPEE;3M108 KPE;3M112 KPOO;3M158 KPO;3M124 GBI;3M056 GBA;3M148 GBU;3M093 GBEE",
    ";3M107 GBE;3M071 GBOO;3M070 GBO;3M171 RA;3M123 NDI;3M129 NDA;3M125 NDU;3M191 NDEE;3M119 NDE",
    ";3M067 NDOO;3M064 NDO;3M152 NJA;3M192 NJU;3M149 NJEE;3M134 NJOO;3M182 VI;3M185 VA;3M151 VU",
    ";3M173 VEE;3M085 VE;3M144 VOO;3M077 VO;3M164 NYIN;3M058 NYAN;3M170 NYUN;3M098 NYEN",
    ";3M060 NYON"],
   [";@1E8C7;2DIGIT ONE;3TWO;3THREE;3FOUR;3FIVE;3SIX;3SEVEN;3EIGHT;3NINE;2COMBINING NUMBER TEENS",
    ";4TENS;4HUNDREDS;4THOUSANDS;4TEN THOUSANDS;4HUNDRED THOUSANDS;4MILLIONS;@1E900",
    ";0ADLAM CAPITAL LETTER ALIF;3DAALI;3LAAM;3MIIM;3BA;3SINNYIIYHE;3PE;3BHE;3RA;3E;3FA;3I;3O",
    ";3DHA;3YHE;3WAW;3NUN;3KAF;3YA;3U;3JIIM;3CHI;3HA;3QAAF;3GA;3NYA;3TU;3NHA;3VA;3KHA;3GBE;3ZAL",
    ";3KPO;3SHA;1SMALL LETTER ALIF;3DAALI;3LAAM;3MIIM;3BA;3SINNYIIYHE;3PE;3BHE;3RA;3E;3FA;3I;3O",
    ";3DHA;3YHE;3WAW;3NUN;3KAF;3YA;3U;3JIIM;3CHI;3HA;3QAAF;3GA;3NYA;3TU;3NHA;3VA;3KHA;3GBE;3ZAL",
    ";3KPO;3SHA;1ALIF LENGTHENER;1VOWEL LENGTHENER;1GEMINATION MARK;1HAMZA;1CONSONANT MODIFIER",
    ";1GEMINATE CONSONANT MODIFIER;1NUKTA;1NASALIZATION MARK;@1E950;1DIGIT ZERO;2ONE;2TWO;2THREE",
    ";2FOUR;2FIVE;2SIX;2SEVEN;2EIGHT;2NINE;@1E95E;1INITIAL EXCLAMATION MARK;2QUESTION MARK;@1EC71",
    ";0INDIC SIYAQ NUMBER ONE;3TWO;3THREE;3FOUR;3FIVE;3SIX;3SEVEN;3EIGHT;3NINE;3TEN;3TWENTY",
    ";3THIRTY;3FORTY;3FIFTY;3SIXTY;3SEVENTY;3EIGHTY;3NINETY;3ONE HUNDRED;3TWO HUNDRED",
    ";3THREE HUNDRED;3FOUR HUNDRED;3FIVE HUNDRED;3SIX HUNDRED;3SEVEN HUNDRED;3EIGHT HUNDRED",
    ";3NINE HUNDRED;3ONE THOUSAND;3TWO THOUSAND;3THREE THOUSAND;3FOUR THOUSAND;3FIVE THOUSAND",
    ";3SIX THOUSAND;3SEVEN THOUSAND;3EIGHT THOUSAND;3NINE THOUSAND;3TEN THOUSAND;3TWENTY THOUSAND",
    ";3THIRTY THOUSAND;3FORTY THOUSAND;3FIFTY THOUSAND;3SIXTY THOUSAND;3SEVENTY THOUSAND",
    ";3EIGHTY THOUSAND;3NINETY THOUSAND;3LAKH;3LAKHAN;2LAKH MARK;2NUMBER KAROR;3KARORAN",
    ";3PREFIXED ONE;4TWO;4THREE;4FOUR;4FIVE;4SIX;4SEVEN;4EIGHT;4NINE;2PLACEHOLDER",
    ";2FRACTION ONE QUARTER;4HALF;3THREE QUARTERS;2RUPEE MARK;2NUMBER ALTERNATE ONE;4TWO",
    ";4TEN THOUSAND;2ALTERNATE LAKH MARK;@1ED01;0OTTOMAN SIYAQ NUMBER ONE;3TWO;3THREE;3FOUR;3FIVE",
    ";3SIX;3SEVEN;3EIGHT;3NINE;3TEN;3TWENTY;3THIRTY;3FORTY;3FIFTY;3SIXTY;3SEVENTY;3EIGHTY;3NINETY",
    ";3ONE HUNDRED;3TWO HUNDRED;3THREE HUNDRED;3FOUR HUNDRED;3FIVE HUNDRED;3SIX HUNDRED",
    ";3SEVEN HUNDRED;3EIGHT HUNDRED;3NINE HUNDRED;3ONE THOUSAND;3TWO THOUSAND;3THREE THOUSAND",
    ";3FOUR THOUSAND;3FIVE THOUSAND;3SIX THOUSAND;3SEVEN THOUSAND;3EIGHT THOUSAND;3NINE THOUSAND",
    ";3TEN THOUSAND;3TWENTY THOUSAND;3THIRTY THOUSAND;3FORTY THOUSAND;3FIFTY THOUSAND",
    ";3SIXTY THOUSAND;3SEVENTY THOUSAND;3EIGHTY THOUSAND;3NINETY THOUSAND;2MARRATAN",
    ";2ALTERNATE NUMBER TWO;4THREE;4FOUR;4FIVE;4SIX;4SEVEN;4EIGHT;4NINE;4TEN;4FOUR HUNDRED",
    ";4SIX HUNDRED;4TWO THOUSAND;4TEN THOUSAND;2FRACTION ONE HALF;4SIXTH;@1EE00",
    ";0ARABIC MATHEMATICAL ALEF;2BEH;2JEEM;2DAL;@1EE05;2WAW;2ZAIN;2HAH;2TAH;2YEH;2KAF;2LAM;2MEEM",
    ";2NOON;2SEEN;2AIN;2FEH;2SAD;2QAF;2REH;2SHEEN;2TEH;2THEH;2KHAH;2THAL;2DAD;2ZAH;2GHAIN",
    ";2DOTLESS BEH;3NOON;3FEH;3QAF;@1EE21;2INITIAL BEH;3JEEM;@1EE24;3HEH;@1EE27;3HAH;@1EE29;3YEH",
    ";3KAF;3LAM;3MEEM;3NOON;3SEEN;3AIN;3FEH;3SAD;3QAF;@1EE34;3SHEEN;3TEH;3THEH;3KHAH;@1EE39;3DAD",
    ";@1EE3B;3GHAIN;@1EE42;2TAILED JEEM;@1EE47;3HAH;@1EE49;3YEH;@1EE4B;3LAM;@1EE4D;3NOON;3SEEN",
    ";3AIN;@1EE51;3SAD;3QAF;@1EE54;3SHEEN;@1EE57;3KHAH;@1EE59;3DAD;@1EE5B;3GHAIN;@1EE5D",
    ";3DOTLESS NOON;@1EE5F;4QAF;@1EE61;2STRETCHED BEH;3JEEM;@1EE64;3HEH;@1EE67;3HAH;3TAH;3YEH",
    ";3KAF;@1EE6C;3MEEM;3NOON;3SEEN;3AIN;3FEH;3SAD;3QAF;@1EE74;3SHEEN;3TEH;3THEH;3KHAH;@1EE79",
    ";3DAD;3ZAH;3GHAIN;3DOTLESS BEH;@1EE7E;4FEH;@1EE80;2LOOPED ALEF;3BEH;3JEEM;3DAL;3HEH;3WAW",
    ";3ZAIN;3HAH;3TAH;3YEH;@1EE8B;3LAM;3MEEM;3NOON;3SEEN;3AIN;3FEH;3SAD;3QAF;3REH;3SHEEN;3TEH",
    ";3THEH;3KHAH;3THAL;3DAD;3ZAH;3GHAIN;@1EEA1;2DOUBLE-STRUCK BEH;3JEEM;3DAL;@1EEA5;3WAW;3ZAIN",
    ";3HAH;3TAH;3YEH;@1EEAB;3LAM;3MEEM;3NOON;3SEEN;3AIN;3FEH;3SAD;3QAF;3REH;3SHEEN;3TEH;3THEH",
    ";3KHAH;3THAL;3DAD;3ZAH;3GHAIN;@1EEF0;2OPERATOR MEEM WITH HAH WITH TATWEEL;3HAH WITH DAL",
    ";@1F000;0MAHJONG TILE EAST WIND;2SOUTH WIND;2WEST WIND;2NORTH WIND;2RED DRAGON;2GREEN DRAGON",
    ";2WHITE DRAGON;2ONE OF CHARACTERS;2TWO OF CHARACTERS;2THREE OF CHARACTERS",
    ";2FOUR OF CHARACTERS;2FIVE OF CHARACTERS;2SIX OF CHARACTERS;2SEVEN OF CHARACTERS",
    ";2EIGHT OF CHARACTERS;2NINE OF CHARACTERS;2ONE OF BAMBOOS;2TWO OF BAMBOOS;2THREE OF BAMBOOS",
    ";2FOUR OF BAMBOOS;2FIVE OF BAMBOOS;2SIX OF BAMBOOS;2SEVEN OF BAMBOOS;2EIGHT OF BAMBOOS",
    ";2NINE OF BAMBOOS;2ONE OF CIRCLES;2TWO OF CIRCLES;2THREE OF CIRCLES;2FOUR OF CIRCLES",
    ";2FIVE OF CIRCLES;2SIX OF CIRCLES;2SEVEN OF CIRCLES;2EIGHT OF CIRCLES;2NINE OF CIRCLES;2PLUM",
    ";2ORCHID;2BAMBOO;2CHRYSANTHEMUM;2SPRING;2SUMMER;2AUTUMN;2WINTER;2JOKER;2BACK"],
   [";@1F030;0DOMINO TILE HORIZONTAL BACK;2HORIZONTAL-00-00;2HORIZONTAL-00-01;2HORIZONTAL-00-02",
    ";2HORIZONTAL-00-03;2HORIZONTAL-00-04;2HORIZONTAL-00-05;2HORIZONTAL-00-06;2HORIZONTAL-01-00",
    ";2HORIZONTAL-01-01;2HORIZONTAL-01-02;2HORIZONTAL-01-03;2HORIZONTAL-01-04;2HORIZONTAL-01-05",
    ";2HORIZONTAL-01-06;2HORIZONTAL-02-00;2HORIZONTAL-02-01;2HORIZONTAL-02-02;2HORIZONTAL-02-03",
    ";2HORIZONTAL-02-04;2HORIZONTAL-02-05;2HORIZONTAL-02-06;2HORIZONTAL-03-00;2HORIZONTAL-03-01",
    ";2HORIZONTAL-03-02;2HORIZONTAL-03-03;2HORIZONTAL-03-04;2HORIZONTAL-03-05;2HORIZONTAL-03-06",
    ";2HORIZONTAL-04-00;2HORIZONTAL-04-01;2HORIZONTAL-04-02;2HORIZONTAL-04-03;2HORIZONTAL-04-04",
    ";2HORIZONTAL-04-05;2HORIZONTAL-04-06;2HORIZONTAL-05-00;2HORIZONTAL-05-01;2HORIZONTAL-05-02",
    ";2HORIZONTAL-05-03;2HORIZONTAL-05-04;2HORIZONTAL-05-05;2HORIZONTAL-05-06;2HORIZONTAL-06-00",
    ";2HORIZONTAL-06-01;2HORIZONTAL-06-02;2HORIZONTAL-06-03;2HORIZONTAL-06-04;2HORIZONTAL-06-05",
    ";2HORIZONTAL-06-06;2VERTICAL BACK;2VERTICAL-00-00;2VERTICAL-00-01;2VERTICAL-00-02",
    ";2VERTICAL-00-03;2VERTICAL-00-04;2VERTICAL-00-05;2VERTICAL-00-06;2VERTICAL-01-00",
    ";2VERTICAL-01-01;2VERTICAL-01-02;2VERTICAL-01-03;2VERTICAL-01-04;2VERTICAL-01-05",
    ";2VERTICAL-01-06;2VERTICAL-02-00;2VERTICAL-02-01;2VERTICAL-02-02;2VERTICAL-02-03",
    ";2VERTICAL-02-04;2VERTICAL-02-05;2VERTICAL-02-06;2VERTICAL-03-00;2VERTICAL-03-01",
    ";2VERTICAL-03-02;2VERTICAL-03-03;2VERTICAL-03-04;2VERTICAL-03-05;2VERTICAL-03-06",
    ";2VERTICAL-04-00;2VERTICAL-04-01;2VERTICAL-04-02;2VERTICAL-04-03;2VERTICAL-04-04",
    ";2VERTICAL-04-05;2VERTICAL-04-06;2VERTICAL-05-00;2VERTICAL-05-01;2VERTICAL-05-02",
    ";2VERTICAL-05-03;2VERTICAL-05-04;2VERTICAL-05-05;2VERTICAL-05-06;2VERTICAL-06-00",
    ";2VERTICAL-06-01;2VERTICAL-06-02;2VERTICAL-06-03;2VERTICAL-06-04;2VERTICAL-06-05",
    ";2VERTICAL-06-06;@1F0A0;0PLAYING CARD BACK;2ACE OF SPADES;2TWO OF SPADES;2THREE OF SPADES",
    ";2FOUR OF SPADES;2FIVE OF SPADES;2SIX OF SPADES;2SEVEN OF SPADES;2EIGHT OF SPADES",
    ";2NINE OF SPADES;2TEN OF SPADES;2JACK OF SPADES;2KNIGHT OF SPADES;2QUEEN OF SPADES",
    ";2KING OF SPADES;@1F0B1;2ACE OF HEARTS;2TWO OF HEARTS;2THREE OF HEARTS;2FOUR OF HEARTS",
    ";2FIVE OF HEARTS;2SIX OF HEARTS;2SEVEN OF HEARTS;2EIGHT OF HEARTS;2NINE OF HEARTS",
    ";2TEN OF HEARTS;2JACK OF HEARTS;2KNIGHT OF HEARTS;2QUEEN OF HEARTS;2KING OF HEARTS",
    ";2RED JOKER;@1F0C1;2ACE OF DIAMONDS;2TWO OF DIAMONDS;2THREE OF DIAMONDS;2FOUR OF DIAMONDS",
    ";2FIVE OF DIAMONDS;2SIX OF DIAMONDS;2SEVEN OF DIAMONDS;2EIGHT OF DIAMONDS;2NINE OF DIAMONDS",
    ";2TEN OF DIAMONDS;2JACK OF DIAMONDS;2KNIGHT OF DIAMONDS;2QUEEN OF DIAMONDS;2KING OF DIAMONDS",
    ";2BLACK JOKER;@1F0D1;2ACE OF CLUBS;2TWO OF CLUBS;2THREE OF CLUBS;2FOUR OF CLUBS",
    ";2FIVE OF CLUBS;2SIX OF CLUBS;2SEVEN OF CLUBS;2EIGHT OF CLUBS;2NINE OF CLUBS;2TEN OF CLUBS",
    ";2JACK OF CLUBS;2KNIGHT OF CLUBS;2QUEEN OF CLUBS;2KING OF CLUBS;2WHITE JOKER;2FOOL;2TRUMP-1",
    ";2TRUMP-2;2TRUMP-3;2TRUMP-4;2TRUMP-5;2TRUMP-6;2TRUMP-7;2TRUMP-8;2TRUMP-9;2TRUMP-10;2TRUMP-11",
    ";2TRUMP-12;2TRUMP-13;2TRUMP-14;2TRUMP-15;2TRUMP-16;2TRUMP-17;2TRUMP-18;2TRUMP-19;2TRUMP-20",
    ";2TRUMP-21;@1F100;0DIGIT ZERO FULL STOP;2COMMA;1ONE COMMA;1TWO COMMA;1THREE COMMA",
    ";1FOUR COMMA;1FIVE COMMA;1SIX COMMA;1SEVEN COMMA;1EIGHT COMMA;1NINE COMMA",
    ";0DINGBAT CIRCLED SANS-SERIF DIGIT ZERO;1NEGATIVE CIRCLED SANS-SERIF DIGIT ZERO",
    ";0CIRCLED ZERO WITH SLASH;1ANTICLOCKWISE ARROW;1DOLLAR SIGN WITH OVERLAID BACKSLASH",
    ";0PARENTHESIZED LATIN CAPITAL LETTER A;4B;4C;4D;4E;4F;4G;4H;4I;4J;4K;4L;4M;4N;4O;4P;4Q;4R;4S",
    ";4T;4U;4V;4W;4X;4Y;4Z;0TORTOISE SHELL BRACKETED LATIN CAPITAL LETTER S",
    ";0CIRCLED ITALIC LATIN CAPITAL LETTER C;5R;1CD;1WZ;0COPYLEFT SYMBOL",
    ";0SQUARED LATIN CAPITAL LETTER A;4B;4C;4D;4E;4F;4G;4H;4I;4J;4K;4L;4M;4N;4O;4P;4Q;4R;4S;4T;4U",
    ";4V;4W;4X;4Y;4Z;1HV;1MV;1SD;1SS;1PPV;1WC;0NEGATIVE CIRCLED LATIN CAPITAL LETTER A;5B;5C;5D",
    ";5E;5F;5G;5H;5I;5J;5K;5L;5M;5N;5O;5P;5Q;5R;5S;5T;5U;5V;5W;5X;5Y;5Z;0RAISED MC SIGN;1MD SIGN",
    ";1MR SIGN;0CIRCLED CC;1C WITH OVERLAID BACKSLASH;1HUMAN FIGURE",
    ";0NEGATIVE SQUARED LATIN CAPITAL LETTER A;5B;5C;5D;5E;5F;5G;5H;5I;5J;5K;5L;5M;5N;5O;5P;5Q;5R",
    ";5S;5T;5U;5V;5W;5X;5Y;5Z;0CROSSED NEGATIVE SQUARED LATIN CAPITAL LETTER P",
    ";0NEGATIVE SQUARED IC;2PA;2SA;2AB;2WC;0SQUARE DJ;0SQUARED CL;1COOL;1FREE;1ID;1NEW;1NG;1OK",
    ";1SOS;1UP WITH EXCLAMATION MARK;1VS;1THREE D;1SECOND SCREEN;1TWO K;1FOUR K;1EIGHT K",
    ";1FIVE POINT ONE;1SEVEN POINT ONE;1TWENTY-TWO POINT TWO;1SIXTY P;1ONE HUNDRED TWENTY P",
    ";1LATIN SMALL LETTER D;1HC;1HDR;1HI-RES;1LOSSLESS;1SHV;1UHD;1VOD;0MASK WORK SYMBOL"],
   [";@1F1E6;0REGIONAL INDICATOR SYMBOL LETTER A;4B;4C;4D;4E;4F;4G;4H;4I;4J;4K;4L;4M;4N;4O;4P;4Q",
    ";4R;4S;4T;4U;4V;4W;4X;4Y;4Z;0SQUARE HIRAGANA HOKA;0SQUARED KATAKANA KOKO;2SA;@1F210",
    ";1CJK UNIFIED IDEOGRAPH-624B;3IDEOGRAPH-5B57;3IDEOGRAPH-53CC;1KATAKANA DE",
    ";1CJK UNIFIED IDEOGRAPH-4E8C;3IDEOGRAPH-591A;3IDEOGRAPH-89E3;3IDEOGRAPH-5929;3IDEOGRAPH-4EA4",
    ";3IDEOGRAPH-6620;3IDEOGRAPH-7121;3IDEOGRAPH-6599;3IDEOGRAPH-524D;3IDEOGRAPH-5F8C",
    ";3IDEOGRAPH-518D;3IDEOGRAPH-65B0;3IDEOGRAPH-521D;3IDEOGRAPH-7D42;3IDEOGRAPH-751F",
    ";3IDEOGRAPH-8CA9;3IDEOGRAPH-58F0;3IDEOGRAPH-5439;3IDEOGRAPH-6F14;3IDEOGRAPH-6295",
    ";3IDEOGRAPH-6355;3IDEOGRAPH-4E00;3IDEOGRAPH-4E09;3IDEOGRAPH-904A;3IDEOGRAPH-5DE6",
    ";3IDEOGRAPH-4E2D;3IDEOGRAPH-53F3;3IDEOGRAPH-6307;3IDEOGRAPH-8D70;3IDEOGRAPH-6253",
    ";3IDEOGRAPH-7981;3IDEOGRAPH-7A7A;3IDEOGRAPH-5408;3IDEOGRAPH-6E80;3IDEOGRAPH-6709",
    ";3IDEOGRAPH-6708;3IDEOGRAPH-7533;3IDEOGRAPH-5272;3IDEOGRAPH-55B6;3IDEOGRAPH-914D;@1F240",
    ";0TORTOISE SHELL BRACKETED CJK UNIFIED IDEOGRAPH-672C;5IDEOGRAPH-4E09;5IDEOGRAPH-4E8C",
    ";5IDEOGRAPH-5B89;5IDEOGRAPH-70B9;5IDEOGRAPH-6253;5IDEOGRAPH-76D7;5IDEOGRAPH-52DD",
    ";5IDEOGRAPH-6557;@1F250;0CIRCLED IDEOGRAPH ADVANTAGE;2ACCEPT;@1F260;0ROUNDED SYMBOL FOR FU",
    ";3LU;3SHOU;3XI;3SHUANGXI;3CAI;@1F300;0CYCLONE;0FOGGY;0CLOSED UMBRELLA;0NIGHT WITH STARS",
    ";0SUNRISE OVER MOUNTAINS;0SUNRISE;0CITYSCAPE AT DUSK;0SUNSET OVER BUILDINGS;0RAINBOW",
    ";0BRIDGE AT NIGHT;0WATER WAVE;0VOLCANO;0MILKY WAY;0EARTH GLOBE EUROPE-AFRICA;2AMERICAS",
    ";2ASIA-AUSTRALIA;0GLOBE WITH MERIDIANS;0NEW MOON SYMBOL;0WAXING CRESCENT MOON SYMBOL",
    ";0FIRST QUARTER MOON SYMBOL;0WAXING GIBBOUS MOON SYMBOL;0FULL MOON SYMBOL",
    ";0WANING GIBBOUS MOON SYMBOL;0LAST QUARTER MOON SYMBOL;0WANING CRESCENT MOON SYMBOL",
    ";0CRESCENT MOON;0NEW MOON WITH FACE;0FIRST QUARTER MOON WITH FACE",
    ";0LAST QUARTER MOON WITH FACE;0FULL MOON WITH FACE;0SUN WITH FACE;0GLOWING STAR",
    ";0SHOOTING STAR;0THERMOMETER;0BLACK DROPLET;0WHITE SUN;2WITH SMALL CLOUD;2BEHIND CLOUD",
    ";4WITH RAIN;0CLOUD WITH RAIN;2SNOW;2LIGHTNING;2TORNADO;0FOG;0WIND BLOWING FACE;0HOT DOG",
    ";0TACO;0BURRITO;0CHESTNUT;0SEEDLING;0EVERGREEN TREE;0DECIDUOUS TREE;0PALM TREE;0CACTUS",
    ";0HOT PEPPER;0TULIP;0CHERRY BLOSSOM;0ROSE;0HIBISCUS;0SUNFLOWER;0BLOSSOM;0EAR OF MAIZE;2RICE",
    ";0HERB;0FOUR LEAF CLOVER;0MAPLE LEAF;0FALLEN LEAF;0LEAF FLUTTERING IN WIND;0MUSHROOM;0TOMATO",
    ";0AUBERGINE;0GRAPES;0MELON;0WATERMELON;0TANGERINE;0LEMON;0BANANA;0PINEAPPLE;0RED APPLE",
    ";0GREEN APPLE;0PEAR;0PEACH;0CHERRIES;0STRAWBERRY;0HAMBURGER;0SLICE OF PIZZA;0MEAT ON BONE",
    ";0POULTRY LEG;0RICE CRACKER;1BALL;0COOKED RICE;0CURRY AND RICE;0STEAMING BOWL;0SPAGHETTI",
    ";0BREAD;0FRENCH FRIES;0ROASTED SWEET POTATO;0DANGO;0ODEN;0SUSHI;0FRIED SHRIMP",
    ";0FISH CAKE WITH SWIRL DESIGN;0SOFT ICE CREAM;0SHAVED ICE;0ICE CREAM;0DOUGHNUT;0COOKIE",
    ";0CHOCOLATE BAR;0CANDY;0LOLLIPOP;0CUSTARD;0HONEY POT;0SHORTCAKE;0BENTO BOX;0POT OF FOOD",
    ";0COOKING;0FORK AND KNIFE;0TEACUP WITHOUT HANDLE;0SAKE BOTTLE AND CUP;0WINE GLASS",
    ";0COCKTAIL GLASS;0TROPICAL DRINK;0BEER MUG;0CLINKING BEER MUGS;0BABY BOTTLE",
    ";0FORK AND KNIFE WITH PLATE;0BOTTLE WITH POPPING CORK;0POPCORN;0RIBBON;0WRAPPED PRESENT",
    ";0BIRTHDAY CAKE;0JACK-O-LANTERN;0CHRISTMAS TREE;0FATHER CHRISTMAS;0FIREWORKS",
    ";0FIREWORK SPARKLER;0BALLOON;0PARTY POPPER;0CONFETTI BALL;0TANABATA TREE;0CROSSED FLAGS",
    ";0PINE DECORATION;0JAPANESE DOLLS;0CARP STREAMER;0WIND CHIME;0MOON VIEWING CEREMONY",
    ";0SCHOOL SATCHEL;0GRADUATION CAP;0HEART WITH TIP ON THE LEFT;0BOUQUET OF FLOWERS",
    ";0MILITARY MEDAL;0REMINDER RIBBON;0MUSICAL KEYBOARD WITH JACKS;0STUDIO MICROPHONE",
    ";0LEVEL SLIDER;0CONTROL KNOBS;0BEAMED ASCENDING MUSICAL NOTES;1DESCENDING MUSICAL NOTES",
    ";0FILM FRAMES;0ADMISSION TICKETS;0CAROUSEL HORSE;0FERRIS WHEEL;0ROLLER COASTER",
    ";0FISHING POLE AND FISH;0MICROPHONE;0MOVIE CAMERA;0CINEMA;0HEADPHONE;0ARTIST PALETTE",
    ";0TOP HAT;0CIRCUS TENT;0TICKET;0CLAPPER BOARD;0PERFORMING ARTS;0VIDEO GAME;0DIRECT HIT",
    ";0SLOT MACHINE;0BILLIARDS;0GAME DIE;0BOWLING;0FLOWER PLAYING CARDS;0MUSICAL NOTE",
    ";0MULTIPLE MUSICAL NOTES;0SAXOPHONE;0GUITAR;0MUSICAL KEYBOARD;0TRUMPET;0VIOLIN",
    ";0MUSICAL SCORE;0RUNNING SHIRT WITH SASH;0TENNIS RACQUET AND BALL;0SKI AND SKI BOOT",
    ";0BASKETBALL AND HOOP;0CHEQUERED FLAG;0SNOWBOARDER;0RUNNER;0SURFER;0SPORTS MEDAL;0TROPHY",
    ";0HORSE RACING;0AMERICAN FOOTBALL;0RUGBY FOOTBALL;0SWIMMER;0WEIGHT LIFTER;0GOLFER",
    ";0RACING MOTORCYCLE;1CAR;0CRICKET BAT AND BALL;0VOLLEYBALL;0FIELD HOCKEY STICK AND BALL",
    ";0ICE HOCKEY STICK AND PUCK;0TABLE TENNIS PADDLE AND BALL;0SNOW CAPPED MOUNTAIN;0CAMPING",
    ";0BEACH WITH UMBRELLA;0BUILDING CONSTRUCTION;0HOUSE BUILDINGS;0CITYSCAPE",
    ";0DERELICT HOUSE BUILDING;0CLASSICAL BUILDING;0DESERT;1ISLAND;0NATIONAL PARK;0STADIUM",
    ";0HOUSE BUILDING;1WITH GARDEN;0OFFICE BUILDING;0JAPANESE POST OFFICE;0EUROPEAN POST OFFICE",
    ";0HOSPITAL;0BANK;0AUTOMATED TELLER MACHINE;0HOTEL;0LOVE HOTEL;0CONVENIENCE STORE;0SCHOOL",
    ";0DEPARTMENT STORE;0FACTORY;0IZAKAYA LANTERN;0JAPANESE CASTLE;0EUROPEAN CASTLE",
    ";0WHITE PENNANT;0BLACK PENNANT;0WAVING WHITE FLAG;1BLACK FLAG;0ROSETTE;0BLACK ROSETTE;0LABEL",
    ";0BADMINTON RACQUET AND SHUTTLECOCK;0BOW AND ARROW;0AMPHORA",
    ";0EMOJI MODIFIER FITZPATRICK TYPE-1-2;3TYPE-3;3TYPE-4;3TYPE-5;3TYPE-6;0RAT;0MOUSE;0OX",
    ";0WATER BUFFALO"],
   [";0COW;0TIGER;0LEOPARD;0RABBIT;0CAT;0DRAGON;0CROCODILE;0WHALE;0SNAIL;0SNAKE;0HORSE;0RAM;0GOAT",
    ";0SHEEP;0MONKEY;0ROOSTER;0CHICKEN;0DOG;0PIG;0BOAR;0ELEPHANT;0OCTOPUS;0SPIRAL SHELL;0BUG;0ANT",
    ";0HONEYBEE;0LADY BEETLE;0FISH;0TROPICAL FISH;0BLOWFISH;0TURTLE;0HATCHING CHICK;0BABY CHICK",
    ";0FRONT-FACING BABY CHICK;0BIRD;0PENGUIN;0KOALA;0POODLE;0DROMEDARY CAMEL;0BACTRIAN CAMEL",
    ";0DOLPHIN;0MOUSE FACE;0COW FACE;0TIGER FACE;0RABBIT FACE;0CAT FACE;0DRAGON FACE",
    ";0SPOUTING WHALE;0HORSE FACE;0MONKEY FACE;0DOG FACE;0PIG FACE;0FROG FACE;0HAMSTER FACE",
    ";0WOLF FACE;0BEAR FACE;0PANDA FACE;0PIG NOSE;0PAW PRINTS;0CHIPMUNK;0EYES;0EYE;0EAR;0NOSE",
    ";0MOUTH;0TONGUE;0WHITE UP POINTING BACKHAND INDEX;1DOWN POINTING BACKHAND INDEX",
    ";1LEFT POINTING BACKHAND INDEX;1RIGHT POINTING BACKHAND INDEX;0FISTED HAND SIGN",
    ";0WAVING HAND SIGN;0OK HAND SIGN;0THUMBS UP SIGN;1DOWN SIGN;0CLAPPING HANDS SIGN",
    ";0OPEN HANDS SIGN;0CROWN;0WOMANS HAT;0EYEGLASSES;0NECKTIE;0T-SHIRT;0JEANS;0DRESS;0KIMONO",
    ";0BIKINI;0WOMANS CLOTHES;0PURSE;0HANDBAG;0POUCH;0MANS SHOE;0ATHLETIC SHOE;0HIGH-HEELED SHOE",
    ";0WOMANS SANDAL;1BOOTS;0FOOTPRINTS;0BUST IN SILHOUETTE;0BUSTS IN SILHOUETTE;0BOY;0GIRL;0MAN",
    ";0WOMAN;0FAMILY;0MAN AND WOMAN HOLDING HANDS;0TWO MEN HOLDING HANDS;1WOMEN HOLDING HANDS",
    ";0POLICE OFFICER;0WOMAN WITH BUNNY EARS;0BRIDE WITH VEIL;0PERSON WITH BLOND HAIR",
    ";0MAN WITH GUA PI MAO;2TURBAN;0OLDER MAN;1WOMAN;0BABY;0CONSTRUCTION WORKER;0PRINCESS",
    ";0JAPANESE OGRE;1GOBLIN;0GHOST;0BABY ANGEL;0EXTRATERRESTRIAL ALIEN;0ALIEN MONSTER;0IMP",
    ";0SKULL;0INFORMATION DESK PERSON;0GUARDSMAN;0DANCER;0LIPSTICK;0NAIL POLISH;0FACE MASSAGE",
    ";0HAIRCUT;0BARBER POLE;0SYRINGE;0PILL;0KISS MARK;0LOVE LETTER;0RING;0GEM STONE;0KISS",
    ";0BOUQUET;0COUPLE WITH HEART;0WEDDING;0BEATING HEART;0BROKEN HEART;0TWO HEARTS",
    ";0SPARKLING HEART;0GROWING HEART;0HEART WITH ARROW;0BLUE HEART;0GREEN HEART;0YELLOW HEART",
    ";0PURPLE HEART;0HEART WITH RIBBON;0REVOLVING HEARTS;0HEART DECORATION",
    ";0DIAMOND SHAPE WITH A DOT INSIDE;0ELECTRIC LIGHT BULB;0ANGER SYMBOL;0BOMB;0SLEEPING SYMBOL",
    ";0COLLISION SYMBOL;0SPLASHING SWEAT SYMBOL;0DROPLET;0DASH SYMBOL;0PILE OF POO;0FLEXED BICEPS",
    ";0DIZZY SYMBOL;0SPEECH BALLOON;0THOUGHT BALLOON;0WHITE FLOWER;0HUNDRED POINTS SYMBOL",
    ";0MONEY BAG;0CURRENCY EXCHANGE;0HEAVY DOLLAR SIGN;0CREDIT CARD;0BANKNOTE WITH YEN SIGN",
    ";2DOLLAR SIGN;2EURO SIGN;2POUND SIGN;0MONEY WITH WINGS",
    ";0CHART WITH UPWARDS TREND AND YEN SIGN;0SEAT;0PERSONAL COMPUTER;0BRIEFCASE;0MINIDISC",
    ";0FLOPPY DISK;0OPTICAL DISC;0DVD;0FILE FOLDER;0OPEN FILE FOLDER;0PAGE WITH CURL;1FACING UP",
    ";0CALENDAR;0TEAR-OFF CALENDAR;0CARD INDEX;0CHART WITH UPWARDS TREND;2DOWNWARDS TREND",
    ";0BAR CHART;0CLIPBOARD;0PUSHPIN;0ROUND PUSHPIN;0PAPERCLIP;0STRAIGHT RULER;0TRIANGULAR RULER",
    ";0BOOKMARK TABS;0LEDGER;0NOTEBOOK;1WITH DECORATIVE COVER;0CLOSED BOOK;0OPEN BOOK;0GREEN BOOK",
    ";0BLUE BOOK;0ORANGE BOOK;0BOOKS;0NAME BADGE;0SCROLL;0MEMO;0TELEPHONE RECEIVER;0PAGER",
    ";0FAX MACHINE;0SATELLITE ANTENNA;0PUBLIC ADDRESS LOUDSPEAKER;0CHEERING MEGAPHONE",
    ";0OUTBOX TRAY;0INBOX TRAY;0PACKAGE;0E-MAIL SYMBOL;0INCOMING ENVELOPE",
    ";0ENVELOPE WITH DOWNWARDS ARROW ABOVE;0CLOSED MAILBOX WITH LOWERED FLAG;3RAISED FLAG",
    ";0OPEN MAILBOX WITH RAISED FLAG;3LOWERED FLAG;0POSTBOX;0POSTAL HORN;0NEWSPAPER;0MOBILE PHONE",
    ";2WITH RIGHTWARDS ARROW AT LEFT;0VIBRATION MODE;0MOBILE PHONE OFF;0NO MOBILE PHONES",
    ";0ANTENNA WITH BARS;0CAMERA;1WITH FLASH;0VIDEO CAMERA;0TELEVISION;0RADIO;0VIDEOCASSETTE",
    ";0FILM PROJECTOR;0PORTABLE STEREO;0PRAYER BEADS;0TWISTED RIGHTWARDS ARROWS",
    ";0CLOCKWISE RIGHTWARDS AND LEFTWARDS OPEN CIRCLE ARROWS;7WITH CIRCLED ONE OVERLAY",
    ";1DOWNWARDS AND UPWARDS OPEN CIRCLE ARROWS",
    ";0ANTICLOCKWISE DOWNWARDS AND UPWARDS OPEN CIRCLE ARROWS;0LOW BRIGHTNESS SYMBOL",
    ";0HIGH BRIGHTNESS SYMBOL;0SPEAKER WITH CANCELLATION STROKE;0SPEAKER;1WITH ONE SOUND WAVE",
    ";2THREE SOUND WAVES;0BATTERY;0ELECTRIC PLUG;0LEFT-POINTING MAGNIFYING GLASS",
    ";0RIGHT-POINTING MAGNIFYING GLASS;0LOCK WITH INK PEN;0CLOSED LOCK WITH KEY;0KEY;0LOCK",
    ";0OPEN LOCK;0BELL;1WITH CANCELLATION STROKE;0BOOKMARK;0LINK SYMBOL;0RADIO BUTTON",
    ";0BACK WITH LEFTWARDS ARROW ABOVE;0END WITH LEFTWARDS ARROW ABOVE",
    ";0ON WITH EXCLAMATION MARK WITH LEFT RIGHT ARROW ABOVE;0SOON WITH RIGHTWARDS ARROW ABOVE",
    ";0TOP WITH UPWARDS ARROW ABOVE;0NO ONE UNDER EIGHTEEN SYMBOL;0KEYCAP TEN",
    ";0INPUT SYMBOL FOR LATIN CAPITAL LETTERS;4SMALL LETTERS;3NUMBERS;3SYMBOLS;3LATIN LETTERS",
    ";0FIRE;0ELECTRIC TORCH;0WRENCH;0HAMMER;0NUT AND BOLT;0HOCHO;0PISTOL;0MICROSCOPE;0TELESCOPE",
    ";0CRYSTAL BALL;0SIX POINTED STAR WITH MIDDLE DOT;0JAPANESE SYMBOL FOR BEGINNER",
    ";0TRIDENT EMBLEM;0BLACK SQUARE BUTTON;0WHITE SQUARE BUTTON;0LARGE RED CIRCLE;1BLUE CIRCLE",
    ";1ORANGE DIAMOND;1BLUE DIAMOND;0SMALL ORANGE DIAMOND;1BLUE DIAMOND;0UP-POINTING RED TRIANGLE",
    ";0DOWN-POINTING RED TRIANGLE;0UP-POINTING SMALL RED TRIANGLE",
    ";0DOWN-POINTING SMALL RED TRIANGLE;0LOWER RIGHT SHADOWED WHITE CIRCLE",
    ";0UPPER RIGHT SHADOWED WHITE CIRCLE;0CIRCLED CROSS POMMEE",
    ";0CROSS POMMEE WITH HALF-CIRCLE BELOW;1POMMEE;0NOTCHED LEFT SEMICIRCLE WITH THREE DOTS",
    ";1RIGHT SEMICIRCLE WITH THREE DOTS;0SYMBOL FOR MARKS CHAPTER;0WHITE LATIN CROSS",
    ";0HEAVY LATIN CROSS"],
   [";0CELTIC CROSS;0OM SYMBOL;0DOVE OF PEACE;0KAABA;0MOSQUE;0SYNAGOGUE",
    ";0MENORAH WITH NINE BRANCHES;0BOWL OF HYGIEIA;0CLOCK FACE ONE OCLOCK;2TWO OCLOCK",
    ";2THREE OCLOCK;2FOUR OCLOCK;2FIVE OCLOCK;2SIX OCLOCK;2SEVEN OCLOCK;2EIGHT OCLOCK",
    ";2NINE OCLOCK;2TEN OCLOCK;2ELEVEN OCLOCK;2TWELVE OCLOCK;2ONE-THIRTY;2TWO-THIRTY",
    ";2THREE-THIRTY;2FOUR-THIRTY;2FIVE-THIRTY;2SIX-THIRTY;2SEVEN-THIRTY;2EIGHT-THIRTY",
    ";2NINE-THIRTY;2TEN-THIRTY;2ELEVEN-THIRTY;2TWELVE-THIRTY;0RIGHT SPEAKER;2WITH ONE SOUND WAVE",
    ";3THREE SOUND WAVES;0BULLHORN;1WITH SOUND WAVES;0RINGING BELL;0BOOK;0CANDLE",
    ";0MANTELPIECE CLOCK;0BLACK SKULL AND CROSSBONES;0NO PIRACY;0HOLE",
    ";0MAN IN BUSINESS SUIT LEVITATING;0SLEUTH OR SPY;0DARK SUNGLASSES;0SPIDER;1WEB;0JOYSTICK",
    ";0MAN DANCING;0LEFT HAND TELEPHONE RECEIVER;0TELEPHONE RECEIVER WITH PAGE",
    ";0RIGHT HAND TELEPHONE RECEIVER;0WHITE TOUCHTONE TELEPHONE;0BLACK TOUCHTONE TELEPHONE",
    ";0TELEPHONE ON TOP OF MODEM;0CLAMSHELL MOBILE PHONE;0BACK OF ENVELOPE;0STAMPED ENVELOPE",
    ";0ENVELOPE WITH LIGHTNING;0FLYING ENVELOPE;0PEN OVER STAMPED ENVELOPE;0LINKED PAPERCLIPS",
    ";0BLACK PUSHPIN;0LOWER LEFT PENCIL;2BALLPOINT PEN;2FOUNTAIN PEN;2PAINTBRUSH;2CRAYON",
    ";0LEFT WRITING HAND;0TURNED OK HAND SIGN;0RAISED HAND WITH FINGERS SPLAYED",
    ";0REVERSED RAISED HAND WITH FINGERS SPLAYED;1THUMBS UP SIGN;2DOWN SIGN;1VICTORY HAND",
    ";1HAND WITH MIDDLE FINGER EXTENDED;0RAISED HAND WITH PART BETWEEN MIDDLE AND RING FINGERS",
    ";0WHITE DOWN POINTING LEFT HAND INDEX;0SIDEWAYS WHITE LEFT POINTING INDEX",
    ";2RIGHT POINTING INDEX;1BLACK LEFT POINTING INDEX;2RIGHT POINTING INDEX",
    ";0BLACK LEFT POINTING BACKHAND INDEX;1RIGHT POINTING BACKHAND INDEX",
    ";0SIDEWAYS WHITE UP POINTING INDEX;2DOWN POINTING INDEX;1BLACK UP POINTING INDEX",
    ";2DOWN POINTING INDEX;0BLACK UP POINTING BACKHAND INDEX;1DOWN POINTING BACKHAND INDEX;1HEART",
    ";0DESKTOP COMPUTER;0KEYBOARD AND MOUSE;0THREE NETWORKED COMPUTERS;0PRINTER",
    ";0POCKET CALCULATOR;0BLACK HARD SHELL FLOPPY DISK;0WHITE HARD SHELL FLOPPY DISK",
    ";0SOFT SHELL FLOPPY DISK;0TAPE CARTRIDGE;0WIRED KEYBOARD;0ONE BUTTON MOUSE;0TWO BUTTON MOUSE",
    ";0THREE BUTTON MOUSE;0TRACKBALL;0OLD PERSONAL COMPUTER;0HARD DISK;0SCREEN;0PRINTER ICON",
    ";0FAX ICON;0OPTICAL DISC ICON;0DOCUMENT WITH TEXT;3AND PICTURE;2PICTURE;0FRAME WITH PICTURE",
    ";2TILES;2AN X;0BLACK FOLDER;0FOLDER;0OPEN FOLDER;0CARD INDEX DIVIDERS;1FILE BOX",
    ";0FILE CABINET;0EMPTY NOTE;2PAGE;2PAD;0NOTE;1PAGE;1PAD;0EMPTY DOCUMENT;1PAGE;1PAGES",
    ";0DOCUMENT;0PAGE;0PAGES;0WASTEBASKET;0SPIRAL NOTE PAD;1CALENDAR PAD;0DESKTOP WINDOW",
    ";0MINIMIZE;0MAXIMIZE;0OVERLAP;0CLOCKWISE RIGHT AND LEFT SEMICIRCLE ARROWS;0CANCELLATION X",
    ";0INCREASE FONT SIZE SYMBOL;0DECREASE FONT SIZE SYMBOL;0COMPRESSION;0OLD KEY",
    ";0ROLLED-UP NEWSPAPER;0PAGE WITH CIRCLED TEXT;0STOCK CHART;0DAGGER KNIFE;0LIPS",
    ";0SPEAKING HEAD IN SILHOUETTE;0THREE RAYS ABOVE;2BELOW;2LEFT;2RIGHT;0LEFT SPEECH BUBBLE",
    ";0RIGHT SPEECH BUBBLE;0TWO SPEECH BUBBLES;0THREE SPEECH BUBBLES;0LEFT THOUGHT BUBBLE",
    ";0RIGHT THOUGHT BUBBLE;0LEFT ANGER BUBBLE;0RIGHT ANGER BUBBLE;0MOOD BUBBLE",
    ";0LIGHTNING MOOD BUBBLE;1MOOD;0BALLOT BOX WITH BALLOT;1SCRIPT X;1BOX WITH SCRIPT X",
    ";1BOLD SCRIPT X;1BOX WITH BOLD SCRIPT X;0LIGHT CHECK MARK;0BALLOT BOX WITH BOLD CHECK",
    ";0WORLD MAP;0MOUNT FUJI;0TOKYO TOWER;0STATUE OF LIBERTY;0SILHOUETTE OF JAPAN;0MOYAI",
    ";0GRINNING FACE;2WITH SMILING EYES;0FACE WITH TEARS OF JOY;0SMILING FACE WITH OPEN MOUTH",
    ";5AND SMILING EYES;6COLD SWEAT;6TIGHTLY-CLOSED EYES;3HALO;3HORNS;0WINKING FACE",
    ";0SMILING FACE WITH SMILING EYES;0FACE SAVOURING DELICIOUS FOOD;0RELIEVED FACE",
    ";0SMILING FACE WITH HEART-SHAPED EYES;3SUNGLASSES;0SMIRKING FACE;0NEUTRAL FACE",
    ";0EXPRESSIONLESS FACE;0UNAMUSED FACE;0FACE WITH COLD SWEAT;0PENSIVE FACE;0CONFUSED FACE",
    ";0CONFOUNDED FACE;0KISSING FACE;0FACE THROWING A KISS;0KISSING FACE WITH SMILING EYES",
    ";3CLOSED EYES;0FACE WITH STUCK-OUT TONGUE;4AND WINKING EYE;5TIGHTLY-CLOSED EYES",
    ";0DISAPPOINTED FACE;0WORRIED FACE;0ANGRY FACE;0POUTING FACE;0CRYING FACE;0PERSEVERING FACE",
    ";0FACE WITH LOOK OF TRIUMPH;0DISAPPOINTED BUT RELIEVED FACE;0FROWNING FACE WITH OPEN MOUTH",
    ";0ANGUISHED FACE;0FEARFUL FACE;0WEARY FACE;0SLEEPY FACE;0TIRED FACE;0GRIMACING FACE",
    ";0LOUDLY CRYING FACE;0FACE WITH OPEN MOUTH;0HUSHED FACE;0FACE WITH OPEN MOUTH AND COLD SWEAT",
    ";1SCREAMING IN FEAR;0ASTONISHED FACE;0FLUSHED FACE;0SLEEPING FACE;0DIZZY FACE",
    ";0FACE WITHOUT MOUTH;1WITH MEDICAL MASK;0GRINNING CAT FACE WITH SMILING EYES",
    ";0CAT FACE WITH TEARS OF JOY;0SMILING CAT FACE WITH OPEN MOUTH;4HEART-SHAPED EYES",
    ";0CAT FACE WITH WRY SMILE;0KISSING CAT FACE WITH CLOSED EYES;0POUTING CAT FACE",
    ";0CRYING CAT FACE;0WEARY CAT FACE;0SLIGHTLY FROWNING FACE;1SMILING FACE;0UPSIDE-DOWN FACE",
    ";0FACE WITH ROLLING EYES;2NO GOOD GESTURE;2OK GESTURE;0PERSON BOWING DEEPLY",
    ";0SEE-NO-EVIL MONKEY;0HEAR-NO-EVIL MONKEY;0SPEAK-NO-EVIL MONKEY",
    ";0HAPPY PERSON RAISING ONE HAND;0PERSON RAISING BOTH HANDS IN CELEBRATION;1FROWNING",
    ";1WITH POUTING FACE;2FOLDED HANDS;0NORTH WEST POINTING LEAF;0SOUTH WEST POINTING LEAF",
    ";0NORTH EAST POINTING LEAF;0SOUTH EAST POINTING LEAF;0TURNED NORTH WEST POINTING LEAF",
    ";1SOUTH WEST POINTING LEAF"],
   [";1NORTH EAST POINTING LEAF;1SOUTH EAST POINTING LEAF;0NORTH WEST POINTING VINE LEAF",
    ";0SOUTH WEST POINTING VINE LEAF;0NORTH EAST POINTING VINE LEAF",
    ";0SOUTH EAST POINTING VINE LEAF;0HEAVY NORTH WEST POINTING VINE LEAF",
    ";1SOUTH WEST POINTING VINE LEAF;1NORTH EAST POINTING VINE LEAF",
    ";1SOUTH EAST POINTING VINE LEAF;0NORTH WEST POINTING BUD;0SOUTH WEST POINTING BUD",
    ";0NORTH EAST POINTING BUD;0SOUTH EAST POINTING BUD;0HEAVY NORTH WEST POINTING BUD",
    ";1SOUTH WEST POINTING BUD;1NORTH EAST POINTING BUD;1SOUTH EAST POINTING BUD",
    ";0HOLLOW QUILT SQUARE ORNAMENT;4IN BLACK SQUARE;0SOLID QUILT SQUARE ORNAMENT",
    ";4IN BLACK SQUARE;0LEFTWARDS ROCKET;0UPWARDS ROCKET;0RIGHTWARDS ROCKET;0DOWNWARDS ROCKET",
    ";0SCRIPT LIGATURE ET ORNAMENT;0HEAVY SCRIPT LIGATURE ET ORNAMENT;0LIGATURE OPEN ET ORNAMENT",
    ";0HEAVY LIGATURE OPEN ET ORNAMENT;1AMPERSAND ORNAMENT;0SWASH AMPERSAND ORNAMENT",
    ";0SANS-SERIF HEAVY DOUBLE TURNED COMMA QUOTATION MARK ORNAMENT",
    ";3COMMA QUOTATION MARK ORNAMENT;2LOW DOUBLE COMMA QUOTATION MARK ORNAMENT",
    ";0HEAVY INTERROBANG ORNAMENT;0SANS-SERIF INTERROBANG ORNAMENT",
    ";0HEAVY SANS-SERIF INTERROBANG ORNAMENT;0VERY HEAVY SOLIDUS;2REVERSE SOLIDUS;0CHECKER BOARD",
    ";0REVERSE CHECKER BOARD;0ROCKET;0HELICOPTER;0STEAM LOCOMOTIVE;0RAILWAY CAR;0HIGH-SPEED TRAIN",
    ";2WITH BULLET NOSE;0TRAIN;0METRO;0LIGHT RAIL;0STATION;0TRAM;1CAR;0BUS;0ONCOMING BUS",
    ";0TROLLEYBUS;0BUS STOP;0MINIBUS;0AMBULANCE;0FIRE ENGINE;0POLICE CAR;0ONCOMING POLICE CAR",
    ";0TAXI;0ONCOMING TAXI;0AUTOMOBILE;0ONCOMING AUTOMOBILE;0RECREATIONAL VEHICLE;0DELIVERY TRUCK",
    ";0ARTICULATED LORRY;0TRACTOR;0MONORAIL;0MOUNTAIN RAILWAY;0SUSPENSION RAILWAY",
    ";0MOUNTAIN CABLEWAY;0AERIAL TRAMWAY;0SHIP;0ROWBOAT;0SPEEDBOAT;0HORIZONTAL TRAFFIC LIGHT",
    ";0VERTICAL TRAFFIC LIGHT;0CONSTRUCTION SIGN;0POLICE CARS REVOLVING LIGHT",
    ";0TRIANGULAR FLAG ON POST;0DOOR;0NO ENTRY SIGN;0SMOKING SYMBOL;0NO SMOKING SYMBOL",
    ";0PUT LITTER IN ITS PLACE SYMBOL;0DO NOT LITTER SYMBOL;0POTABLE WATER SYMBOL",
    ";0NON-POTABLE WATER SYMBOL;0BICYCLE;0NO BICYCLES;0BICYCLIST;0MOUNTAIN BICYCLIST;0PEDESTRIAN",
    ";0NO PEDESTRIANS;0CHILDREN CROSSING;0MENS SYMBOL;0WOMENS SYMBOL;0RESTROOM;0BABY SYMBOL",
    ";0TOILET;0WATER CLOSET;0SHOWER;0BATH;0BATHTUB;0PASSPORT CONTROL;0CUSTOMS;0BAGGAGE CLAIM",
    ";0LEFT LUGGAGE;0TRIANGLE WITH ROUNDED CORNERS;0PROHIBITED SIGN;0CIRCLED INFORMATION SOURCE",
    ";0BOYS SYMBOL;0GIRLS SYMBOL;0COUCH AND LAMP;0SLEEPING ACCOMMODATION;0SHOPPING BAGS",
    ";0BELLHOP BELL;0BED;0PLACE OF WORSHIP;0OCTAGONAL SIGN;0SHOPPING TROLLEY;0STUPA;0PAGODA",
    ";0HINDU TEMPLE;0HUT;0ELEVATOR;@1F6DD;0PLAYGROUND SLIDE;0WHEEL;0RING BUOY;0HAMMER AND WRENCH",
    ";0SHIELD;0OIL DRUM;0MOTORWAY;0RAILWAY TRACK;0MOTOR BOAT;0UP-POINTING MILITARY AIRPLANE",
    ";1AIRPLANE;1SMALL AIRPLANE;0SMALL AIRPLANE;0NORTHEAST-POINTING AIRPLANE;0AIRPLANE DEPARTURE",
    ";1ARRIVING;@1F6F0;0SATELLITE;0ONCOMING FIRE ENGINE;0DIESEL LOCOMOTIVE;0PASSENGER SHIP",
    ";0SCOOTER;0MOTOR SCOOTER;0CANOE;0SLED;0FLYING SAUCER;0SKATEBOARD;0AUTO RICKSHAW",
    ";0PICKUP TRUCK;0ROLLER SKATE;@1F700;0ALCHEMICAL SYMBOL FOR QUINTESSENCE;3AIR;3FIRE;3EARTH",
    ";3WATER;3AQUAFORTIS;3AQUA REGIA;4REGIA-2;4VITAE;4VITAE-2;3VINEGAR;3VINEGAR-2;3VINEGAR-3",
    ";3SULFUR;3PHILOSOPHERS SULFUR;3BLACK SULFUR;3MERCURY SUBLIMATE;4SUBLIMATE-2;4SUBLIMATE-3",
    ";3CINNABAR;3SALT;3NITRE;3VITRIOL;3VITRIOL-2;3ROCK SALT;4SALT-2;3GOLD;3SILVER;3IRON ORE",
    ";4ORE-2;3CROCUS OF IRON;3REGULUS OF IRON;3COPPER ORE;3IRON-COPPER ORE;3SUBLIMATE OF COPPER",
    ";3CROCUS OF COPPER;5COPPER-2;3COPPER ANTIMONIATE;3SALT OF COPPER ANTIMONIATE",
    ";3SUBLIMATE OF SALT OF COPPER;3VERDIGRIS;3TIN ORE;3LEAD ORE;3ANTIMONY ORE",
    ";3SUBLIMATE OF ANTIMONY;3SALT OF ANTIMONY;3SUBLIMATE OF SALT OF ANTIMONY",
    ";3VINEGAR OF ANTIMONY;3REGULUS OF ANTIMONY;5ANTIMONY-2;3REGULUS;3REGULUS-2;3REGULUS-3",
    ";3REGULUS-4;3ALKALI;3ALKALI-2;3MARCASITE;3SAL-AMMONIAC;3ARSENIC;3REALGAR;3REALGAR-2",
    ";3AURIPIGMENT;3BISMUTH ORE;3TARTAR;3TARTAR-2;3QUICK LIME;3BORAX;3BORAX-2;3BORAX-3;3ALUM;3OIL",
    ";3SPIRIT;3TINCTURE;3GUM;3WAX;3POWDER;3CALX;3TUTTY;3CAPUT MORTUUM;3SCEPTER OF JOVE;3CADUCEUS",
    ";3TRIDENT;3STARRED TRIDENT;3LODESTONE;3SOAP;3URINE;3HORSE DUNG;3ASHES;3POT ASHES;3BRICK",
    ";3POWDERED BRICK;3AMALGAM;3STRATUM SUPER STRATUM;5STRATUM-2;3SUBLIMATION;3PRECIPITATE",
    ";3DISTILL;3DISSOLVE;3DISSOLVE-2;3PURIFY;3PUTREFACTION;3CRUCIBLE;3CRUCIBLE-2;3CRUCIBLE-3",
    ";3CRUCIBLE-4;3CRUCIBLE-5;3ALEMBIC;3BATH OF MARY;5VAPOURS;3RETORT;3HOUR;3NIGHT;3DAY-NIGHT",
    ";3MONTH;3HALF DRAM;4OUNCE"],
   [";@1F780;0BLACK LEFT-POINTING ISOSCELES RIGHT TRIANGLE;1UP-POINTING ISOSCELES RIGHT TRIANGLE",
    ";1RIGHT-POINTING ISOSCELES RIGHT TRIANGLE;1DOWN-POINTING ISOSCELES RIGHT TRIANGLE",
    ";1SLIGHTLY SMALL CIRCLE;0MEDIUM BOLD WHITE CIRCLE;0BOLD WHITE CIRCLE;0HEAVY WHITE CIRCLE",
    ";0VERY HEAVY WHITE CIRCLE;0EXTREMELY HEAVY WHITE CIRCLE",
    ";0WHITE CIRCLE CONTAINING BLACK SMALL CIRCLE;0ROUND TARGET;0BLACK TINY SQUARE",
    ";1SLIGHTLY SMALL SQUARE;0LIGHT WHITE SQUARE;0MEDIUM WHITE SQUARE;0BOLD WHITE SQUARE",
    ";0HEAVY WHITE SQUARE;0VERY HEAVY WHITE SQUARE;0EXTREMELY HEAVY WHITE SQUARE",
    ";0WHITE SQUARE CONTAINING BLACK VERY SMALL SQUARE;4MEDIUM SQUARE;0SQUARE TARGET",
    ";0BLACK TINY DIAMOND;1VERY SMALL DIAMOND;1MEDIUM SMALL DIAMOND",
    ";0WHITE DIAMOND CONTAINING BLACK VERY SMALL DIAMOND;4MEDIUM DIAMOND;0DIAMOND TARGET",
    ";0BLACK TINY LOZENGE;1VERY SMALL LOZENGE;1MEDIUM SMALL LOZENGE",
    ";0WHITE LOZENGE CONTAINING BLACK SMALL LOZENGE;0THIN GREEK CROSS;0LIGHT GREEK CROSS",
    ";0MEDIUM GREEK CROSS;0BOLD GREEK CROSS;0VERY BOLD GREEK CROSS;1HEAVY GREEK CROSS",
    ";0EXTREMELY HEAVY GREEK CROSS;0THIN SALTIRE;0LIGHT SALTIRE;0MEDIUM SALTIRE;0BOLD SALTIRE",
    ";0HEAVY SALTIRE;0VERY HEAVY SALTIRE;0EXTREMELY HEAVY SALTIRE;0LIGHT FIVE SPOKED ASTERISK",
    ";0MEDIUM FIVE SPOKED ASTERISK;0BOLD FIVE SPOKED ASTERISK;0HEAVY FIVE SPOKED ASTERISK",
    ";0VERY HEAVY FIVE SPOKED ASTERISK;0EXTREMELY HEAVY FIVE SPOKED ASTERISK",
    ";0LIGHT SIX SPOKED ASTERISK;0MEDIUM SIX SPOKED ASTERISK;0BOLD SIX SPOKED ASTERISK",
    ";0HEAVY SIX SPOKED ASTERISK;0VERY HEAVY SIX SPOKED ASTERISK",
    ";0EXTREMELY HEAVY SIX SPOKED ASTERISK;0LIGHT EIGHT SPOKED ASTERISK",
    ";0MEDIUM EIGHT SPOKED ASTERISK;0BOLD EIGHT SPOKED ASTERISK;0HEAVY EIGHT SPOKED ASTERISK",
    ";0VERY HEAVY EIGHT SPOKED ASTERISK;0LIGHT THREE POINTED BLACK STAR",
    ";0MEDIUM THREE POINTED BLACK STAR;0THREE POINTED BLACK STAR",
    ";0MEDIUM THREE POINTED PINWHEEL STAR;0LIGHT FOUR POINTED BLACK STAR",
    ";0MEDIUM FOUR POINTED BLACK STAR;0FOUR POINTED BLACK STAR;0MEDIUM FOUR POINTED PINWHEEL STAR",
    ";0REVERSE LIGHT FOUR POINTED PINWHEEL STAR;0LIGHT FIVE POINTED BLACK STAR",
    ";0HEAVY FIVE POINTED BLACK STAR;0MEDIUM SIX POINTED BLACK STAR;0HEAVY SIX POINTED BLACK STAR",
    ";0SIX POINTED PINWHEEL STAR;0MEDIUM EIGHT POINTED BLACK STAR;0HEAVY EIGHT POINTED BLACK STAR",
    ";0VERY HEAVY EIGHT POINTED BLACK STAR;0HEAVY EIGHT POINTED PINWHEEL STAR",
    ";0LIGHT TWELVE POINTED BLACK STAR;0HEAVY TWELVE POINTED BLACK STAR;3PINWHEEL STAR",
    ";0CIRCLED TRIANGLE;0NEGATIVE CIRCLED TRIANGLE;0CIRCLED SQUARE;0NEGATIVE CIRCLED SQUARE",
    ";@1F7E0;0LARGE ORANGE CIRCLE;1YELLOW CIRCLE;1GREEN CIRCLE;1PURPLE CIRCLE;1BROWN CIRCLE",
    ";1RED SQUARE;1BLUE SQUARE;1ORANGE SQUARE;1YELLOW SQUARE;1GREEN SQUARE;1PURPLE SQUARE",
    ";1BROWN SQUARE;@1F7F0;0HEAVY EQUALS SIGN;@1F800",
    ";0LEFTWARDS ARROW WITH SMALL TRIANGLE ARROWHEAD;0UPWARDS ARROW WITH SMALL TRIANGLE ARROWHEAD",
    ";0RIGHTWARDS ARROW WITH SMALL TRIANGLE ARROWHEAD",
    ";0DOWNWARDS ARROW WITH SMALL TRIANGLE ARROWHEAD",
    ";0LEFTWARDS ARROW WITH MEDIUM TRIANGLE ARROWHEAD",
    ";0UPWARDS ARROW WITH MEDIUM TRIANGLE ARROWHEAD",
    ";0RIGHTWARDS ARROW WITH MEDIUM TRIANGLE ARROWHEAD",
    ";0DOWNWARDS ARROW WITH MEDIUM TRIANGLE ARROWHEAD",
    ";0LEFTWARDS ARROW WITH LARGE TRIANGLE ARROWHEAD;0UPWARDS ARROW WITH LARGE TRIANGLE ARROWHEAD",
    ";0RIGHTWARDS ARROW WITH LARGE TRIANGLE ARROWHEAD",
    ";0DOWNWARDS ARROW WITH LARGE TRIANGLE ARROWHEAD"],
   [";@1F810;0LEFTWARDS ARROW WITH SMALL EQUILATERAL ARROWHEAD",
    ";0UPWARDS ARROW WITH SMALL EQUILATERAL ARROWHEAD",
    ";0RIGHTWARDS ARROW WITH SMALL EQUILATERAL ARROWHEAD",
    ";0DOWNWARDS ARROW WITH SMALL EQUILATERAL ARROWHEAD",
    ";0LEFTWARDS ARROW WITH EQUILATERAL ARROWHEAD;0UPWARDS ARROW WITH EQUILATERAL ARROWHEAD",
    ";0RIGHTWARDS ARROW WITH EQUILATERAL ARROWHEAD;0DOWNWARDS ARROW WITH EQUILATERAL ARROWHEAD",
    ";0HEAVY LEFTWARDS ARROW WITH EQUILATERAL ARROWHEAD;1UPWARDS ARROW WITH EQUILATERAL ARROWHEAD",
    ";1RIGHTWARDS ARROW WITH EQUILATERAL ARROWHEAD;1DOWNWARDS ARROW WITH EQUILATERAL ARROWHEAD",
    ";1LEFTWARDS ARROW WITH LARGE EQUILATERAL ARROWHEAD",
    ";1UPWARDS ARROW WITH LARGE EQUILATERAL ARROWHEAD",
    ";1RIGHTWARDS ARROW WITH LARGE EQUILATERAL ARROWHEAD",
    ";1DOWNWARDS ARROW WITH LARGE EQUILATERAL ARROWHEAD",
    ";0LEFTWARDS TRIANGLE-HEADED ARROW WITH NARROW SHAFT",
    ";0UPWARDS TRIANGLE-HEADED ARROW WITH NARROW SHAFT",
    ";0RIGHTWARDS TRIANGLE-HEADED ARROW WITH NARROW SHAFT",
    ";0DOWNWARDS TRIANGLE-HEADED ARROW WITH NARROW SHAFT",
    ";0LEFTWARDS TRIANGLE-HEADED ARROW WITH MEDIUM SHAFT",
    ";0UPWARDS TRIANGLE-HEADED ARROW WITH MEDIUM SHAFT",
    ";0RIGHTWARDS TRIANGLE-HEADED ARROW WITH MEDIUM SHAFT",
    ";0DOWNWARDS TRIANGLE-HEADED ARROW WITH MEDIUM SHAFT",
    ";0LEFTWARDS TRIANGLE-HEADED ARROW WITH BOLD SHAFT",
    ";0UPWARDS TRIANGLE-HEADED ARROW WITH BOLD SHAFT",
    ";0RIGHTWARDS TRIANGLE-HEADED ARROW WITH BOLD SHAFT",
    ";0DOWNWARDS TRIANGLE-HEADED ARROW WITH BOLD SHAFT",
    ";0LEFTWARDS TRIANGLE-HEADED ARROW WITH HEAVY SHAFT",
    ";0UPWARDS TRIANGLE-HEADED ARROW WITH HEAVY SHAFT",
    ";0RIGHTWARDS TRIANGLE-HEADED ARROW WITH HEAVY SHAFT",
    ";0DOWNWARDS TRIANGLE-HEADED ARROW WITH HEAVY SHAFT",
    ";0LEFTWARDS TRIANGLE-HEADED ARROW WITH VERY HEAVY SHAFT",
    ";0UPWARDS TRIANGLE-HEADED ARROW WITH VERY HEAVY SHAFT",
    ";0RIGHTWARDS TRIANGLE-HEADED ARROW WITH VERY HEAVY SHAFT",
    ";0DOWNWARDS TRIANGLE-HEADED ARROW WITH VERY HEAVY SHAFT;0LEFTWARDS FINGER-POST ARROW",
    ";0UPWARDS FINGER-POST ARROW;0RIGHTWARDS FINGER-POST ARROW;0DOWNWARDS FINGER-POST ARROW",
    ";0LEFTWARDS SQUARED ARROW;0UPWARDS SQUARED ARROW;0RIGHTWARDS SQUARED ARROW",
    ";0DOWNWARDS SQUARED ARROW;0LEFTWARDS COMPRESSED ARROW;0UPWARDS COMPRESSED ARROW",
    ";0RIGHTWARDS COMPRESSED ARROW;0DOWNWARDS COMPRESSED ARROW;0LEFTWARDS HEAVY COMPRESSED ARROW",
    ";0UPWARDS HEAVY COMPRESSED ARROW;0RIGHTWARDS HEAVY COMPRESSED ARROW",
    ";0DOWNWARDS HEAVY COMPRESSED ARROW;0LEFTWARDS HEAVY ARROW;0UPWARDS HEAVY ARROW",
    ";0RIGHTWARDS HEAVY ARROW;0DOWNWARDS HEAVY ARROW;@1F850;0LEFTWARDS SANS-SERIF ARROW",
    ";0UPWARDS SANS-SERIF ARROW;0RIGHTWARDS SANS-SERIF ARROW;0DOWNWARDS SANS-SERIF ARROW",
    ";0NORTH WEST SANS-SERIF ARROW;1EAST SANS-SERIF ARROW;0SOUTH EAST SANS-SERIF ARROW",
    ";1WEST SANS-SERIF ARROW;0LEFT RIGHT SANS-SERIF ARROW;0UP DOWN SANS-SERIF ARROW"],
   [";@1F860;0WIDE-HEADED LEFTWARDS LIGHT BARB ARROW;1UPWARDS LIGHT BARB ARROW",
    ";1RIGHTWARDS LIGHT BARB ARROW;1DOWNWARDS LIGHT BARB ARROW;1NORTH WEST LIGHT BARB ARROW",
    ";2EAST LIGHT BARB ARROW;1SOUTH EAST LIGHT BARB ARROW;2WEST LIGHT BARB ARROW",
    ";1LEFTWARDS BARB ARROW;1UPWARDS BARB ARROW;1RIGHTWARDS BARB ARROW;1DOWNWARDS BARB ARROW",
    ";1NORTH WEST BARB ARROW;2EAST BARB ARROW;1SOUTH EAST BARB ARROW;2WEST BARB ARROW",
    ";1LEFTWARDS MEDIUM BARB ARROW;1UPWARDS MEDIUM BARB ARROW;1RIGHTWARDS MEDIUM BARB ARROW",
    ";1DOWNWARDS MEDIUM BARB ARROW;1NORTH WEST MEDIUM BARB ARROW;2EAST MEDIUM BARB ARROW",
    ";1SOUTH EAST MEDIUM BARB ARROW;2WEST MEDIUM BARB ARROW;1LEFTWARDS HEAVY BARB ARROW",
    ";1UPWARDS HEAVY BARB ARROW;1RIGHTWARDS HEAVY BARB ARROW;1DOWNWARDS HEAVY BARB ARROW",
    ";1NORTH WEST HEAVY BARB ARROW;2EAST HEAVY BARB ARROW;1SOUTH EAST HEAVY BARB ARROW",
    ";2WEST HEAVY BARB ARROW;1LEFTWARDS VERY HEAVY BARB ARROW;1UPWARDS VERY HEAVY BARB ARROW",
    ";1RIGHTWARDS VERY HEAVY BARB ARROW;1DOWNWARDS VERY HEAVY BARB ARROW",
    ";1NORTH WEST VERY HEAVY BARB ARROW;2EAST VERY HEAVY BARB ARROW",
    ";1SOUTH EAST VERY HEAVY BARB ARROW;2WEST VERY HEAVY BARB ARROW;@1F890",
    ";0LEFTWARDS TRIANGLE ARROWHEAD;0UPWARDS TRIANGLE ARROWHEAD;0RIGHTWARDS TRIANGLE ARROWHEAD",
    ";0DOWNWARDS TRIANGLE ARROWHEAD;0LEFTWARDS WHITE ARROW WITHIN TRIANGLE ARROWHEAD",
    ";0UPWARDS WHITE ARROW WITHIN TRIANGLE ARROWHEAD",
    ";0RIGHTWARDS WHITE ARROW WITHIN TRIANGLE ARROWHEAD",
    ";0DOWNWARDS WHITE ARROW WITHIN TRIANGLE ARROWHEAD;0LEFTWARDS ARROW WITH NOTCHED TAIL",
    ";0UPWARDS ARROW WITH NOTCHED TAIL;0RIGHTWARDS ARROW WITH NOTCHED TAIL",
    ";0DOWNWARDS ARROW WITH NOTCHED TAIL;0HEAVY ARROW SHAFT WIDTH ONE;4TWO THIRDS;4ONE HALF",
    ";5THIRD;0LEFTWARDS BOTTOM-SHADED WHITE ARROW;0RIGHTWARDS BOTTOM SHADED WHITE ARROW",
    ";0LEFTWARDS TOP SHADED WHITE ARROW;0RIGHTWARDS TOP SHADED WHITE ARROW",
    ";0LEFTWARDS LEFT-SHADED WHITE ARROW;0RIGHTWARDS RIGHT-SHADED WHITE ARROW",
    ";0LEFTWARDS RIGHT-SHADED WHITE ARROW;0RIGHTWARDS LEFT-SHADED WHITE ARROW",
    ";0LEFTWARDS BACK-TILTED SHADOWED WHITE ARROW;0RIGHTWARDS BACK-TILTED SHADOWED WHITE ARROW",
    ";0LEFTWARDS FRONT-TILTED SHADOWED WHITE ARROW;0RIGHTWARDS FRONT-TILTED SHADOWED WHITE ARROW",
    ";0WHITE ARROW SHAFT WIDTH ONE;4TWO THIRDS;@1F8B0;0ARROW POINTING UPWARDS THEN NORTH WEST",
    ";2RIGHTWARDS THEN CURVING SOUTH WEST;@1F900;0CIRCLED CROSS FORMEE WITH FOUR DOTS;4TWO DOTS",
    ";2FORMEE;0LEFT HALF CIRCLE WITH FOUR DOTS;4THREE DOTS;4TWO DOTS;4DOT;2CIRCLE",
    ";0DOWNWARD FACING HOOK;2NOTCHED HOOK;2HOOK WITH DOT;2NOTCHED HOOK WITH DOT;0PINCHED FINGERS",
    ";0WHITE HEART;0BROWN HEART;0PINCHING HAND;0ZIPPER-MOUTH FACE;0MONEY-MOUTH FACE",
    ";0FACE WITH THERMOMETER;0NERD FACE;0THINKING FACE;0FACE WITH HEAD-BANDAGE;0ROBOT FACE",
    ";0HUGGING FACE;0SIGN OF THE HORNS;0CALL ME HAND;0RAISED BACK OF HAND;0LEFT-FACING FIST",
    ";0RIGHT-FACING FIST;0HANDSHAKE;0HAND WITH INDEX AND MIDDLE FINGERS CROSSED",
    ";0I LOVE YOU HAND SIGN;0FACE WITH COWBOY HAT;0CLOWN FACE;0NAUSEATED FACE",
    ";0ROLLING ON THE FLOOR LAUGHING;0DROOLING FACE;0LYING FACE;0FACE PALM;0SNEEZING FACE",
    ";0FACE WITH ONE EYEBROW RAISED;0GRINNING FACE WITH STAR EYES;3ONE LARGE AND ONE SMALL EYE",
    ";0FACE WITH FINGER COVERING CLOSED LIPS;0SERIOUS FACE WITH SYMBOLS COVERING MOUTH",
    ";0SMILING FACE WITH SMILING EYES AND HAND COVERING MOUTH;0FACE WITH OPEN MOUTH VOMITING",
    ";0SHOCKED FACE WITH EXPLODING HEAD;0PREGNANT WOMAN;0BREAST-FEEDING;0PALMS UP TOGETHER",
    ";0SELFIE;0PRINCE;0MAN IN TUXEDO;0MOTHER CHRISTMAS;0SHRUG;0PERSON DOING CARTWHEEL;0JUGGLING",
    ";0FENCER;0MODERN PENTATHLON;0WRESTLERS;0WATER POLO;0HANDBALL;0DIVING MASK;0WILTED FLOWER",
    ";0DRUM WITH DRUMSTICKS;0CLINKING GLASSES;0TUMBLER GLASS;0SPOON;0GOAL NET;0RIFLE",
    ";0FIRST PLACE MEDAL;0SECOND PLACE MEDAL;0THIRD PLACE MEDAL;0BOXING GLOVE",
    ";0MARTIAL ARTS UNIFORM;0CURLING STONE;0LACROSSE STICK AND BALL;0SOFTBALL;0FLYING DISC",
    ";0CROISSANT;0AVOCADO;0CUCUMBER;0BACON;0POTATO;0CARROT;0BAGUETTE BREAD;0GREEN SALAD",
    ";0SHALLOW PAN OF FOOD;0STUFFED FLATBREAD;0EGG;0GLASS OF MILK;0PEANUTS;0KIWIFRUIT;0PANCAKES",
    ";0DUMPLING;0FORTUNE COOKIE;0TAKEOUT BOX;0CHOPSTICKS;0BOWL WITH SPOON;0CUP WITH STRAW",
    ";0COCONUT;0BROCCOLI;0PIE;0PRETZEL;0CUT OF MEAT;0SANDWICH;0CANNED FOOD;0LEAFY GREEN;0MANGO",
    ";0MOON CAKE;0BAGEL;0SMILING FACE WITH SMILING EYES AND THREE HEARTS;0YAWNING FACE",
    ";0SMILING FACE WITH TEAR;0FACE WITH PARTY HORN AND PARTY HAT;2UNEVEN EYES AND WAVY MOUTH",
    ";0OVERHEATED FACE;0FREEZING FACE;0NINJA;0DISGUISED FACE;0FACE HOLDING BACK TEARS",
    ";1WITH PLEADING EYES;0SARI;0LAB COAT;0GOGGLES;0HIKING BOOT;0FLAT SHOE;0CRAB;0LION FACE",
    ";0SCORPION;0TURKEY;0UNICORN FACE;0EAGLE;0DUCK;0BAT;0SHARK;0OWL;0FOX FACE;0BUTTERFLY;0DEER",
    ";0GORILLA;0LIZARD;0RHINOCEROS;0SHRIMP;0SQUID;0GIRAFFE FACE;0ZEBRA FACE;0HEDGEHOG;0SAUROPOD",
    ";0T-REX;0CRICKET;0KANGAROO;0LLAMA;0PEACOCK;0HIPPOPOTAMUS;0PARROT;0RACCOON;0LOBSTER;0MOSQUITO",
    ";0MICROBE;0BADGER;0SWAN;0MAMMOTH;0DODO;0SLOTH;0OTTER;0ORANGUTAN;0SKUNK;0FLAMINGO;0OYSTER",
    ";0BEAVER;0BISON;0SEAL;0GUIDE DOG;0PROBING CANE;0EMOJI COMPONENT RED HAIR;2CURLY HAIR;2BALD",
    ";2WHITE HAIR;0BONE;0LEG;0FOOT;0TOOTH;0SUPERHERO;0SUPERVILLAIN;0SAFETY VEST",
    ";0EAR WITH HEARING AID"],
   [";0MOTORIZED WHEELCHAIR;0MANUAL WHEELCHAIR;0MECHANICAL ARM;1LEG;0CHEESE WEDGE;0CUPCAKE",
    ";0SALT SHAKER;0BEVERAGE BOX;0GARLIC;0ONION;0FALAFEL;0WAFFLE;0BUTTER;0MATE DRINK;0ICE CUBE",
    ";0BUBBLE TEA;0TROLL;0STANDING PERSON;0KNEELING PERSON;0DEAF PERSON;0FACE WITH MONOCLE;0ADULT",
    ";0CHILD;0OLDER ADULT;0BEARDED PERSON;0PERSON WITH HEADSCARF;1IN STEAMY ROOM;1CLIMBING",
    ";1IN LOTUS POSITION;0MAGE;0FAIRY;0VAMPIRE;0MERPERSON;0ELF;0GENIE;0ZOMBIE;0BRAIN",
    ";0ORANGE HEART;0BILLED CAP;0SCARF;0GLOVES;0COAT;0SOCKS;0RED GIFT ENVELOPE;0FIRECRACKER",
    ";0JIGSAW PUZZLE PIECE;0TEST TUBE;0PETRI DISH;0DNA DOUBLE HELIX;0COMPASS;0ABACUS",
    ";0FIRE EXTINGUISHER;0TOOLBOX;0BRICK;0MAGNET;0LUGGAGE;0LOTION BOTTLE;0SPOOL OF THREAD",
    ";0BALL OF YARN;0SAFETY PIN;0TEDDY BEAR;0BROOM;0BASKET;0ROLL OF PAPER;0BAR OF SOAP;0SPONGE",
    ";0RECEIPT;0NAZAR AMULET;0NEUTRAL CHESS KING;2QUEEN;2ROOK;2BISHOP;2KNIGHT;2PAWN",
    ";0WHITE CHESS KNIGHT ROTATED FORTY-FIVE DEGREES",
    ";0BLACK CHESS KNIGHT ROTATED FORTY-FIVE DEGREES",
    ";0NEUTRAL CHESS KNIGHT ROTATED FORTY-FIVE DEGREES;0WHITE CHESS KING ROTATED NINETY DEGREES",
    ";2QUEEN ROTATED NINETY DEGREES;2ROOK ROTATED NINETY DEGREES;2BISHOP ROTATED NINETY DEGREES",
    ";2KNIGHT ROTATED NINETY DEGREES;2PAWN ROTATED NINETY DEGREES",
    ";0BLACK CHESS KING ROTATED NINETY DEGREES;2QUEEN ROTATED NINETY DEGREES",
    ";2ROOK ROTATED NINETY DEGREES;2BISHOP ROTATED NINETY DEGREES;2KNIGHT ROTATED NINETY DEGREES",
    ";2PAWN ROTATED NINETY DEGREES;0NEUTRAL CHESS KING ROTATED NINETY DEGREES",
    ";2QUEEN ROTATED NINETY DEGREES;2ROOK ROTATED NINETY DEGREES;2BISHOP ROTATED NINETY DEGREES",
    ";2KNIGHT ROTATED NINETY DEGREES;2PAWN ROTATED NINETY DEGREES",
    ";0WHITE CHESS KNIGHT ROTATED ONE HUNDRED THIRTY-FIVE DEGREES",
    ";0BLACK CHESS KNIGHT ROTATED ONE HUNDRED THIRTY-FIVE DEGREES",
    ";0NEUTRAL CHESS KNIGHT ROTATED ONE HUNDRED THIRTY-FIVE DEGREES;0WHITE CHESS TURNED KING",
    ";3QUEEN;3ROOK;3BISHOP;3KNIGHT;3PAWN;0BLACK CHESS TURNED KING;3QUEEN;3ROOK;3BISHOP;3KNIGHT",
    ";3PAWN;0NEUTRAL CHESS TURNED KING;3QUEEN;3ROOK;3BISHOP;3KNIGHT;3PAWN",
    ";0WHITE CHESS KNIGHT ROTATED TWO HUNDRED TWENTY-FIVE DEGREES",
    ";0BLACK CHESS KNIGHT ROTATED TWO HUNDRED TWENTY-FIVE DEGREES",
    ";0NEUTRAL CHESS KNIGHT ROTATED TWO HUNDRED TWENTY-FIVE DEGREES",
    ";0WHITE CHESS KING ROTATED TWO HUNDRED SEVENTY DEGREES",
    ";2QUEEN ROTATED TWO HUNDRED SEVENTY DEGREES;2ROOK ROTATED TWO HUNDRED SEVENTY DEGREES",
    ";2BISHOP ROTATED TWO HUNDRED SEVENTY DEGREES;2KNIGHT ROTATED TWO HUNDRED SEVENTY DEGREES",
    ";2PAWN ROTATED TWO HUNDRED SEVENTY DEGREES",
    ";0BLACK CHESS KING ROTATED TWO HUNDRED SEVENTY DEGREES",
    ";2QUEEN ROTATED TWO HUNDRED SEVENTY DEGREES;2ROOK ROTATED TWO HUNDRED SEVENTY DEGREES",
    ";2BISHOP ROTATED TWO HUNDRED SEVENTY DEGREES;2KNIGHT ROTATED TWO HUNDRED SEVENTY DEGREES",
    ";2PAWN ROTATED TWO HUNDRED SEVENTY DEGREES",
    ";0NEUTRAL CHESS KING ROTATED TWO HUNDRED SEVENTY DEGREES",
    ";2QUEEN ROTATED TWO HUNDRED SEVENTY DEGREES;2ROOK ROTATED TWO HUNDRED SEVENTY DEGREES",
    ";2BISHOP ROTATED TWO HUNDRED SEVENTY DEGREES;2KNIGHT ROTATED TWO HUNDRED SEVENTY DEGREES",
    ";2PAWN ROTATED TWO HUNDRED SEVENTY DEGREES",
    ";0WHITE CHESS KNIGHT ROTATED THREE HUNDRED FIFTEEN DEGREES",
    ";0BLACK CHESS KNIGHT ROTATED THREE HUNDRED FIFTEEN DEGREES",
    ";0NEUTRAL CHESS KNIGHT ROTATED THREE HUNDRED FIFTEEN DEGREES;0WHITE CHESS EQUIHOPPER",
    ";0BLACK CHESS EQUIHOPPER;0NEUTRAL CHESS EQUIHOPPER",
    ";0WHITE CHESS EQUIHOPPER ROTATED NINETY DEGREES",
    ";0BLACK CHESS EQUIHOPPER ROTATED NINETY DEGREES",
    ";0NEUTRAL CHESS EQUIHOPPER ROTATED NINETY DEGREES;0WHITE CHESS KNIGHT-QUEEN;2KNIGHT-ROOK",
    ";2KNIGHT-BISHOP;0BLACK CHESS KNIGHT-QUEEN;2KNIGHT-ROOK;2KNIGHT-BISHOP"],
   [";@1FA60;0XIANGQI RED GENERAL;2MANDARIN;2ELEPHANT;2HORSE;2CHARIOT;2CANNON;2SOLDIER",
    ";1BLACK GENERAL;2MANDARIN;2ELEPHANT;2HORSE;2CHARIOT;2CANNON;2SOLDIER;@1FA70;0BALLET SHOES",
    ";0ONE-PIECE SWIMSUIT;0BRIEFS;0SHORTS;0THONG SANDAL;@1FA78;0DROP OF BLOOD;0ADHESIVE BANDAGE",
    ";0STETHOSCOPE;0X-RAY;0CRUTCH;@1FA80;0YO-YO;0KITE;0PARACHUTE;0BOOMERANG;0MAGIC WAND;0PINATA",
    ";0NESTING DOLLS;@1FA90;0RINGED PLANET;0CHAIR;0RAZOR;0AXE;0DIYA LAMP;0BANJO;0MILITARY HELMET",
    ";0ACCORDION;0LONG DRUM;0COIN;0CARPENTRY SAW;0SCREWDRIVER;0LADDER;0HOOK;0MIRROR;0WINDOW",
    ";0PLUNGER;0SEWING NEEDLE;0KNOT;0BUCKET;0MOUSE TRAP;0TOOTHBRUSH;0HEADSTONE;0PLACARD;0ROCK",
    ";0MIRROR BALL;0IDENTIFICATION CARD;0LOW BATTERY;0HAMSA;@1FAB0;0FLY;0WORM;0BEETLE;0COCKROACH",
    ";0POTTED PLANT;0WOOD;0FEATHER;0LOTUS;0CORAL;0EMPTY NEST;0NEST WITH EGGS;@1FAC0",
    ";0ANATOMICAL HEART;0LUNGS;0PEOPLE HUGGING;0PREGNANT MAN;1PERSON;0PERSON WITH CROWN;@1FAD0",
    ";0BLUEBERRIES;0BELL PEPPER;0OLIVE;0FLATBREAD;0TAMALE;0FONDUE;0TEAPOT;0POURING LIQUID;0BEANS",
    ";0JAR;@1FAE0;0MELTING FACE;0SALUTING FACE;0FACE WITH OPEN EYES AND HAND OVER MOUTH",
    ";2PEEKING EYE;2DIAGONAL MOUTH;0DOTTED LINE FACE;0BITING LIP;0BUBBLES;@1FAF0",
    ";0HAND WITH INDEX FINGER AND THUMB CROSSED;0RIGHTWARDS HAND;0LEFTWARDS HAND;0PALM DOWN HAND",
    ";1UP HAND;0INDEX POINTING AT THE VIEWER;0HEART HANDS;@1FB00;0BLOCK SEXTANT-1;1SEXTANT-2",
    ";1SEXTANT-12;1SEXTANT-3;1SEXTANT-13;1SEXTANT-23;1SEXTANT-123;1SEXTANT-4;1SEXTANT-14",
    ";1SEXTANT-24;1SEXTANT-124;1SEXTANT-34;1SEXTANT-134;1SEXTANT-234;1SEXTANT-1234;1SEXTANT-5",
    ";1SEXTANT-15;1SEXTANT-25;1SEXTANT-125;1SEXTANT-35;1SEXTANT-235;1SEXTANT-1235;1SEXTANT-45",
    ";1SEXTANT-145;1SEXTANT-245;1SEXTANT-1245;1SEXTANT-345;1SEXTANT-1345;1SEXTANT-2345",
    ";1SEXTANT-12345;1SEXTANT-6;1SEXTANT-16;1SEXTANT-26;1SEXTANT-126;1SEXTANT-36;1SEXTANT-136",
    ";1SEXTANT-236;1SEXTANT-1236;1SEXTANT-46;1SEXTANT-146;1SEXTANT-1246;1SEXTANT-346",
    ";1SEXTANT-1346;1SEXTANT-2346;1SEXTANT-12346;1SEXTANT-56;1SEXTANT-156;1SEXTANT-256",
    ";1SEXTANT-1256;1SEXTANT-356;1SEXTANT-1356;1SEXTANT-2356;1SEXTANT-12356;1SEXTANT-456",
    ";1SEXTANT-1456;1SEXTANT-2456;1SEXTANT-12456;1SEXTANT-3456;1SEXTANT-13456;1SEXTANT-23456",
    ";0LOWER LEFT BLOCK DIAGONAL LOWER MIDDLE LEFT TO LOWER CENTRE;9RIGHT",
    ";4UPPER MIDDLE LEFT TO LOWER CENTRE;9RIGHT;5LEFT TO LOWER CENTRE",
    ";1RIGHT BLOCK DIAGONAL UPPER MIDDLE LEFT TO UPPER CENTRE;9RIGHT",
    ";4LOWER MIDDLE LEFT TO UPPER CENTRE;9RIGHT;5LEFT TO UPPER CENTRE",
    ";5MIDDLE LEFT TO UPPER MIDDLE RIGHT;5CENTRE TO LOWER MIDDLE RIGHT",
    ";5LEFT TO LOWER MIDDLE RIGHT;5CENTRE TO UPPER MIDDLE RIGHT;5LEFT TO UPPER MIDDLE RIGHT",
    ";5CENTRE TO UPPER RIGHT;1LEFT BLOCK DIAGONAL UPPER CENTRE TO UPPER MIDDLE RIGHT",
    ";5LEFT TO UPPER MIDDLE RIGHT;5CENTRE TO LOWER MIDDLE RIGHT;5LEFT TO LOWER MIDDLE RIGHT",
    ";5CENTRE TO LOWER RIGHT;5MIDDLE LEFT TO LOWER MIDDLE RIGHT",
    ";0UPPER RIGHT BLOCK DIAGONAL LOWER MIDDLE LEFT TO LOWER CENTRE;9RIGHT",
    ";4UPPER MIDDLE LEFT TO LOWER CENTRE;9RIGHT;5LEFT TO LOWER CENTRE",
    ";1LEFT BLOCK DIAGONAL UPPER MIDDLE LEFT TO UPPER CENTRE;9RIGHT",
    ";4LOWER MIDDLE LEFT TO UPPER CENTRE;9RIGHT;5LEFT TO UPPER CENTRE",
    ";5MIDDLE LEFT TO UPPER MIDDLE RIGHT;5CENTRE TO LOWER MIDDLE RIGHT",
    ";5LEFT TO LOWER MIDDLE RIGHT;5CENTRE TO UPPER MIDDLE RIGHT;5LEFT TO UPPER MIDDLE RIGHT",
    ";5CENTRE TO UPPER RIGHT;1RIGHT BLOCK DIAGONAL UPPER CENTRE TO UPPER MIDDLE RIGHT",
    ";5LEFT TO UPPER MIDDLE RIGHT;5CENTRE TO LOWER MIDDLE RIGHT;5LEFT TO LOWER MIDDLE RIGHT",
    ";5CENTRE TO LOWER RIGHT;5MIDDLE LEFT TO LOWER MIDDLE RIGHT",
    ";1AND RIGHT AND LOWER TRIANGULAR THREE QUARTERS BLOCK",
    ";0LEFT AND LOWER AND RIGHT TRIANGULAR THREE QUARTERS BLOCK",
    ";0UPPER AND LEFT AND LOWER TRIANGULAR THREE QUARTERS BLOCK",
    ";0LEFT AND UPPER AND RIGHT TRIANGULAR THREE QUARTERS BLOCK;1TRIANGULAR ONE QUARTER BLOCK",
    ";0UPPER TRIANGULAR ONE QUARTER BLOCK;0RIGHT TRIANGULAR ONE QUARTER BLOCK",
    ";0LOWER TRIANGULAR ONE QUARTER BLOCK;0VERTICAL ONE EIGHTH BLOCK-2;3BLOCK-3;3BLOCK-4;3BLOCK-5",
    ";3BLOCK-6;3BLOCK-7;0HORIZONTAL ONE EIGHTH BLOCK-2;3BLOCK-3;3BLOCK-4;3BLOCK-5;3BLOCK-6",
    ";3BLOCK-7;0LEFT AND LOWER ONE EIGHTH BLOCK;2UPPER ONE EIGHTH BLOCK",
    ";0RIGHT AND UPPER ONE EIGHTH BLOCK;2LOWER ONE EIGHTH BLOCK;0UPPER AND LOWER ONE EIGHTH BLOCK",
    ";0HORIZONTAL ONE EIGHTH BLOCK-1358;0UPPER ONE QUARTER BLOCK;1THREE EIGHTHS BLOCK",
    ";1FIVE EIGHTHS BLOCK;1THREE QUARTERS BLOCK;1SEVEN EIGHTHS BLOCK;0RIGHT ONE QUARTER BLOCK",
    ";1THREE EIGHTHS BLOCK;1FIVE EIGHTHS BLOCK;1THREE QUARTERS BLOCK;1SEVEN EIGHTHS BLOCK",
    ";0LEFT HALF MEDIUM SHADE;0RIGHT HALF MEDIUM SHADE;0UPPER HALF MEDIUM SHADE",
    ";0LOWER HALF MEDIUM SHADE;0INVERSE MEDIUM SHADE",
    ";0UPPER HALF BLOCK AND LOWER HALF INVERSE MEDIUM SHADE",
    ";2INVERSE MEDIUM SHADE AND LOWER HALF BLOCK"],
   [";@1FB94;0LEFT HALF INVERSE MEDIUM SHADE AND RIGHT HALF BLOCK;0CHECKER BOARD FILL",
    ";0INVERSE CHECKER BOARD FILL;0HEAVY HORIZONTAL FILL;0UPPER LEFT TO LOWER RIGHT FILL",
    ";1RIGHT TO LOWER LEFT FILL;1AND LOWER TRIANGULAR HALF BLOCK",
    ";0LEFT AND RIGHT TRIANGULAR HALF BLOCK;0UPPER LEFT TRIANGULAR MEDIUM SHADE",
    ";1RIGHT TRIANGULAR MEDIUM SHADE;0LOWER RIGHT TRIANGULAR MEDIUM SHADE",
    ";1LEFT TRIANGULAR MEDIUM SHADE;0BOX DRAWINGS LIGHT DIAGONAL UPPER CENTRE TO MIDDLE LEFT",
    ";8RIGHT;4MIDDLE LEFT TO LOWER CENTRE;5RIGHT TO LOWER CENTRE",
    ";4UPPER CENTRE TO MIDDLE LEFT TO LOWER CENTRE;8RIGHT TO LOWER CENTRE",
    ";4MIDDLE LEFT TO LOWER CENTRE TO MIDDLE RIGHT;7UPPER CENTRE TO MIDDLE RIGHT",
    ";4UPPER CENTRE TO MIDDLE LEFT AND MIDDLE RIGHT TO LOWER CENTRE",
    ";8RIGHT AND MIDDLE LEFT TO LOWER CENTRE;9TO LOWER CENTRE TO MIDDLE LEFT",
    ";8LEFT TO LOWER CENTRE TO MIDDLE RIGHT",
    ";4MIDDLE LEFT TO UPPER CENTRE TO MIDDLE RIGHT TO LOWER CENTRE",
    ";5RIGHT TO UPPER CENTRE TO MIDDLE LEFT TO LOWER CENTRE;4DIAMOND",
    ";3HORIZONTAL WITH VERTICAL STROKE;0ARROWHEAD-SHAPED POINTER;0INVERSE CHECK MARK",
    ";0LEFT HALF RUNNING MAN;0RIGHT HALF RUNNING MAN;0INVERSE DOWNWARDS ARROW WITH TIP LEFTWARDS",
    ";0LEFTWARDS ARROW AND UPPER AND LOWER ONE EIGHTH BLOCK",
    ";0RIGHTWARDS ARROW AND UPPER AND LOWER ONE EIGHTH BLOCK",
    ";0DOWNWARDS ARROW AND RIGHT ONE EIGHTH BLOCK;0UPWARDS ARROW AND RIGHT ONE EIGHTH BLOCK",
    ";0LEFT HALF FOLDER;0RIGHT HALF FOLDER;0VOIDED GREEK CROSS;0RIGHT OPEN SQUARED DOT",
    ";0NEGATIVE DIAGONAL CROSS;2MIDDLE RIGHT TO LOWER CENTRE;2DIAMOND",
    ";0WHITE HEAVY SALTIRE WITH ROUNDED CORNERS;0LEFT THIRD WHITE RIGHT POINTING INDEX",
    ";0MIDDLE THIRD WHITE RIGHT POINTING INDEX;0RIGHT THIRD WHITE RIGHT POINTING INDEX",
    ";0NEGATIVE SQUARED QUESTION MARK;0STICK FIGURE;2WITH ARMS RAISED;2LEANING LEFT;3RIGHT",
    ";2WITH DRESS;0WHITE UP-POINTING CHEVRON;@1FBF0;0SEGMENTED DIGIT ZERO;2ONE;2TWO;2THREE;2FOUR",
    ";2FIVE;2SIX;2SEVEN;2EIGHT;2NINE;@E0001;0LANGUAGE TAG;@E0020;0TAG SPACE;1EXCLAMATION MARK",
    ";1QUOTATION MARK;1NUMBER SIGN;1DOLLAR SIGN;1PERCENT SIGN;1AMPERSAND;1APOSTROPHE",
    ";1LEFT PARENTHESIS;1RIGHT PARENTHESIS;1ASTERISK;1PLUS SIGN;1COMMA;1HYPHEN-MINUS;1FULL STOP",
    ";1SOLIDUS;1DIGIT ZERO;2ONE;2TWO;2THREE;2FOUR;2FIVE;2SIX;2SEVEN;2EIGHT;2NINE;1COLON",
    ";1SEMICOLON;1LESS-THAN SIGN;1EQUALS SIGN;1GREATER-THAN SIGN;1QUESTION MARK;1COMMERCIAL AT",
    ";1LATIN CAPITAL LETTER A;4B;4C;4D;4E;4F;4G;4H;4I;4J;4K;4L;4M;4N;4O;4P;4Q;4R;4S;4T;4U;4V;4W",
    ";4X;4Y;4Z;1LEFT SQUARE BRACKET;1REVERSE SOLIDUS;1RIGHT SQUARE BRACKET;1CIRCUMFLEX ACCENT",
    ";1LOW LINE;1GRAVE ACCENT;1LATIN SMALL LETTER A;4B;4C;4D;4E;4F;4G;4H;4I;4J;4K;4L;4M;4N;4O;4P",
    ";4Q;4R;4S;4T;4U;4V;4W;4X;4Y;4Z;1LEFT CURLY BRACKET;1VERTICAL LINE;1RIGHT CURLY BRACKET",
    ";1TILDE;0CANCEL TAG;@E0100;0VARIATION SELECTOR-17;1SELECTOR-18;1SELECTOR-19;1SELECTOR-20",
    ";1SELECTOR-21;1SELECTOR-22;1SELECTOR-23;1SELECTOR-24;1SELECTOR-25;1SELECTOR-26;1SELECTOR-27",
    ";1SELECTOR-28;1SELECTOR-29;1SELECTOR-30;1SELECTOR-31;1SELECTOR-32;1SELECTOR-33;1SELECTOR-34",
    ";1SELECTOR-35;1SELECTOR-36;1SELECTOR-37;1SELECTOR-38;1SELECTOR-39;1SELECTOR-40;1SELECTOR-41",
    ";1SELECTOR-42;1SELECTOR-43;1SELECTOR-44;1SELECTOR-45;1SELECTOR-46;1SELECTOR-47;1SELECTOR-48",
    ";1SELECTOR-49;1SELECTOR-50;1SELECTOR-51;1SELECTOR-52;1SELECTOR-53;1SELECTOR-54;1SELECTOR-55",
    ";1SELECTOR-56;1SELECTOR-57;1SELECTOR-58;1SELECTOR-59;1SELECTOR-60;1SELECTOR-61;1SELECTOR-62",
    ";1SELECTOR-63;1SELECTOR-64;1SELECTOR-65;1SELECTOR-66;1SELECTOR-67;1SELECTOR-68;1SELECTOR-69",
    ";1SELECTOR-70;1SELECTOR-71;1SELECTOR-72;1SELECTOR-73;1SELECTOR-74;1SELECTOR-75;1SELECTOR-76",
    ";1SELECTOR-77;1SELECTOR-78;1SELECTOR-79;1SELECTOR-80;1SELECTOR-81;1SELECTOR-82;1SELECTOR-83",
    ";1SELECTOR-84;1SELECTOR-85;1SELECTOR-86;1SELECTOR-87;1SELECTOR-88;1SELECTOR-89;1SELECTOR-90",
    ";1SELECTOR-91;1SELECTOR-92;1SELECTOR-93;1SELECTOR-94;1SELECTOR-95;1SELECTOR-96;1SELECTOR-97",
    ";1SELECTOR-98;1SELECTOR-99;1SELECTOR-100;1SELECTOR-101;1SELECTOR-102;1SELECTOR-103",
    ";1SELECTOR-104;1SELECTOR-105;1SELECTOR-106;1SELECTOR-107;1SELECTOR-108;1SELECTOR-109",
    ";1SELECTOR-110;1SELECTOR-111;1SELECTOR-112;1SELECTOR-113;1SELECTOR-114;1SELECTOR-115",
    ";1SELECTOR-116;1SELECTOR-117;1SELECTOR-118;1SELECTOR-119;1SELECTOR-120;1SELECTOR-121",
    ";1SELECTOR-122;1SELECTOR-123;1SELECTOR-124;1SELECTOR-125;1SELECTOR-126;1SELECTOR-127",
    ";1SELECTOR-128;1SELECTOR-129;1SELECTOR-130;1SELECTOR-131;1SELECTOR-132;1SELECTOR-133",
    ";1SELECTOR-134;1SELECTOR-135;1SELECTOR-136;1SELECTOR-137;1SELECTOR-138;1SELECTOR-139",
    ";1SELECTOR-140;1SELECTOR-141;1SELECTOR-142;1SELECTOR-143;1SELECTOR-144;1SELECTOR-145",
    ";1SELECTOR-146;1SELECTOR-147;1SELECTOR-148;1SELECTOR-149;1SELECTOR-150;1SELECTOR-151",
    ";1SELECTOR-152;1SELECTOR-153;1SELECTOR-154;1SELECTOR-155;1SELECTOR-156;1SELECTOR-157",
    ";1SELECTOR-158;1SELECTOR-159;1SELECTOR-160;1SELECTOR-161;1SELECTOR-162;1SELECTOR-163",
    ";1SELECTOR-164;1SELECTOR-165;1SELECTOR-166;1SELECTOR-167;1SELECTOR-168;1SELECTOR-169",
    ";1SELECTOR-170;1SELECTOR-171;1SELECTOR-172;1SELECTOR-173;1SELECTOR-174;1SELECTOR-175",
    ";1SELECTOR-176;1SELECTOR-177;1SELECTOR-178;1SELECTOR-179;1SELECTOR-180;1SELECTOR-181",
    ";1SELECTOR-182"],
   [";1SELECTOR-183;1SELECTOR-184;1SELECTOR-185;1SELECTOR-186;1SELECTOR-187;1SELECTOR-188",
    ";1SELECTOR-189;1SELECTOR-190;1SELECTOR-191;1SELECTOR-192;1SELECTOR-193;1SELECTOR-194",
    ";1SELECTOR-195;1SELECTOR-196;1SELECTOR-197;1SELECTOR-198;1SELECTOR-199;1SELECTOR-200",
    ";1SELECTOR-201;1SELECTOR-202;1SELECTOR-203;1SELECTOR-204;1SELECTOR-205;1SELECTOR-206",
    ";1SELECTOR-207;1SELECTOR-208;1SELECTOR-209;1SELECTOR-210;1SELECTOR-211;1SELECTOR-212",
    ";1SELECTOR-213;1SELECTOR-214;1SELECTOR-215;1SELECTOR-216;1SELECTOR-217;1SELECTOR-218",
    ";1SELECTOR-219;1SELECTOR-220;1SELECTOR-221;1SELECTOR-222;1SELECTOR-223;1SELECTOR-224",
    ";1SELECTOR-225;1SELECTOR-226;1SELECTOR-227;1SELECTOR-228;1SELECTOR-229;1SELECTOR-230",
    ";1SELECTOR-231;1SELECTOR-232;1SELECTOR-233;1SELECTOR-234;1SELECTOR-235;1SELECTOR-236",
    ";1SELECTOR-237;1SELECTOR-238;1SELECTOR-239;1SELECTOR-240;1SELECTOR-241;1SELECTOR-242",
    ";1SELECTOR-243;1SELECTOR-244;1SELECTOR-245;1SELECTOR-246;1SELECTOR-247;1SELECTOR-248",
    ";1SELECTOR-249;1SELECTOR-250;1SELECTOR-251;1SELECTOR-252;1SELECTOR-253;1SELECTOR-254",
    ";1SELECTOR-255;1SELECTOR-256;@0;0NULL;0START OF HEADING;2TEXT;0END OF TEXT;2TRANSMISSION",
    ";0ENQUIRY;0ACKNOWLEDGE;0ALERT;0BACKSPACE;0CHARACTER TABULATION;0LINE FEED;1TABULATION",
    ";0FORM FEED;0CARRIAGE RETURN;0SHIFT OUT;1IN;0DATA LINK ESCAPE;0DEVICE CONTROL ONE;2TWO",
    ";2THREE;2FOUR;0NEGATIVE ACKNOWLEDGE;0SYNCHRONOUS IDLE;0END OF TRANSMISSION BLOCK;0CANCEL",
    ";0END OF MEDIUM;0SUBSTITUTE;0ESCAPE;0INFORMATION SEPARATOR FOUR;2THREE;2TWO;2ONE;0SP;@7F",
    ";0DELETE;0PADDING CHARACTER;0HIGH OCTET PRESET;0BREAK PERMITTED HERE;0NO BREAK HERE;0INDEX",
    ";0NEXT LINE;0START OF SELECTED AREA;0END OF SELECTED AREA;0CHARACTER TABULATION SET",
    ";2WITH JUSTIFICATION;0LINE TABULATION SET;0PARTIAL LINE FORWARD;2BACKWARD;0REVERSE LINE FEED",
    ";0SINGLE SHIFT TWO;2THREE;0DEVICE CONTROL STRING;0PRIVATE USE ONE;2TWO;0SET TRANSMIT STATE",
    ";0CANCEL CHARACTER;0MESSAGE WAITING;0START OF GUARDED AREA;0END OF GUARDED AREA",
    ";0START OF STRING;0SINGLE GRAPHIC CHARACTER INTRODUCER;1CHARACTER INTRODUCER",
    ";0CONTROL SEQUENCE INTRODUCER;0STRING TERMINATOR;0OPERATING SYSTEM COMMAND;0PRIVACY MESSAGE",
    ";0APPLICATION PROGRAM COMMAND;0NBSP;@AD;0SHY;@1A2;0LATIN CAPITAL LETTER GHA",
    ";1SMALL LETTER GHA;@34F;0CGJ;@61C;0ALM;@709;0SYRIAC SUBLINEAR COLON SKEWED LEFT;@CDE",
    ";0KANNADA LETTER LLLA;@E9D;0LAO LETTER FO FON;@E9F;3FAY;@EA3;2RO;@EA5;2LO;@FD0",
    ";0TIBETAN MARK BKA- SHOG GI MGO RGYAN;@11EC;0HANGUL JONGSEONG YESIEUNG-KIYEOK",
    ";2YESIEUNG-SSANGKIYEOK;2SSANGYESIEUNG;2YESIEUNG-KHIEUKH;@180B;0FVS1;0FVS2;0FVS3;0MVS;0FVS4",
    ";@200B;0ZWSP;0ZWNJ;0ZWJ;0LRM;0RLM;@202A;0LRE;0RLE;0PDF;0LRO;0RLO;0NNBSP;@205F;0MMSP;0WJ",
    ";@2066;0LRI;0RLI;0FSI;0PDI;@2118;0WEIERSTRASS ELLIPTIC FUNCTION;@2448;0MICR ON US SYMBOL",
    ";1DASH SYMBOL;@2B7A;0LEFTWARDS TRIANGLE-HEADED ARROW WITH DOUBLE VERTICAL STROKE;@2B7C",
    ";0RIGHTWARDS TRIANGLE-HEADED ARROW WITH DOUBLE VERTICAL STROKE;@A015",
    ";0YI SYLLABLE ITERATION MARK;@AA6E;0MYANMAR LETTER KHAMTI LLA;@FE00;0VS1;0VS2;0VS3;0VS4;0VS5",
    ";0VS6;0VS7;0VS8;0VS9;0VS10;0VS11;0VS12;0VS13;0VS14;0VS15;0VS16;@FE18",
    ";0PRESENTATION FORM FOR VERTICAL RIGHT WHITE LENTICULAR BRACKET;@FEFF;0BYTE ORDER MARK",
    ";@122D4;0CUNEIFORM SIGN NU11 TENU;3OVER NU11 BUR OVER BUR;@16E56",
    ";0MEDEFAIDRIN CAPITAL LETTER H;3NG;@16E76;1SMALL LETTER H;3NG;@1B001;0HENTAIGANA LETTER E-1",
    ";@1D0C5;0BYZANTINE MUSICAL SYMBOL FTHORA SKLIRON CHROMA VASIS;@E0100;0VS17;0VS18;0VS19;0VS20",
    ";0VS21;0VS22;0VS23;0VS24;0VS25;0VS26;0VS27;0VS28;0VS29;0VS30;0VS31;0VS32;0VS33;0VS34;0VS35",
    ";0VS36;0VS37;0VS38;0VS39;0VS40;0VS41;0VS42;0VS43;0VS44;0VS45;0VS46;0VS47;0VS48;0VS49;0VS50",
    ";0VS51;0VS52;0VS53;0VS54;0VS55;0VS56;0VS57;0VS58;0VS59;0VS60;0VS61;0VS62;0VS63;0VS64;0VS65",
    ";0VS66;0VS67;0VS68;0VS69;0VS70;0VS71;0VS72;0VS73;0VS74;0VS75;0VS76;0VS77;0VS78;0VS79;0VS80",
    ";0VS81;0VS82;0VS83;0VS84;0VS85;0VS86;0VS87;0VS88;0VS89;0VS90;0VS91;0VS92;0VS93;0VS94;0VS95",
    ";0VS96;0VS97;0VS98;0VS99;0VS100;0VS101;0VS102;0VS103;0VS104;0VS105;0VS106;0VS107;0VS108",
    ";0VS109;0VS110;0VS111;0VS112;0VS113;0VS114;0VS115;0VS116;0VS117;0VS118;0VS119;0VS120;0VS121",
    ";0VS122;0VS123;0VS124;0VS125;0VS126;0VS127;0VS128;0VS129;0VS130;0VS131;0VS132;0VS133;0VS134",
    ";0VS135;0VS136;0VS137;0VS138;0VS139;0VS140;0VS141;0VS142;0VS143;0VS144;0VS145;0VS146;0VS147",
    ";0VS148;0VS149;0VS150;0VS151;0VS152;0VS153;0VS154;0VS155;0VS156;0VS157;0VS158;0VS159;0VS160",
    ";0VS161;0VS162;0VS163;0VS164;0VS165;0VS166;0VS167;0VS168;0VS169;0VS170;0VS171;0VS172;0VS173",
    ";0VS174;0VS175;0VS176;0VS177;0VS178;0VS179;0VS180;0VS181;0VS182;0VS183;0VS184;0VS185;0VS186",
    ";0VS187;0VS188;0VS189;0VS190;0VS191;0VS192;0VS193;0VS194;0VS195;0VS196;0VS197;0VS198;0VS199",
    ";0VS200;0VS201;0VS202;0VS203;0VS204;0VS205;0VS206;0VS207;0VS208;0VS209;0VS210;0VS211;0VS212",
    ";0VS213;0VS214;0VS215;0VS216;0VS217;0VS218;0VS219;0VS220;0VS221;0VS222;0VS223;0VS224;0VS225",
    ";0VS226;0VS227;0VS228;0VS229;0VS230;0VS231;0VS232;0VS233;0VS234;0VS235;0VS236;0VS237;0VS238",
    ";0VS239;0VS240;0VS241;0VS242;0VS243;0VS244;0VS245;0VS246;0VS247;0VS248;0VS249;0VS250;0VS251",
    ";0VS252;0VS253;0VS254;0VS255;0VS256"],
   [";@0;0NUL;0SOH;0STX;0ETX;0EOT;0ENQ;0ACK;0BEL;0BS;0HORIZONTAL TABULATION;0NEW LINE",
    ";0VERTICAL TABULATION;0FF;0CR;0LOCKING-SHIFT ONE;1ZERO;0DLE;0DC1;0DC2;0DC3;0DC4;0NAK;0SYN",
    ";0ETB;0CAN;0EOM;0SUB;0ESC;0FILE SEPARATOR;0GROUP SEPARATOR;0RECORD SEPARATOR;0UNIT SEPARATOR",
    ";@7F;0DEL;0PAD;0HOP;0BPH;0NBH;0IND;0NEL;0SSA;0ESA;0HORIZONTAL TABULATION SET",
    ";2WITH JUSTIFICATION;0VERTICAL TABULATION SET;0PARTIAL LINE DOWN;2UP;0REVERSE INDEX",
    ";0SINGLE-SHIFT-2;0SINGLE-SHIFT-3;0DCS;0PRIVATE USE-1;1USE-2;0STS;0CCH;0MW",
    ";0START OF PROTECTED AREA;0END OF PROTECTED AREA;0SOS;0SGC;0SCI;0CSI;0ST;0OSC;0PM;0APC;@FEFF",
    ";0BOM;@9;0HT;0END OF LINE;0VT;@E;0SO;0SI;@1C;0FS;0GS;0RS;0US;@88;0HTS;0HTJ;0VTS;0PLD;0PLU",
    ";0RI;0SS2;0SS3;@91;0PU1;0PU2;@96;0SPA;0EPA;@FEFF;0ZWNBSP;@9;0TAB;0LF;@A;0NL;@A;0EOL"]]

end Stencil.Text
