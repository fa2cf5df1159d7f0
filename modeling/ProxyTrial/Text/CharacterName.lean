import ProxyTrial.Text.Blank
/-!
# Characters by name

The names that Unicode gives to characters, for the blocks of the European
alphabets and of common signs.  The case of a name does not matter.

## Main definitions

* `named?`: the character with a name
-/

namespace ProxyTrial.Text

/-- The first of consecutive code points, what their names begin with, and the
rest of each name, with semicolons between them; a code point without a name has
an empty one. -/
def nameBlocks : List (Nat × String × String) := [
  -- Basic Latin
  (0x20, "",
    "SPACE;EXCLAMATION MARK;QUOTATION MARK;NUMBER SIGN;DOLLAR SIGN;PERCENT SIGN;AMPERSAND;" ++
    "APOSTROPHE;LEFT PARENTHESIS;RIGHT PARENTHESIS;ASTERISK;PLUS SIGN;COMMA;HYPHEN-MINUS;" ++
    "FULL STOP;SOLIDUS;DIGIT ZERO;DIGIT ONE;DIGIT TWO;DIGIT THREE;DIGIT FOUR;DIGIT FIVE;" ++
    "DIGIT SIX;DIGIT SEVEN;DIGIT EIGHT;DIGIT NINE;COLON;SEMICOLON;LESS-THAN SIGN;EQUALS SIGN;" ++
    "GREATER-THAN SIGN;QUESTION MARK;COMMERCIAL AT"),
  (0x41, "LATIN CAPITAL LETTER ",
    "A;B;C;D;E;F;G;H;I;J;K;L;M;N;O;P;Q;R;S;T;U;V;W;X;Y;Z"),
  (0x5B, "",
    "LEFT SQUARE BRACKET;REVERSE SOLIDUS;RIGHT SQUARE BRACKET;CIRCUMFLEX ACCENT;LOW LINE;" ++
    "GRAVE ACCENT"),
  (0x61, "LATIN SMALL LETTER ",
    "A;B;C;D;E;F;G;H;I;J;K;L;M;N;O;P;Q;R;S;T;U;V;W;X;Y;Z"),
  (0x7B, "",
    "LEFT CURLY BRACKET;VERTICAL LINE;RIGHT CURLY BRACKET;TILDE"),
  -- Latin-1 Supplement
  (0xA0, "",
    "NO-BREAK SPACE;INVERTED EXCLAMATION MARK;CENT SIGN;POUND SIGN;CURRENCY SIGN;YEN SIGN;" ++
    "BROKEN BAR;SECTION SIGN;DIAERESIS;COPYRIGHT SIGN;FEMININE ORDINAL INDICATOR;" ++
    "LEFT-POINTING DOUBLE ANGLE QUOTATION MARK;NOT SIGN;SOFT HYPHEN;REGISTERED SIGN;MACRON;" ++
    "DEGREE SIGN;PLUS-MINUS SIGN;SUPERSCRIPT TWO;SUPERSCRIPT THREE;ACUTE ACCENT;MICRO SIGN;" ++
    "PILCROW SIGN;MIDDLE DOT;CEDILLA;SUPERSCRIPT ONE;MASCULINE ORDINAL INDICATOR;" ++
    "RIGHT-POINTING DOUBLE ANGLE QUOTATION MARK;VULGAR FRACTION ONE QUARTER;" ++
    "VULGAR FRACTION ONE HALF;VULGAR FRACTION THREE QUARTERS;INVERTED QUESTION MARK"),
  (0xC0, "LATIN CAPITAL LETTER ",
    "A WITH GRAVE;A WITH ACUTE;A WITH CIRCUMFLEX;A WITH TILDE;A WITH DIAERESIS;" ++
    "A WITH RING ABOVE;AE;C WITH CEDILLA;E WITH GRAVE;E WITH ACUTE;E WITH CIRCUMFLEX;" ++
    "E WITH DIAERESIS;I WITH GRAVE;I WITH ACUTE;I WITH CIRCUMFLEX;I WITH DIAERESIS;ETH;" ++
    "N WITH TILDE;O WITH GRAVE;O WITH ACUTE;O WITH CIRCUMFLEX;O WITH TILDE;O WITH DIAERESIS"),
  (0xD7, "",
    "MULTIPLICATION SIGN;LATIN CAPITAL LETTER O WITH STROKE;LATIN CAPITAL LETTER U WITH GRAVE;" ++
    "LATIN CAPITAL LETTER U WITH ACUTE;LATIN CAPITAL LETTER U WITH CIRCUMFLEX;" ++
    "LATIN CAPITAL LETTER U WITH DIAERESIS;LATIN CAPITAL LETTER Y WITH ACUTE;" ++
    "LATIN CAPITAL LETTER THORN"),
  (0xDF, "LATIN SMALL LETTER ",
    "SHARP S;A WITH GRAVE;A WITH ACUTE;A WITH CIRCUMFLEX;A WITH TILDE;A WITH DIAERESIS;" ++
    "A WITH RING ABOVE;AE;C WITH CEDILLA;E WITH GRAVE;E WITH ACUTE;E WITH CIRCUMFLEX;" ++
    "E WITH DIAERESIS;I WITH GRAVE;I WITH ACUTE;I WITH CIRCUMFLEX;I WITH DIAERESIS;ETH;" ++
    "N WITH TILDE;O WITH GRAVE;O WITH ACUTE;O WITH CIRCUMFLEX;O WITH TILDE;O WITH DIAERESIS"),
  (0xF7, "",
    "DIVISION SIGN"),
  (0xF8, "LATIN SMALL LETTER ",
    "O WITH STROKE;U WITH GRAVE;U WITH ACUTE;U WITH CIRCUMFLEX;U WITH DIAERESIS;Y WITH ACUTE;" ++
    "THORN;Y WITH DIAERESIS"),
  -- Latin Extended-A
  (0x100, "",
    "LATIN CAPITAL LETTER A WITH MACRON;LATIN SMALL LETTER A WITH MACRON;" ++
    "LATIN CAPITAL LETTER A WITH BREVE;LATIN SMALL LETTER A WITH BREVE;" ++
    "LATIN CAPITAL LETTER A WITH OGONEK;LATIN SMALL LETTER A WITH OGONEK;" ++
    "LATIN CAPITAL LETTER C WITH ACUTE;LATIN SMALL LETTER C WITH ACUTE;" ++
    "LATIN CAPITAL LETTER C WITH CIRCUMFLEX;LATIN SMALL LETTER C WITH CIRCUMFLEX;" ++
    "LATIN CAPITAL LETTER C WITH DOT ABOVE;LATIN SMALL LETTER C WITH DOT ABOVE;" ++
    "LATIN CAPITAL LETTER C WITH CARON;LATIN SMALL LETTER C WITH CARON;" ++
    "LATIN CAPITAL LETTER D WITH CARON;LATIN SMALL LETTER D WITH CARON;" ++
    "LATIN CAPITAL LETTER D WITH STROKE;LATIN SMALL LETTER D WITH STROKE;" ++
    "LATIN CAPITAL LETTER E WITH MACRON;LATIN SMALL LETTER E WITH MACRON;" ++
    "LATIN CAPITAL LETTER E WITH BREVE;LATIN SMALL LETTER E WITH BREVE;" ++
    "LATIN CAPITAL LETTER E WITH DOT ABOVE;LATIN SMALL LETTER E WITH DOT ABOVE;" ++
    "LATIN CAPITAL LETTER E WITH OGONEK;LATIN SMALL LETTER E WITH OGONEK;" ++
    "LATIN CAPITAL LETTER E WITH CARON;LATIN SMALL LETTER E WITH CARON;" ++
    "LATIN CAPITAL LETTER G WITH CIRCUMFLEX;LATIN SMALL LETTER G WITH CIRCUMFLEX;" ++
    "LATIN CAPITAL LETTER G WITH BREVE;LATIN SMALL LETTER G WITH BREVE;" ++
    "LATIN CAPITAL LETTER G WITH DOT ABOVE;LATIN SMALL LETTER G WITH DOT ABOVE;" ++
    "LATIN CAPITAL LETTER G WITH CEDILLA;LATIN SMALL LETTER G WITH CEDILLA;" ++
    "LATIN CAPITAL LETTER H WITH CIRCUMFLEX;LATIN SMALL LETTER H WITH CIRCUMFLEX;" ++
    "LATIN CAPITAL LETTER H WITH STROKE;LATIN SMALL LETTER H WITH STROKE;" ++
    "LATIN CAPITAL LETTER I WITH TILDE;LATIN SMALL LETTER I WITH TILDE;" ++
    "LATIN CAPITAL LETTER I WITH MACRON;LATIN SMALL LETTER I WITH MACRON;" ++
    "LATIN CAPITAL LETTER I WITH BREVE;LATIN SMALL LETTER I WITH BREVE;" ++
    "LATIN CAPITAL LETTER I WITH OGONEK;LATIN SMALL LETTER I WITH OGONEK;" ++
    "LATIN CAPITAL LETTER I WITH DOT ABOVE;LATIN SMALL LETTER DOTLESS I;" ++
    "LATIN CAPITAL LIGATURE IJ;LATIN SMALL LIGATURE IJ;LATIN CAPITAL LETTER J WITH CIRCUMFLEX;" ++
    "LATIN SMALL LETTER J WITH CIRCUMFLEX;LATIN CAPITAL LETTER K WITH CEDILLA;" ++
    "LATIN SMALL LETTER K WITH CEDILLA;LATIN SMALL LETTER KRA;" ++
    "LATIN CAPITAL LETTER L WITH ACUTE;LATIN SMALL LETTER L WITH ACUTE;" ++
    "LATIN CAPITAL LETTER L WITH CEDILLA;LATIN SMALL LETTER L WITH CEDILLA;" ++
    "LATIN CAPITAL LETTER L WITH CARON;LATIN SMALL LETTER L WITH CARON;" ++
    "LATIN CAPITAL LETTER L WITH MIDDLE DOT;LATIN SMALL LETTER L WITH MIDDLE DOT;" ++
    "LATIN CAPITAL LETTER L WITH STROKE;LATIN SMALL LETTER L WITH STROKE;" ++
    "LATIN CAPITAL LETTER N WITH ACUTE;LATIN SMALL LETTER N WITH ACUTE;" ++
    "LATIN CAPITAL LETTER N WITH CEDILLA;LATIN SMALL LETTER N WITH CEDILLA;" ++
    "LATIN CAPITAL LETTER N WITH CARON;LATIN SMALL LETTER N WITH CARON;" ++
    "LATIN SMALL LETTER N PRECEDED BY APOSTROPHE;LATIN CAPITAL LETTER ENG;" ++
    "LATIN SMALL LETTER ENG;LATIN CAPITAL LETTER O WITH MACRON;" ++
    "LATIN SMALL LETTER O WITH MACRON;LATIN CAPITAL LETTER O WITH BREVE;" ++
    "LATIN SMALL LETTER O WITH BREVE;LATIN CAPITAL LETTER O WITH DOUBLE ACUTE;" ++
    "LATIN SMALL LETTER O WITH DOUBLE ACUTE;LATIN CAPITAL LIGATURE OE;LATIN SMALL LIGATURE OE;" ++
    "LATIN CAPITAL LETTER R WITH ACUTE;LATIN SMALL LETTER R WITH ACUTE;" ++
    "LATIN CAPITAL LETTER R WITH CEDILLA;LATIN SMALL LETTER R WITH CEDILLA;" ++
    "LATIN CAPITAL LETTER R WITH CARON;LATIN SMALL LETTER R WITH CARON;" ++
    "LATIN CAPITAL LETTER S WITH ACUTE;LATIN SMALL LETTER S WITH ACUTE;" ++
    "LATIN CAPITAL LETTER S WITH CIRCUMFLEX;LATIN SMALL LETTER S WITH CIRCUMFLEX;" ++
    "LATIN CAPITAL LETTER S WITH CEDILLA;LATIN SMALL LETTER S WITH CEDILLA;" ++
    "LATIN CAPITAL LETTER S WITH CARON;LATIN SMALL LETTER S WITH CARON;" ++
    "LATIN CAPITAL LETTER T WITH CEDILLA;LATIN SMALL LETTER T WITH CEDILLA;" ++
    "LATIN CAPITAL LETTER T WITH CARON;LATIN SMALL LETTER T WITH CARON;" ++
    "LATIN CAPITAL LETTER T WITH STROKE;LATIN SMALL LETTER T WITH STROKE;" ++
    "LATIN CAPITAL LETTER U WITH TILDE;LATIN SMALL LETTER U WITH TILDE;" ++
    "LATIN CAPITAL LETTER U WITH MACRON;LATIN SMALL LETTER U WITH MACRON;" ++
    "LATIN CAPITAL LETTER U WITH BREVE;LATIN SMALL LETTER U WITH BREVE;" ++
    "LATIN CAPITAL LETTER U WITH RING ABOVE;LATIN SMALL LETTER U WITH RING ABOVE;" ++
    "LATIN CAPITAL LETTER U WITH DOUBLE ACUTE;LATIN SMALL LETTER U WITH DOUBLE ACUTE;" ++
    "LATIN CAPITAL LETTER U WITH OGONEK;LATIN SMALL LETTER U WITH OGONEK;" ++
    "LATIN CAPITAL LETTER W WITH CIRCUMFLEX;LATIN SMALL LETTER W WITH CIRCUMFLEX;" ++
    "LATIN CAPITAL LETTER Y WITH CIRCUMFLEX;LATIN SMALL LETTER Y WITH CIRCUMFLEX;" ++
    "LATIN CAPITAL LETTER Y WITH DIAERESIS;LATIN CAPITAL LETTER Z WITH ACUTE;" ++
    "LATIN SMALL LETTER Z WITH ACUTE;LATIN CAPITAL LETTER Z WITH DOT ABOVE;" ++
    "LATIN SMALL LETTER Z WITH DOT ABOVE;LATIN CAPITAL LETTER Z WITH CARON;" ++
    "LATIN SMALL LETTER Z WITH CARON;LATIN SMALL LETTER LONG S"),
  -- Greek and Coptic
  (0x370, "",
    "GREEK CAPITAL LETTER HETA;GREEK SMALL LETTER HETA;GREEK CAPITAL LETTER ARCHAIC SAMPI;" ++
    "GREEK SMALL LETTER ARCHAIC SAMPI;GREEK NUMERAL SIGN;GREEK LOWER NUMERAL SIGN;" ++
    "GREEK CAPITAL LETTER PAMPHYLIAN DIGAMMA;GREEK SMALL LETTER PAMPHYLIAN DIGAMMA;;;" ++
    "GREEK YPOGEGRAMMENI;GREEK SMALL REVERSED LUNATE SIGMA SYMBOL;" ++
    "GREEK SMALL DOTTED LUNATE SIGMA SYMBOL;GREEK SMALL REVERSED DOTTED LUNATE SIGMA SYMBOL;" ++
    "GREEK QUESTION MARK;GREEK CAPITAL LETTER YOT;;;;;GREEK TONOS;GREEK DIALYTIKA TONOS;" ++
    "GREEK CAPITAL LETTER ALPHA WITH TONOS;GREEK ANO TELEIA;" ++
    "GREEK CAPITAL LETTER EPSILON WITH TONOS;GREEK CAPITAL LETTER ETA WITH TONOS;" ++
    "GREEK CAPITAL LETTER IOTA WITH TONOS;;GREEK CAPITAL LETTER OMICRON WITH TONOS;;" ++
    "GREEK CAPITAL LETTER UPSILON WITH TONOS;GREEK CAPITAL LETTER OMEGA WITH TONOS;" ++
    "GREEK SMALL LETTER IOTA WITH DIALYTIKA AND TONOS"),
  (0x391, "GREEK CAPITAL LETTER ",
    "ALPHA;BETA;GAMMA;DELTA;EPSILON;ZETA;ETA;THETA;IOTA;KAPPA;LAMDA;MU;NU;XI;OMICRON;PI;RHO"),
  (0x3A3, "GREEK CAPITAL LETTER ",
    "SIGMA;TAU;UPSILON;PHI;CHI;PSI;OMEGA;IOTA WITH DIALYTIKA;UPSILON WITH DIALYTIKA"),
  (0x3AC, "GREEK SMALL LETTER ",
    "ALPHA WITH TONOS;EPSILON WITH TONOS;ETA WITH TONOS;IOTA WITH TONOS;" ++
    "UPSILON WITH DIALYTIKA AND TONOS;ALPHA;BETA;GAMMA;DELTA;EPSILON;ZETA;ETA;THETA;IOTA;KAPPA;" ++
    "LAMDA;MU;NU;XI;OMICRON;PI;RHO;FINAL SIGMA;SIGMA;TAU;UPSILON;PHI;CHI;PSI;OMEGA;" ++
    "IOTA WITH DIALYTIKA;UPSILON WITH DIALYTIKA;OMICRON WITH TONOS;UPSILON WITH TONOS;" ++
    "OMEGA WITH TONOS"),
  (0x3CF, "",
    "GREEK CAPITAL KAI SYMBOL;GREEK BETA SYMBOL;GREEK THETA SYMBOL;" ++
    "GREEK UPSILON WITH HOOK SYMBOL;GREEK UPSILON WITH ACUTE AND HOOK SYMBOL;" ++
    "GREEK UPSILON WITH DIAERESIS AND HOOK SYMBOL;GREEK PHI SYMBOL;GREEK PI SYMBOL;" ++
    "GREEK KAI SYMBOL;GREEK LETTER ARCHAIC KOPPA;GREEK SMALL LETTER ARCHAIC KOPPA;" ++
    "GREEK LETTER STIGMA;GREEK SMALL LETTER STIGMA;GREEK LETTER DIGAMMA;" ++
    "GREEK SMALL LETTER DIGAMMA;GREEK LETTER KOPPA;GREEK SMALL LETTER KOPPA;GREEK LETTER SAMPI;" ++
    "GREEK SMALL LETTER SAMPI;COPTIC CAPITAL LETTER SHEI;COPTIC SMALL LETTER SHEI;" ++
    "COPTIC CAPITAL LETTER FEI;COPTIC SMALL LETTER FEI;COPTIC CAPITAL LETTER KHEI;" ++
    "COPTIC SMALL LETTER KHEI;COPTIC CAPITAL LETTER HORI;COPTIC SMALL LETTER HORI;" ++
    "COPTIC CAPITAL LETTER GANGIA;COPTIC SMALL LETTER GANGIA;COPTIC CAPITAL LETTER SHIMA;" ++
    "COPTIC SMALL LETTER SHIMA;COPTIC CAPITAL LETTER DEI;COPTIC SMALL LETTER DEI;" ++
    "GREEK KAPPA SYMBOL;GREEK RHO SYMBOL;GREEK LUNATE SIGMA SYMBOL;GREEK LETTER YOT;" ++
    "GREEK CAPITAL THETA SYMBOL;GREEK LUNATE EPSILON SYMBOL;" ++
    "GREEK REVERSED LUNATE EPSILON SYMBOL;GREEK CAPITAL LETTER SHO;GREEK SMALL LETTER SHO;" ++
    "GREEK CAPITAL LUNATE SIGMA SYMBOL;GREEK CAPITAL LETTER SAN;GREEK SMALL LETTER SAN;" ++
    "GREEK RHO WITH STROKE SYMBOL;GREEK CAPITAL REVERSED LUNATE SIGMA SYMBOL;" ++
    "GREEK CAPITAL DOTTED LUNATE SIGMA SYMBOL;GREEK CAPITAL REVERSED DOTTED LUNATE SIGMA SYMBOL"),
  -- Cyrillic
  (0x400, "CYRILLIC CAPITAL LETTER ",
    "IE WITH GRAVE;IO;DJE;GJE;UKRAINIAN IE;DZE;BYELORUSSIAN-UKRAINIAN I;YI;JE;LJE;NJE;TSHE;KJE;" ++
    "I WITH GRAVE;SHORT U;DZHE;A;BE;VE;GHE;DE;IE;ZHE;ZE;I;SHORT I;KA;EL;EM;EN;O;PE;ER;ES;TE;U;" ++
    "EF;HA;TSE;CHE;SHA;SHCHA;HARD SIGN;YERU;SOFT SIGN;E;YU;YA"),
  (0x430, "CYRILLIC SMALL LETTER ",
    "A;BE;VE;GHE;DE;IE;ZHE;ZE;I;SHORT I;KA;EL;EM;EN;O;PE;ER;ES;TE;U;EF;HA;TSE;CHE;SHA;SHCHA;" ++
    "HARD SIGN;YERU;SOFT SIGN;E;YU;YA;IE WITH GRAVE;IO;DJE;GJE;UKRAINIAN IE;DZE;" ++
    "BYELORUSSIAN-UKRAINIAN I;YI;JE;LJE;NJE;TSHE;KJE;I WITH GRAVE;SHORT U;DZHE"),
  -- General Punctuation
  (0x2000, "",
    "EN QUAD;EM QUAD;EN SPACE;EM SPACE;THREE-PER-EM SPACE;FOUR-PER-EM SPACE;SIX-PER-EM SPACE;" ++
    "FIGURE SPACE;PUNCTUATION SPACE;THIN SPACE;HAIR SPACE;ZERO WIDTH SPACE;" ++
    "ZERO WIDTH NON-JOINER;ZERO WIDTH JOINER;LEFT-TO-RIGHT MARK;RIGHT-TO-LEFT MARK;HYPHEN;" ++
    "NON-BREAKING HYPHEN;FIGURE DASH;EN DASH;EM DASH;HORIZONTAL BAR;DOUBLE VERTICAL LINE;" ++
    "DOUBLE LOW LINE;LEFT SINGLE QUOTATION MARK;RIGHT SINGLE QUOTATION MARK;" ++
    "SINGLE LOW-9 QUOTATION MARK;SINGLE HIGH-REVERSED-9 QUOTATION MARK;" ++
    "LEFT DOUBLE QUOTATION MARK;RIGHT DOUBLE QUOTATION MARK;DOUBLE LOW-9 QUOTATION MARK;" ++
    "DOUBLE HIGH-REVERSED-9 QUOTATION MARK;DAGGER;DOUBLE DAGGER;BULLET;TRIANGULAR BULLET;" ++
    "ONE DOT LEADER;TWO DOT LEADER;HORIZONTAL ELLIPSIS;HYPHENATION POINT;LINE SEPARATOR;" ++
    "PARAGRAPH SEPARATOR;LEFT-TO-RIGHT EMBEDDING;RIGHT-TO-LEFT EMBEDDING;" ++
    "POP DIRECTIONAL FORMATTING;LEFT-TO-RIGHT OVERRIDE;RIGHT-TO-LEFT OVERRIDE;" ++
    "NARROW NO-BREAK SPACE;PER MILLE SIGN;PER TEN THOUSAND SIGN;PRIME;DOUBLE PRIME;" ++
    "TRIPLE PRIME;REVERSED PRIME;REVERSED DOUBLE PRIME;REVERSED TRIPLE PRIME;CARET;" ++
    "SINGLE LEFT-POINTING ANGLE QUOTATION MARK;SINGLE RIGHT-POINTING ANGLE QUOTATION MARK;" ++
    "REFERENCE MARK;DOUBLE EXCLAMATION MARK;INTERROBANG;OVERLINE;UNDERTIE;CHARACTER TIE;" ++
    "CARET INSERTION POINT;ASTERISM;HYPHEN BULLET;FRACTION SLASH;" ++
    "LEFT SQUARE BRACKET WITH QUILL;RIGHT SQUARE BRACKET WITH QUILL;DOUBLE QUESTION MARK;" ++
    "QUESTION EXCLAMATION MARK;EXCLAMATION QUESTION MARK;TIRONIAN SIGN ET;" ++
    "REVERSED PILCROW SIGN;BLACK LEFTWARDS BULLET;BLACK RIGHTWARDS BULLET;LOW ASTERISK;" ++
    "REVERSED SEMICOLON;CLOSE UP;TWO ASTERISKS ALIGNED VERTICALLY;COMMERCIAL MINUS SIGN;" ++
    "SWUNG DASH;INVERTED UNDERTIE;FLOWER PUNCTUATION MARK;THREE DOT PUNCTUATION;" ++
    "QUADRUPLE PRIME;FOUR DOT PUNCTUATION;FIVE DOT PUNCTUATION;TWO DOT PUNCTUATION;" ++
    "FOUR DOT MARK;DOTTED CROSS;TRICOLON;VERTICAL FOUR DOTS;MEDIUM MATHEMATICAL SPACE;" ++
    "WORD JOINER;FUNCTION APPLICATION;INVISIBLE TIMES;INVISIBLE SEPARATOR;INVISIBLE PLUS;;" ++
    "LEFT-TO-RIGHT ISOLATE;RIGHT-TO-LEFT ISOLATE;FIRST STRONG ISOLATE;POP DIRECTIONAL ISOLATE;" ++
    "INHIBIT SYMMETRIC SWAPPING;ACTIVATE SYMMETRIC SWAPPING;INHIBIT ARABIC FORM SHAPING;" ++
    "ACTIVATE ARABIC FORM SHAPING;NATIONAL DIGIT SHAPES;NOMINAL DIGIT SHAPES"),
  -- Currency Symbols
  (0x20A0, "",
    "EURO-CURRENCY SIGN;COLON SIGN;CRUZEIRO SIGN;FRENCH FRANC SIGN;LIRA SIGN;MILL SIGN;" ++
    "NAIRA SIGN;PESETA SIGN;RUPEE SIGN;WON SIGN;NEW SHEQEL SIGN;DONG SIGN;EURO SIGN;KIP SIGN;" ++
    "TUGRIK SIGN;DRACHMA SIGN;GERMAN PENNY SIGN;PESO SIGN;GUARANI SIGN;AUSTRAL SIGN;" ++
    "HRYVNIA SIGN;CEDI SIGN;LIVRE TOURNOIS SIGN;SPESMILO SIGN;TENGE SIGN;INDIAN RUPEE SIGN;" ++
    "TURKISH LIRA SIGN;NORDIC MARK SIGN;MANAT SIGN;RUBLE SIGN;LARI SIGN;BITCOIN SIGN;SOM SIGN"),
  -- Arrows
  (0x2190, "",
    "LEFTWARDS ARROW;UPWARDS ARROW;RIGHTWARDS ARROW;DOWNWARDS ARROW;LEFT RIGHT ARROW;" ++
    "UP DOWN ARROW;NORTH WEST ARROW;NORTH EAST ARROW;SOUTH EAST ARROW;SOUTH WEST ARROW"),
  -- Miscellaneous Symbols
  (0x2600, "",
    "BLACK SUN WITH RAYS;CLOUD;UMBRELLA;SNOWMAN;COMET;BLACK STAR;WHITE STAR;LIGHTNING;" ++
    "THUNDERSTORM;SUN;ASCENDING NODE;DESCENDING NODE;CONJUNCTION;OPPOSITION;BLACK TELEPHONE;" ++
    "WHITE TELEPHONE;BALLOT BOX;BALLOT BOX WITH CHECK;BALLOT BOX WITH X;SALTIRE;" ++
    "UMBRELLA WITH RAIN DROPS;HOT BEVERAGE;WHITE SHOGI PIECE;BLACK SHOGI PIECE")]

/-- Further names. -/
def otherNames : List (String × Nat) := [
  ("NULL", 0x0), ("NUL", 0x0), ("ALERT", 0x7), ("BEL", 0x7), ("BACKSPACE", 0x8), ("BS", 0x8),
  ("CHARACTER TABULATION", 0x9), ("HORIZONTAL TABULATION", 0x9), ("HT", 0x9), ("TAB", 0x9),
  ("LINE FEED", 0xA), ("NEW LINE", 0xA), ("END OF LINE", 0xA), ("LF", 0xA), ("NL", 0xA),
  ("EOL", 0xA), ("LINE TABULATION", 0xB), ("VERTICAL TABULATION", 0xB), ("VT", 0xB),
  ("FORM FEED", 0xC), ("FF", 0xC), ("CARRIAGE RETURN", 0xD), ("CR", 0xD), ("ESCAPE", 0x1B),
  ("ESC", 0x1B), ("DELETE", 0x7F), ("DEL", 0x7F), ("NEXT LINE", 0x85), ("NEL", 0x85),
  ("NBSP", 0xA0), ("SHY", 0xAD), ("ZWSP", 0x200B), ("ZWNJ", 0x200C), ("ZWJ", 0x200D),
  ("BYTE ORDER MARK", 0xFEFF), ("BOM", 0xFEFF), ("ZWNBSP", 0xFEFF),
  ("ZERO WIDTH NO-BREAK SPACE", 0xFEFF), ("REPLACEMENT CHARACTER", 0xFFFD),
  ("TRADE MARK SIGN", 0x2122), ("GRINNING FACE", 0x1F600)]

/-- The code point with a name in a block. -/
def namedIn (name : List Char) : Nat × String × String → Option Nat
  | (first, start, rests) =>
    if start.toList.isPrefixOf name then
      let rest := name.drop start.length
      ((splitOnElem ';' rests.toList).findIdx? fun r => !r.isEmpty && r == rest).map (first + ·)
    else none

/-- The code point with a name. -/
def named? (name : String) : Option Nat :=
  let name := name.map Char.toUpper
  nameBlocks.findSome? (namedIn name.toList) <|> otherNames.lookup name

end ProxyTrial.Text
