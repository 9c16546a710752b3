/-!
# Names of characters

Characters have names in capital letters, which are read in either case. Letters and digits are named by
what they have in common and what sets them apart; other characters have names of their own. The names of
the characters that texts and screens commonly hold are known here, and those of other scripts are not.

**Contents.**
* `letterFamilies`, `characterNames`: the known names;
* `isCharacterName`: whether a name is known.
-/

namespace Killswitch
namespace Text

/-- How the names of letters and digits start, and how they end. -/
def letterFamilies : List (String × List String) := [
  ("LATIN CAPITAL LETTER ", [
    "A", "B", "C", "D", "E", "F", "G", "H", "I", "J", "K", "L", "M", "N", "O", "P", "Q", "R", "S",
    "T", "U", "V", "W", "X", "Y", "Z", "A WITH GRAVE", "A WITH ACUTE", "A WITH CIRCUMFLEX",
    "A WITH TILDE", "A WITH DIAERESIS", "A WITH RING ABOVE", "AE", "C WITH CEDILLA",
    "E WITH GRAVE", "E WITH ACUTE", "E WITH CIRCUMFLEX", "E WITH DIAERESIS", "I WITH GRAVE",
    "I WITH ACUTE", "I WITH CIRCUMFLEX", "I WITH DIAERESIS", "ETH", "N WITH TILDE", "O WITH GRAVE",
    "O WITH ACUTE", "O WITH CIRCUMFLEX", "O WITH TILDE", "O WITH DIAERESIS", "O WITH STROKE",
    "U WITH GRAVE", "U WITH ACUTE", "U WITH CIRCUMFLEX", "U WITH DIAERESIS", "Y WITH ACUTE",
    "THORN"]),
  ("LATIN SMALL LETTER ", [
    "A", "B", "C", "D", "E", "F", "G", "H", "I", "J", "K", "L", "M", "N", "O", "P", "Q", "R", "S",
    "T", "U", "V", "W", "X", "Y", "Z", "SHARP S", "A WITH GRAVE", "A WITH ACUTE",
    "A WITH CIRCUMFLEX", "A WITH TILDE", "A WITH DIAERESIS", "A WITH RING ABOVE", "AE",
    "C WITH CEDILLA", "E WITH GRAVE", "E WITH ACUTE", "E WITH CIRCUMFLEX", "E WITH DIAERESIS",
    "I WITH GRAVE", "I WITH ACUTE", "I WITH CIRCUMFLEX", "I WITH DIAERESIS", "ETH", "N WITH TILDE",
    "O WITH GRAVE", "O WITH ACUTE", "O WITH CIRCUMFLEX", "O WITH TILDE", "O WITH DIAERESIS",
    "O WITH STROKE", "U WITH GRAVE", "U WITH ACUTE", "U WITH CIRCUMFLEX", "U WITH DIAERESIS",
    "Y WITH ACUTE", "THORN", "Y WITH DIAERESIS"]),
  ("GREEK CAPITAL LETTER ", [
    "ALPHA", "BETA", "GAMMA", "DELTA", "EPSILON", "ZETA", "ETA", "THETA", "IOTA", "KAPPA", "LAMDA",
    "MU", "NU", "XI", "OMICRON", "PI", "RHO", "SIGMA", "TAU", "UPSILON", "PHI", "CHI", "PSI",
    "OMEGA", "IOTA WITH DIALYTIKA", "UPSILON WITH DIALYTIKA"]),
  ("GREEK SMALL LETTER ", [
    "ALPHA WITH TONOS", "EPSILON WITH TONOS", "ETA WITH TONOS", "IOTA WITH TONOS",
    "UPSILON WITH DIALYTIKA AND TONOS", "ALPHA", "BETA", "GAMMA", "DELTA", "EPSILON", "ZETA",
    "ETA", "THETA", "IOTA", "KAPPA", "LAMDA", "MU", "NU", "XI", "OMICRON", "PI", "RHO",
    "FINAL SIGMA", "SIGMA", "TAU", "UPSILON", "PHI", "CHI", "PSI", "OMEGA"]),
  ("DIGIT ", [
    "ZERO", "ONE", "TWO", "THREE", "FOUR", "FIVE", "SIX", "SEVEN", "EIGHT", "NINE"]),
  ("VULGAR FRACTION ", [
    "ONE QUARTER", "ONE HALF", "THREE QUARTERS"])]

/-- The names of other characters. -/
def characterNames : List String := [
  "SPACE", "EXCLAMATION MARK", "QUOTATION MARK", "NUMBER SIGN", "DOLLAR SIGN", "PERCENT SIGN",
  "AMPERSAND", "APOSTROPHE", "LEFT PARENTHESIS", "RIGHT PARENTHESIS", "ASTERISK", "PLUS SIGN",
  "COMMA", "HYPHEN-MINUS", "FULL STOP", "SOLIDUS", "COLON", "SEMICOLON", "LESS-THAN SIGN",
  "EQUALS SIGN", "GREATER-THAN SIGN", "QUESTION MARK", "COMMERCIAL AT", "LEFT SQUARE BRACKET",
  "REVERSE SOLIDUS", "RIGHT SQUARE BRACKET", "CIRCUMFLEX ACCENT", "LOW LINE", "GRAVE ACCENT",
  "LEFT CURLY BRACKET", "VERTICAL LINE", "RIGHT CURLY BRACKET", "TILDE", "NO-BREAK SPACE",
  "INVERTED EXCLAMATION MARK", "CENT SIGN", "POUND SIGN", "CURRENCY SIGN", "YEN SIGN",
  "BROKEN BAR", "SECTION SIGN", "DIAERESIS", "COPYRIGHT SIGN", "FEMININE ORDINAL INDICATOR",
  "LEFT-POINTING DOUBLE ANGLE QUOTATION MARK", "NOT SIGN", "SOFT HYPHEN", "REGISTERED SIGN",
  "MACRON", "DEGREE SIGN", "PLUS-MINUS SIGN", "SUPERSCRIPT TWO", "SUPERSCRIPT THREE",
  "ACUTE ACCENT", "MICRO SIGN", "PILCROW SIGN", "MIDDLE DOT", "CEDILLA", "SUPERSCRIPT ONE",
  "MASCULINE ORDINAL INDICATOR", "RIGHT-POINTING DOUBLE ANGLE QUOTATION MARK",
  "INVERTED QUESTION MARK", "MULTIPLICATION SIGN", "DIVISION SIGN", "HYPHEN",
  "NON-BREAKING HYPHEN", "FIGURE DASH", "EN DASH", "EM DASH", "HORIZONTAL BAR",
  "DOUBLE VERTICAL LINE", "DOUBLE LOW LINE", "LEFT SINGLE QUOTATION MARK",
  "RIGHT SINGLE QUOTATION MARK", "SINGLE LOW-9 QUOTATION MARK",
  "SINGLE HIGH-REVERSED-9 QUOTATION MARK", "LEFT DOUBLE QUOTATION MARK",
  "RIGHT DOUBLE QUOTATION MARK", "DOUBLE LOW-9 QUOTATION MARK",
  "DOUBLE HIGH-REVERSED-9 QUOTATION MARK", "DAGGER", "DOUBLE DAGGER", "BULLET",
  "TRIANGULAR BULLET", "ONE DOT LEADER", "TWO DOT LEADER", "HORIZONTAL ELLIPSIS",
  "HYPHENATION POINT", "PER MILLE SIGN", "PER TEN THOUSAND SIGN", "PRIME", "DOUBLE PRIME",
  "TRIPLE PRIME", "REVERSED PRIME", "REVERSED DOUBLE PRIME", "REVERSED TRIPLE PRIME", "CARET",
  "SINGLE LEFT-POINTING ANGLE QUOTATION MARK", "SINGLE RIGHT-POINTING ANGLE QUOTATION MARK",
  "REFERENCE MARK", "DOUBLE EXCLAMATION MARK", "INTERROBANG", "OVERLINE", "EURO-CURRENCY SIGN",
  "COLON SIGN", "CRUZEIRO SIGN", "FRENCH FRANC SIGN", "LIRA SIGN", "MILL SIGN", "NAIRA SIGN",
  "PESETA SIGN", "RUPEE SIGN", "WON SIGN", "NEW SHEQEL SIGN", "DONG SIGN", "EURO SIGN", "KIP SIGN",
  "TUGRIK SIGN", "DRACHMA SIGN", "GERMAN PENNY SIGN", "PESO SIGN", "GUARANI SIGN", "AUSTRAL SIGN",
  "HRYVNIA SIGN", "CEDI SIGN", "LIVRE TOURNOIS SIGN", "SPESMILO SIGN", "TENGE SIGN",
  "INDIAN RUPEE SIGN", "TURKISH LIRA SIGN", "NORDIC MARK SIGN", "MANAT SIGN", "RUBLE SIGN",
  "LARI SIGN", "BITCOIN SIGN", "SOM SIGN", "TRADE MARK SIGN", "OHM SIGN", "ANGSTROM SIGN",
  "NUMERO SIGN", "LEFTWARDS ARROW", "UPWARDS ARROW", "RIGHTWARDS ARROW", "DOWNWARDS ARROW",
  "LEFT RIGHT ARROW", "UP DOWN ARROW", "NORTH WEST ARROW", "NORTH EAST ARROW", "SOUTH EAST ARROW",
  "SOUTH WEST ARROW", "LEFTWARDS DOUBLE ARROW", "RIGHTWARDS DOUBLE ARROW",
  "LEFT RIGHT DOUBLE ARROW", "FOR ALL", "PARTIAL DIFFERENTIAL", "THERE EXISTS", "EMPTY SET",
  "INCREMENT", "NABLA", "ELEMENT OF", "N-ARY PRODUCT", "N-ARY SUMMATION", "MINUS SIGN",
  "SQUARE ROOT", "INFINITY", "LOGICAL AND", "LOGICAL OR", "INTERSECTION", "UNION", "INTEGRAL",
  "ALMOST EQUAL TO", "NOT EQUAL TO", "IDENTICAL TO", "LESS-THAN OR EQUAL TO",
  "GREATER-THAN OR EQUAL TO", "ZERO WIDTH SPACE", "ZERO WIDTH NON-JOINER", "ZERO WIDTH JOINER",
  "LEFT-TO-RIGHT MARK", "RIGHT-TO-LEFT MARK", "LINE SEPARATOR", "PARAGRAPH SEPARATOR", "EM SPACE",
  "EN SPACE", "THIN SPACE", "IDEOGRAPHIC SPACE", "ZERO WIDTH NO-BREAK SPACE",
  "REPLACEMENT CHARACTER", "BOX DRAWINGS LIGHT HORIZONTAL", "BOX DRAWINGS LIGHT VERTICAL",
  "FULL BLOCK", "BLACK SQUARE", "WHITE SQUARE", "BLACK UP-POINTING TRIANGLE",
  "BLACK RIGHT-POINTING TRIANGLE", "BLACK DOWN-POINTING TRIANGLE", "BLACK LEFT-POINTING TRIANGLE",
  "WHITE CIRCLE", "BLACK CIRCLE", "BLACK SUN WITH RAYS", "CLOUD", "UMBRELLA", "SNOWMAN",
  "BLACK STAR", "WHITE STAR", "BLACK TELEPHONE", "SKULL AND CROSSBONES", "RADIOACTIVE SIGN",
  "WHITE FROWNING FACE", "WHITE SMILING FACE", "BLACK SMILING FACE", "BLACK SPADE SUIT",
  "BLACK CLUB SUIT", "BLACK HEART SUIT", "BLACK DIAMOND SUIT", "EIGHTH NOTE",
  "BEAMED EIGHTH NOTES", "CHECK MARK", "HEAVY CHECK MARK", "BALLOT X", "HEAVY BALLOT X",
  "SNOWFLAKE", "HEAVY BLACK HEART", "GRINNING FACE", "FACE WITH TEARS OF JOY",
  "SMILING FACE WITH SMILING EYES", "SNAKE", "PILE OF POO", "LOCK", "OPEN LOCK", "FIRE", "ROCKET",
  "THUMBS UP SIGN", "PARTY POPPER", "NULL", "BACKSPACE", "CHARACTER TABULATION", "LINE FEED",
  "LINE TABULATION", "FORM FEED", "CARRIAGE RETURN", "ESCAPE", "DELETE", "NEXT LINE",
  "BYTE ORDER MARK", "ALERT", "END OF LINE", "HORIZONTAL TABULATION", "NEW LINE", "NBSP", "TAB",
  "LF", "CR", "ZWJ", "ZWNJ", "BOM", "SHY"]

/-- Whether a name is that of a character. -/
def isCharacterName (name : List Char) : Bool :=
  let name := String.ofList (name.map Char.toUpper)
  characterNames.contains name
    || letterFamilies.any (fun (start, ends) => ends.any (fun e => name == start ++ e))

end Text
end Killswitch
