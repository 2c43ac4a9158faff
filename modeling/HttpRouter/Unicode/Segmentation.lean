import HttpRouter.Unicode.Binary.Derived
import HttpRouter.Unicode.Script

namespace HttpRouter.Unicode

open Category Binary

/-- The points of a script, by its name. -/
private def ofScript (name : String) : CodePointSet :=
  .unionAll ((Script.all.filter (·.names.contains name)).map (·.points))

private def carriageReturn : CodePointSet := .single 0xD

private def lineFeed : CodePointSet := .single 0xA

private def zeroWidthJoiner : CodePointSet := .single 0x200D

/-- Marks that do not join the character before them. -/
private def detachedMark : CodePointSet := .ofRanges
  [(0x102b, 0x102c), (0x1038, 0x1038), (0x1062, 0x1064), (0x1067, 0x106d), (0x1083, 0x1083),
   (0x1087, 0x108c), (0x108f, 0x108f), (0x109a, 0x109c), (0x1a61, 0x1a61), (0x1a63, 0x1a64),
   (0xaa7b, 0xaa7b), (0xaa7d, 0xaa7d), (0x11720, 0x11721)]

namespace GraphemeBreak

private def extend : CodePointSet :=
  graphemeExtend ∪ emojiModifier

/-- Syllables of two letters stand at every twenty-eighth place among the Hangul syllables. -/
private def openSyllable : CodePointSet :=
  .ofPoints ((List.range 399).map (0xAC00 + 28 * ·))

private def control : CodePointSet :=
  .unionAll [Category.control, format, lineSeparator, paragraphSeparator,
    unassigned ∩ defaultIgnorableCodePoint] \
    .unionAll [carriageReturn, lineFeed, joinControl, prependedConcatenationMark, graphemeExtend]

/-- The values of Grapheme_Cluster_Break under their names. -/
def named : List (List String × CodePointSet) := [
  (["CR"], carriageReturn),
  (["LF"], lineFeed),
  (["Control", "CN"], control),
  (["Extend", "EX"], extend),
  (["ZWJ"], zeroWidthJoiner),
  (["Regional_Indicator", "RI"], regionalIndicator),
  (["Prepend", "PP"], prependedConcatenationMark ∪ .ofRanges
    [(0xd4e, 0xd4e), (0x111c2, 0x111c3), (0x113d1, 0x113d1), (0x1193f, 0x1193f), (0x11941, 0x11941),
     (0x11a3a, 0x11a3a), (0x11a84, 0x11a89), (0x11d46, 0x11d46), (0x11f02, 0x11f02)]),
  (["SpacingMark", "SM"],
    (spacingMark \ .unionAll [extend, detachedMark]) ∪ .ofPoints [0xE33, 0xEB3]),
  (["L"], .ofRanges [(0x1100, 0x115f), (0xa960, 0xa97c)]),
  (["V"], .ofRanges
    [(0x1160, 0x11a7), (0xd7b0, 0xd7c6), (0x16d63, 0x16d63), (0x16d67, 0x16d6a)]),
  (["T"], .ofRanges [(0x11a8, 0x11ff), (0xd7cb, 0xd7fb)]),
  (["LV"], openSyllable),
  (["LVT"], .range 0xAC00 0xD7A3 \ openSyllable)]

end GraphemeBreak

/-- Decimal digits, and signs that are read as part of a number. -/
private def numeric : CodePointSet :=
  decimalNumber ∪ .ofRanges
    [(0x600, 0x605), (0x66b, 0x66b), (0x6dd, 0x6dd), (0x890, 0x891), (0x8e2, 0x8e2),
     (0x19da, 0x19da), (0x110bd, 0x110bd), (0x110cd, 0x110cd)]

namespace WordBreak

private def extend : CodePointSet :=
  .unionAll [graphemeExtend, spacingMark, emojiModifier] \ zeroWidthJoiner

private def katakana : CodePointSet :=
  ofScript "Katakana" ∪ .ofRanges
    [(0x3031, 0x3035), (0x309b, 0x309c), (0x30a0, 0x30a0), (0x30fc, 0x30fc), (0xff70, 0xff70)]

private def hebrewLetter : CodePointSet :=
  ofScript "Hebrew" ∩ otherLetter

/-- Letters of scripts that put no blanks between words. -/
private def unspacedLetter : CodePointSet := .ofRanges
  [(0x1000, 0x102a), (0x103f, 0x103f), (0x1050, 0x1055), (0x105a, 0x105d), (0x1061, 0x1061),
   (0x1065, 0x1066), (0x106e, 0x1070), (0x1075, 0x1081), (0x108e, 0x108e), (0x1780, 0x17b3),
   (0x17d7, 0x17d7), (0x17dc, 0x17dc), (0x1950, 0x196d), (0x1970, 0x1974), (0x1980, 0x19ab),
   (0x19b0, 0x19c9), (0x1a20, 0x1a54), (0x1aa7, 0x1aa7), (0xa9e0, 0xa9e4), (0xa9e6, 0xa9ef),
   (0xa9fa, 0xa9fe), (0xaa60, 0xaa76), (0xaa7a, 0xaa7a), (0xaa7e, 0xaaaf), (0xaab1, 0xaab1),
   (0xaab5, 0xaab6), (0xaab9, 0xaabd), (0xaac0, 0xaac0), (0xaac2, 0xaac2), (0xaadb, 0xaadd),
   (0x11700, 0x1171a), (0x11740, 0x11746)]

/-- Signs that are not alphabetic and yet stand within words. -/
private def letterLike : CodePointSet := .ofRanges
  [(0x2c2, 0x2c5), (0x2d2, 0x2d7), (0x2de, 0x2df), (0x2e5, 0x2eb), (0x2ed, 0x2ed), (0x2ef, 0x2ff),
   (0x55a, 0x55c), (0x55e, 0x55e), (0x58a, 0x58a), (0x5f3, 0x5f3), (0x70f, 0x70f), (0xa708, 0xa716),
   (0xa720, 0xa721), (0xa789, 0xa78a), (0xab5b, 0xab5b)]

private def letter : CodePointSet :=
  (alphabetic \ .unionAll [ideographic, katakana, ofScript "Thai", ofScript "Lao",
    ofScript "Hiragana", extend, hebrewLetter, unspacedLetter]) ∪ letterLike

/-- The values of Word_Break under their names. -/
def named : List (List String × CodePointSet) := [
  (["CR"], carriageReturn),
  (["LF"], lineFeed),
  (["Newline", "NL"], .ofRanges [(0xb, 0xc), (0x85, 0x85), (0x2028, 0x2029)]),
  (["Extend"], extend),
  (["ZWJ"], zeroWidthJoiner),
  (["Regional_Indicator", "RI"], regionalIndicator),
  (["Format", "FO"], format \ .unionAll [joinControl, prependedConcatenationMark, graphemeExtend,
    .single 0x200B]),
  (["Katakana", "KA"], katakana),
  (["Hebrew_Letter", "HL"], hebrewLetter),
  (["ALetter", "LE"], letter),
  (["Single_Quote", "SQ"], .single 0x27),
  (["Double_Quote", "DQ"], .single 0x22),
  (["MidNumLet", "MB"], .ofPoints [0x2e, 0x2018, 0x2019, 0x2024, 0xfe52, 0xff07, 0xff0e]),
  (["MidLetter", "ML"], .ofPoints
    [0x3a, 0xb7, 0x387, 0x55f, 0x5f4, 0x2027, 0xfe13, 0xfe55, 0xff1a]),
  (["MidNum", "MN"], .ofPoints
    [0x2c, 0x3b, 0x37e, 0x589, 0x60c, 0x60d, 0x66c, 0x7f8, 0x2044, 0xfe50, 0xfe54, 0xff0c, 0xff1b]),
  (["Numeric", "NU"], numeric),
  (["ExtendNumLet", "EX"], .ofPoints
    [0x5f, 0x202f, 0x203f, 0x2040, 0x2054, 0xfe33, 0xfe34, 0xfe4d, 0xfe4e, 0xfe4f, 0xff3f]),
  (["WSegSpace"], spaceSeparator \ .ofPoints [0xA0, 0x2007, 0x202F])]

end WordBreak

namespace SentenceBreak

private def separator : CodePointSet := .ofPoints [0x85, 0x2028, 0x2029]

private def extend : CodePointSet :=
  .unionAll [graphemeExtend, spacingMark, zeroWidthJoiner]

/-- The capitals of the Georgian letters that keep their form at the head of a word. -/
private def georgianCapital : CodePointSet :=
  .ofRanges [(0x1C90, 0x1CBA), (0x1CBD, 0x1CBF)]

private def lower : CodePointSet :=
  lowercase \ .unionAll [graphemeExtend, caselessGeorgian]

private def upper : CodePointSet :=
  (uppercase ∪ titlecaseLetter) \ georgianCapital

/-- The full stop and its forms. -/
private def fullStop : CodePointSet := .ofPoints [0x2E, 0x2024, 0xFE52, 0xFF0E]

/-- The values of Sentence_Break under their names. -/
def named : List (List String × CodePointSet) := [
  (["CR"], carriageReturn),
  (["LF"], lineFeed),
  (["Sep", "SE"], separator),
  (["Extend", "EX"], extend),
  (["Format", "FO"], format \ .unionAll [joinControl, numeric, graphemeExtend]),
  (["Sp"], whiteSpace \ .unionAll [separator, carriageReturn, lineFeed]),
  (["Lower", "LO"], lower),
  (["Upper", "UP"], upper),
  (["OLetter", "LE"],
    (alphabetic \ .unionAll [lower, upper, extend]) ∪ .single 0x5F3),
  (["Numeric", "NU"], numeric ∪ .single 0x66C),
  (["ATerm", "AT"], fullStop),
  (["SContinue", "SC"], .ofRanges
    [(0x2c, 0x2d), (0x3a, 0x3b), (0x37e, 0x37e), (0x55d, 0x55d), (0x60c, 0x60d), (0x7f8, 0x7f8),
     (0x1802, 0x1802), (0x1808, 0x1808), (0x2013, 0x2014), (0x3001, 0x3001), (0xfe10, 0xfe11),
     (0xfe13, 0xfe14), (0xfe31, 0xfe32), (0xfe50, 0xfe51), (0xfe54, 0xfe55), (0xfe58, 0xfe58),
     (0xfe63, 0xfe63), (0xff0c, 0xff0d), (0xff1a, 0xff1b), (0xff64, 0xff64)]),
  (["STerm", "ST"], sentenceTerminal \ fullStop),
  (["Close", "CL"], .unionAll [openPunctuation, closePunctuation, initialPunctuation,
    finalPunctuation, .ofRanges
    [(0x22, 0x22), (0x27, 0x27), (0x275b, 0x2760), (0x2e00, 0x2e01), (0x2e06, 0x2e08),
     (0x2e0b, 0x2e0b), (0x1f676, 0x1f678)]])]

end SentenceBreak

end HttpRouter.Unicode
