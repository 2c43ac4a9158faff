import HttpRouter.Unicode.Binary.Basic
import HttpRouter.Unicode.Category
import HttpRouter.Unicode.Folding

namespace HttpRouter.Unicode.Binary

open Category

/-- The property Lowercase. -/
def lowercase : CodePointSet :=
  lowercaseLetter ∪ otherLowercase

/-- The property Uppercase. -/
def uppercase : CodePointSet :=
  uppercaseLetter ∪ otherUppercase

/-- The property Cased. -/
def cased : CodePointSet :=
  .unionAll [lowercase, uppercase, titlecaseLetter]

/-- The property Alphabetic. -/
def alphabetic : CodePointSet :=
  .unionAll [lowercase, uppercase, letter, letterNumber, otherAlphabetic]

/-- The property Math. -/
def math : CodePointSet :=
  mathSymbol ∪ otherMath

/-- The property Grapheme_Extend. -/
def graphemeExtend : CodePointSet :=
  .unionAll [nonspacingMark, enclosingMark, otherGraphemeExtend]

/-- The property Grapheme_Base. -/
def graphemeBase : CodePointSet :=
  assigned \ .unionAll [control, format, privateUse, lineSeparator, paragraphSeparator,
    graphemeExtend]

/-- The property Default_Ignorable_Code_Point. -/
def defaultIgnorableCodePoint : CodePointSet :=
  .unionAll [otherDefaultIgnorableCodePoint, format, variationSelector] \
    .unionAll [whiteSpace, .range 0xFFF9 0xFFFB, .range 0x13430 0x13440,
      prependedConcatenationMark]

/-- Punctuation that letter case passes over within a word, such as the apostrophe. -/
private def midwordPunctuation : CodePointSet := .ofPoints
  [0x27, 0x2e, 0x3a, 0xb7, 0x387, 0x55f, 0x5f4, 0x2018, 0x2019, 0x2024, 0x2027, 0xfe13, 0xfe52,
   0xfe55, 0xff07, 0xff0e, 0xff1a]

/-- The property Case_Ignorable. -/
def caseIgnorable : CodePointSet :=
  .unionAll [nonspacingMark, enclosingMark, format, modifierLetter, modifierSymbol,
    midwordPunctuation]

/-- What no identifier of a pattern holds. -/
private def patternReserved : CodePointSet :=
  patternSyntax ∪ patternWhiteSpace

/-- The property ID_Start. -/
def idStart : CodePointSet :=
  .unionAll [letter, letterNumber, otherIdStart] \ patternReserved

/-- The property ID_Continue. -/
def idContinue : CodePointSet :=
  .unionAll [idStart, nonspacingMark, spacingMark, decimalNumber, connectorPunctuation,
    otherIdContinue] \ patternReserved

/-- Characters that may stand in an identifier and whose compatibility form may not. -/
private def unstableIdentifier : CodePointSet := .ofRanges
  [(0x37a, 0x37a), (0x309b, 0x309c), (0xfc5e, 0xfc63), (0xfdfa, 0xfdfb), (0xfe70, 0xfe70),
   (0xfe72, 0xfe72), (0xfe74, 0xfe74), (0xfe76, 0xfe76), (0xfe78, 0xfe78), (0xfe7a, 0xfe7a),
   (0xfe7c, 0xfe7c), (0xfe7e, 0xfe7e)]

/-- The property XID_Continue. -/
def xidContinue : CodePointSet :=
  idContinue \ unstableIdentifier

/-- The property XID_Start. Four more characters have a form that may only continue an
    identifier. -/
def xidStart : CodePointSet :=
  idStart \ .unionAll [unstableIdentifier, .ofPoints [0xe33, 0xeb3, 0xff9e, 0xff9f]]

/-- Characters whose case mapping takes several characters and that fold to themselves alone. -/
private def expandingCase : CodePointSet := .ofRanges
  [(0x130, 0x131), (0x149, 0x149), (0x1f0, 0x1f0), (0x587, 0x587), (0x1e96, 0x1e9a),
   (0x1f50, 0x1f50), (0x1f52, 0x1f52), (0x1f54, 0x1f54), (0x1f56, 0x1f56), (0x1fb2, 0x1fb2),
   (0x1fb4, 0x1fb4), (0x1fb6, 0x1fb7), (0x1fc2, 0x1fc2), (0x1fc4, 0x1fc4), (0x1fc6, 0x1fc7),
   (0x1fd2, 0x1fd2), (0x1fd6, 0x1fd7), (0x1fe2, 0x1fe2), (0x1fe4, 0x1fe4), (0x1fe6, 0x1fe7),
   (0x1ff2, 0x1ff2), (0x1ff4, 0x1ff4), (0x1ff6, 0x1ff7), (0xfb00, 0xfb04), (0xfb13, 0xfb17)]

/-- The property Changes_When_Casemapped. -/
def changesWhenCasemapped : CodePointSet :=
  Folding.points ∪ expandingCase

/-- The property Changes_When_Lowercased. -/
def changesWhenLowercased : CodePointSet :=
  changesWhenCasemapped \ lowercase

/-- The property Changes_When_Uppercased. -/
def changesWhenUppercased : CodePointSet :=
  changesWhenCasemapped \ uppercase

/-- Georgian letters that have capitals and keep their form at the head of a word. -/
def caselessGeorgian : CodePointSet :=
  .ofRanges [(0x10D0, 0x10FA), (0x10FD, 0x10FF)]

/-- The property Changes_When_Titlecased. The capitals of four digraphs have it, though they are
    upper case. -/
def changesWhenTitlecased : CodePointSet :=
  (changesWhenUppercased ∪ .ofPoints [0x1C4, 0x1C7, 0x1CA, 0x1F1]) \
    (titlecaseLetter ∪ caselessGeorgian)

/-- Lower-case characters that fold to others. -/
private def foldedLowercase : CodePointSet := .ofRanges
  [(0xb5, 0xb5), (0xdf, 0xdf), (0x149, 0x149), (0x17f, 0x17f), (0x345, 0x345), (0x3c2, 0x3c2),
   (0x3d0, 0x3d1), (0x3d5, 0x3d6), (0x3f0, 0x3f1), (0x3f5, 0x3f5), (0x587, 0x587), (0x13f8, 0x13fd),
   (0x1c80, 0x1c88), (0x1e9a, 0x1e9b), (0x1f80, 0x1f87), (0x1f90, 0x1f97), (0x1fa0, 0x1fa7),
   (0x1fb2, 0x1fb4), (0x1fb7, 0x1fb7), (0x1fc2, 0x1fc4), (0x1fc7, 0x1fc7), (0x1ff2, 0x1ff4),
   (0x1ff7, 0x1ff7), (0xab70, 0xabbf), (0xfb00, 0xfb06), (0xfb13, 0xfb17)]

/-- The property Changes_When_Casefolded. Cherokee folds to its capitals. -/
def changesWhenCasefolded : CodePointSet :=
  (changesWhenLowercased \ .range 0x13A0 0x13F5) ∪ foldedLowercase

end HttpRouter.Unicode.Binary
