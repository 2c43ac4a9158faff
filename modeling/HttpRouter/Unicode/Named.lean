import HttpRouter.Unicode.Age
import HttpRouter.Unicode.Segmentation

namespace HttpRouter.Unicode

/-- The form of a property name in which loosely equal names are the same: without spaces, hyphens,
    underscores and a leading "is", and with all letters in lower case. A name that is "is" and the
    letter c keeps its first two letters, as that is a name of its own. -/
def looseName (name : List Char) : List Char :=
  let plain := fun (cs : List Char) =>
    (cs.filter fun c => c.toNat < 0x80 && c != ' ' && c != '_' && c != '-').map Char.toLower
  match name with
  | i :: s :: rest =>
    if i.toLower = 'i' ∧ s.toLower = 's' then
      if plain rest = ['c'] then ['i', 's', 'c'] else plain rest
    else plain name
  | _ => plain name

/-- Whether one of the names is loosely the given one, which is in its loose form. -/
def namedBy (loose : List Char) (names : List String) : Bool :=
  names.any fun name => looseName name.toList == loose

/-- The first set with a name that is loosely the given one. -/
def findNamed (entries : List (List String × CodePointSet)) (loose : List Char) :
    Option CodePointSet :=
  (entries.find? fun (names, _) => namedBy loose names).map (·.2)

/-- The binary properties under their names. -/
def Binary.named : List (List String × CodePointSet) := [
  (["ASCII_Hex_Digit", "AHex"], asciiHexDigit),
  (["Alphabetic", "Alpha"], alphabetic),
  (["Bidi_Control", "Bidi_C"], bidiControl),
  (["Bidi_Mirrored", "Bidi_M"], bidiMirrored),
  (["Case_Ignorable", "CI"], caseIgnorable),
  (["Cased"], cased),
  (["Changes_When_Casefolded", "CWCF"], changesWhenCasefolded),
  (["Changes_When_Casemapped", "CWCM"], changesWhenCasemapped),
  (["Changes_When_Lowercased", "CWL"], changesWhenLowercased),
  (["Changes_When_Titlecased", "CWT"], changesWhenTitlecased),
  (["Changes_When_Uppercased", "CWU"], changesWhenUppercased),
  (["Dash"], dash),
  (["Default_Ignorable_Code_Point", "DI"], defaultIgnorableCodePoint),
  (["Deprecated", "Dep"], deprecated),
  (["Diacritic", "Dia"], diacritic),
  (["Emoji"], emoji),
  (["Emoji_Component", "EComp"], emojiComponent),
  (["Emoji_Modifier", "EMod"], emojiModifier),
  (["Emoji_Modifier_Base", "EBase"], emojiModifierBase),
  (["Emoji_Presentation", "EPres"], emojiPresentation),
  (["Extended_Pictographic", "ExtPict"], extendedPictographic),
  (["Extender", "Ext"], extender),
  (["Grapheme_Base", "Gr_Base"], graphemeBase),
  (["Grapheme_Extend", "Gr_Ext"], graphemeExtend),
  (["Grapheme_Link", "Gr_Link"], graphemeLink),
  (["Hex_Digit", "Hex"], hexDigit),
  (["Hyphen"], hyphen),
  (["ID_Compat_Math_Continue"], idCompatMathContinue),
  (["ID_Compat_Math_Start"], idCompatMathStart),
  (["ID_Continue", "IDC"], idContinue),
  (["ID_Start", "IDS"], idStart),
  (["IDS_Binary_Operator", "IDSB"], idsBinaryOperator),
  (["IDS_Trinary_Operator", "IDST"], idsTrinaryOperator),
  (["IDS_Unary_Operator", "IDSU"], idsUnaryOperator),
  (["Ideographic", "Ideo"], ideographic),
  (["Join_Control", "Join_C"], joinControl),
  (["Logical_Order_Exception", "LOE"], logicalOrderException),
  (["Lowercase", "Lower"], lowercase),
  (["Math"], math),
  (["Modifier_Combining_Mark", "MCM"], modifierCombiningMark),
  (["Noncharacter_Code_Point", "NChar"], noncharacterCodePoint),
  (["Other_Alphabetic", "OAlpha"], otherAlphabetic),
  (["Other_Default_Ignorable_Code_Point", "ODI"], otherDefaultIgnorableCodePoint),
  (["Other_Grapheme_Extend", "OGr_Ext"], otherGraphemeExtend),
  (["Other_ID_Continue", "OIDC"], otherIdContinue),
  (["Other_ID_Start", "OIDS"], otherIdStart),
  (["Other_Lowercase", "OLower"], otherLowercase),
  (["Other_Math", "OMath"], otherMath),
  (["Other_Uppercase", "OUpper"], otherUppercase),
  (["Pattern_Syntax", "Pat_Syn"], patternSyntax),
  (["Pattern_White_Space", "Pat_WS"], patternWhiteSpace),
  (["Prepended_Concatenation_Mark", "PCM"], prependedConcatenationMark),
  (["Quotation_Mark", "QMark"], quotationMark),
  (["Radical"], radical),
  (["Regional_Indicator", "RI"], regionalIndicator),
  (["Sentence_Terminal", "STerm"], sentenceTerminal),
  (["Soft_Dotted", "SD"], softDotted),
  (["Terminal_Punctuation", "Term"], terminalPunctuation),
  (["Unified_Ideograph", "UIdeo"], unifiedIdeograph),
  (["Uppercase", "Upper"], uppercase),
  (["Variation_Selector", "VS"], variationSelector),
  (["White_Space", "WSpace", "space"], whiteSpace),
  (["XID_Continue", "XIDC"], xidContinue),
  (["XID_Start", "XIDS"], xidStart)]

/-- The script with a name that is loosely the given one. -/
def Script.named? (loose : List Char) : Option Script :=
  all.find? fun script => namedBy loose script.names

/-- The set a bare name stands for: a binary property, else a general category, else a script. -/
def setNamed? (name : List Char) : Option CodePointSet :=
  let name := looseName name
  findNamed Binary.named name <|> findNamed Category.named name <|>
    (Script.named? name).map (·.points)

/-- The properties that have named values, each under its own names and with the set that it gives
    to the loose name of a value. -/
def valuedProperties : List (List String × (List Char → Option CodePointSet)) := [
  (["General_Category", "gc"], findNamed Category.named),
  (["Script", "sc"], fun value => (Script.named? value).map (·.points)),
  (["Script_Extensions", "scx"], fun value => (Script.named? value).map Script.extension),
  (["Age"], fun value => Age.upTo (namedBy value) Age.editions),
  (["Grapheme_Cluster_Break", "GCB"], findNamed GraphemeBreak.named),
  (["Word_Break", "WB"], findNamed WordBreak.named),
  (["Sentence_Break", "SB"], findNamed SentenceBreak.named)]

/-- The set that a property gives to one of its values. -/
def setOfValue? (property value : List Char) : Option CodePointSet :=
  (valuedProperties.find? fun (names, _) => namedBy (looseName property) names).bind
    fun (_, find) => find (looseName value)

end HttpRouter.Unicode
