namespace HttpRouter

/-- What is wrong with the text of an expression. -/
inductive SyntaxError where
  | groupUnclosed
  | groupUnopened
  | groupName
  | groupNameRepeated (name : String)
  | lookAround
  | flag
  | flagRepeated
  | flagDangling
  | repetitionMissing
  | repetitionCount
  | escapeUnfinished
  | escapeUnknown
  | backReference
  | hexDigits
  | wordBoundary
  | propertyUnknown
  | classUnclosed
  | classItem
  | classRange
  | beyondAscii
  | nesting
  deriving Inhabited, DecidableEq, Repr

/-- The wording of a syntax error. -/
def SyntaxError.message : SyntaxError → String
  | groupUnclosed => "unclosed group"
  | groupUnopened => "unopened group"
  | groupName => "invalid capture group name"
  | groupNameRepeated name => s!"duplicate capture group name {name}"
  | lookAround => "look-around is not supported"
  | flag => "unrecognized flag"
  | flagRepeated => "duplicate flag"
  | flagDangling => "dangling flag negation operator"
  | repetitionMissing => "repetition operator missing expression"
  | repetitionCount => "invalid repetition count"
  | escapeUnfinished => "incomplete escape sequence"
  | escapeUnknown => "unrecognized escape sequence"
  | backReference => "backreferences are not supported"
  | hexDigits => "invalid hexadecimal literal"
  | wordBoundary => "invalid special word boundary assertion"
  | propertyUnknown => "Unicode property not found"
  | classUnclosed => "unclosed character class"
  | classItem => "invalid escape sequence found in character class"
  | classRange => "invalid character class range"
  | beyondAscii => "pattern can match beyond ASCII while Unicode is off"
  | nesting => "exceed the maximum number of nested parentheses/brackets"

/-- Why an expression is refused: its text is not well formed, or it would need too much
    memory. -/
inductive ExprError where
  | malformed (cause : SyntaxError)
  | tooLarge (limit : Nat)
  deriving Inhabited, DecidableEq, Repr

/-- The wording of a refusal. -/
def ExprError.message : ExprError → String
  | malformed cause => s!"regex parse error: {cause.message}"
  | tooLarge limit => s!"Compiled regex exceeds size limit of {limit} bytes."

end HttpRouter
