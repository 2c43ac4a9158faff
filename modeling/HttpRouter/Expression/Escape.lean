import HttpRouter.Expression.Build
import HttpRouter.Expression.Flags
import HttpRouter.Text.Hex
import HttpRouter.Unicode.Named

namespace HttpRouter

/-- The characters that have a meaning of their own in an expression. -/
def metaCharacters : List Char :=
  ['\\', '.', '+', '*', '?', '(', ')', '|', '[', ']', '\x7b', '\x7d', '^', '$', '#', '&', '-', '~']

/-- Puts a backslash before every meta character. -/
def quote (text : List Char) : List Char :=
  text.flatMap fun c => if metaCharacters.contains c then ['\\', c] else [c]

/-- A single item of an expression or of a bracketed class. A literal written with two hexadecimal
    digits stands for a byte where Unicode is off. -/
inductive Atom where
  | literal (c : Char) (byte : Bool)
  | cls (a : CharClass)
  | look (a : Assertion)
  deriving Inhabited, DecidableEq, Repr

namespace Atom

/-- A given number of digits, with blanks dropped after each where blanks do not count. -/
def takeDigits (f : Flags) : Nat → List Char → Except SyntaxError (List Char × List Char)
  | 0, s => .ok ([], s)
  | _ + 1, [] => .error .escapeUnfinished
  | n + 1, c :: rest =>
    if (Text.hexValue? c).isSome then
      (takeDigits f n (f.skip rest)).map fun (digits, rest) => (c :: digits, rest)
    else .error .hexDigits

/-- Reads the character that hexadecimal digits stand for: a fixed number of them, or any number
    within braces. -/
def readHex (f : Flags) (width : Nat) (s : List Char) : Except SyntaxError (Atom × List Char) :=
  let value := fun (digits : List Char) =>
    match (Text.hexNumber? digits).bind Text.scalar? with
    | some c => Except.ok c
    | none => .error .hexDigits
  match f.skip s with
  | [] => .error .escapeUnfinished
  | '\x7b' :: rest =>
    match f.readUntil '\x7d' false rest with
    | none => .error .escapeUnfinished
    | some ([], _) => .error .hexDigits
    | some (digits, rest) => do return (.literal (← value digits) false, f.skip rest)
  | s => do
    let (digits, rest) ← takeDigits f width s
    return (.literal (← value digits) (width = 2), rest)

/-- Splits a property query at its comparison sign into the property, the value, and whether the
    sign asks for the characters with other values. -/
def splitQuery (query : List Char) : Option (List Char × List Char × Bool) :=
  let cut := fun (sign : Char) =>
    match query.span (· ≠ sign) with
    | (name, _ :: value) => some (name, value, false)
    | (_, []) => none
  match query.span (· ≠ '!') with
  | (name, '!' :: '=' :: value) => some (name, value, true)
  | _ => cut ':' <|> cut '='

/-- Reads a property query: one letter, or any text within braces. -/
def readQuery (f : Flags) (s : List Char) : Except SyntaxError (List Char × List Char) :=
  match f.skip s with
  | [] => .error .escapeUnfinished
  | '\x7b' :: rest =>
    match f.readUntil '\x7d' false rest with
    | none => .error .escapeUnfinished
    | some found => .ok found
  | '\\' :: _ => .error .propertyUnknown
  | c :: rest => .ok ([c], f.skip rest)

/-- The characters that a property query asks for, or all but those. -/
def ofQuery (f : Flags) (negated : Bool) (query : List Char) : Except SyntaxError CharClass :=
  if !f.unicode then .error .beyondAscii
  else
    let (found, negated) := match splitQuery query with
      | some (property, value, unequal) =>
        (Unicode.setOfValue? property value, negated != unequal)
      | none => (Unicode.setNamed? query, negated)
    match found with
    | none => .error .propertyUnknown
    | some points => f.foldNegate negated points

/-- The characters with a property, named by one letter or within braces. -/
def readProperty (f : Flags) (negated : Bool) (s : List Char) :
    Except SyntaxError (Atom × List Char) := do
  let (query, rest) ← readQuery f s
  return (.cls (← ofQuery f negated query), rest)

/-- The digits, blanks or word characters, or all but those. -/
def perlClass (f : Flags) (wide ascii : CharClass) (negated : Bool) : Except SyntaxError Atom :=
  if f.unicode then .ok (.cls (if negated then wide.compl else wide))
  else if negated then .error .beyondAscii
  else .ok (.cls ascii)

/-- A word boundary, which may be restricted by a name within braces. Braces that do not start
    with a letter or a hyphen are left for a repetition count. -/
def readBoundary (f : Flags) (s : List Char) : Except SyntaxError (Atom × List Char) :=
  let ascii := !f.unicode
  let plain := (look (.wordBoundary ascii), s)
  match s with
  | '\x7b' :: rest =>
    match f.skip rest with
    | [] => .error .wordBoundary
    | c :: _ =>
      if c.isAlpha ∨ c = '-' then
        match f.readUntil '\x7d' false rest with
        | none => .error .wordBoundary
        | some (word, rest) =>
          match String.ofList word with
          | "start" => .ok (look (.wordStart ascii), rest)
          | "end" => .ok (look (.wordEnd ascii), rest)
          | "start-half" => .ok (look (.wordStartHalf ascii), rest)
          | "end-half" => .ok (look (.wordEndHalf ascii), rest)
          | _ => .error .wordBoundary
      else .ok plain
  | _ => .ok plain

/-- Reads what follows a backslash. -/
def readEscape (f : Flags) : List Char → Except SyntaxError (Atom × List Char)
  | [] => .error .escapeUnfinished
  | c :: rest =>
    let ascii := !f.unicode
    let perl := fun wide narrow negated =>
      (perlClass f wide narrow negated).map (·, rest)
    match c with
    | 'x' => readHex f 2 rest
    | 'u' => readHex f 4 rest
    | 'U' => readHex f 8 rest
    | 'p' => readProperty f false rest
    | 'P' => readProperty f true rest
    | 'd' => perl .digit .asciiDigit false
    | 'D' => perl .digit .asciiDigit true
    | 's' => perl .space .asciiSpace false
    | 'S' => perl .space .asciiSpace true
    | 'w' => perl .word .asciiWord false
    | 'W' => perl .word .asciiWord true
    | 'a' => .ok (.literal '\x07' false, rest)
    | 'f' => .ok (.literal '\x0c' false, rest)
    | 't' => .ok (.literal '\t' false, rest)
    | 'n' => .ok (.literal '\n' false, rest)
    | 'r' => .ok (.literal '\r' false, rest)
    | 'v' => .ok (.literal '\x0b' false, rest)
    | 'A' => .ok (.look .textStart, rest)
    | 'z' => .ok (.look .textEnd, rest)
    | 'b' => readBoundary f rest
    | 'B' => .ok (.look (.notWordBoundary ascii), rest)
    | '<' => .ok (.look (.wordStart ascii), rest)
    | '>' => .ok (.look (.wordEnd ascii), rest)
    | c =>
      if c.isDigit then .error .backReference
      else if c.isAlpha ∨ 0x80 ≤ c.toNat then .error .escapeUnknown
      else .ok (.literal c false, rest)

/-- The character of a literal as a member of a class. Outside Unicode only ASCII is allowed. -/
def classMember (f : Flags) (c : Char) : Except SyntaxError Char :=
  if !f.unicode ∧ 0x80 ≤ c.toNat then .error .beyondAscii else .ok c

/-- The expression an atom stands for. Outside Unicode a literal byte beyond ASCII is refused. -/
def toExpr (f : Flags) : Atom → Except SyntaxError Expr
  | literal c byte =>
    if !f.unicode ∧ byte ∧ 0x80 ≤ c.toNat then .error .beyondAscii
    else .ok (.ofClass (f.fold (.single c)))
  | cls a => .ok (.ofClass a)
  | look a => .ok (.look a)

end Atom

end HttpRouter
