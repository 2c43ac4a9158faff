import HttpRouter.Text.Hex

namespace HttpRouter

/-- A value in a settings document. -/
inductive Scalar where
  | text (value : String)
  | bool (value : Bool)
  | integer (value : Int)
  deriving Inhabited, DecidableEq, Repr

namespace Document

/-- Whether a character may stand in a comment or within quotes on one line. -/
def isPlain (c : Char) : Bool :=
  c == '\t' || (' ' ≤ c && c != '\x7f')

/-- Drops the blanks within a line. -/
def skipSpaces (s : List Char) : List Char :=
  s.dropWhile fun c => c == ' ' || c == '\t'

/-- Drops the end of a line, or accepts the end of the document. -/
def skipNewline : List Char → Option (List Char)
  | [] => some []
  | '\n' :: rest => some rest
  | '\r' :: '\n' :: rest => some rest
  | _ => none

/-- Drops blanks, a comment if there is one, and the end of the line. -/
def skipLineEnd (s : List Char) : Option (List Char) :=
  match skipSpaces s with
  | '#' :: rest => skipNewline (rest.dropWhile isPlain)
  | rest => skipNewline rest

/-- The character that a backslash and a letter stand for. -/
def shortEscape? (c : Char) : Option Char :=
  match c with
  | 'b' => some '\x08'
  | 't' => some '\t'
  | 'n' => some '\n'
  | 'f' => some '\x0c'
  | 'r' => some '\r'
  | 'e' => some '\x1b'
  | '"' => some '"'
  | '\\' => some '\\'
  | _ => none

/-- Whether only blanks are left on the line. -/
def atLineEnd (s : List Char) : Bool :=
  match skipSpaces s with
  | '\n' :: _ => true
  | '\r' :: '\n' :: _ => true
  | _ => false

/-- The text up to the quotes that close a text of several lines, at the first three of them. Up to
    two further quotes belong to the text. -/
def closing (quote : Char) (rest : List Char) : List Char × List Char :=
  match rest with
  | a :: b :: rest =>
    if a = quote then if b = quote then ([quote, quote], rest) else ([quote], b :: rest)
    else ([], a :: b :: rest)
  | [a] => if a = quote then ([quote], []) else ([], [a])
  | [] => ([], [])

/-- Reads the rest of a text in double quotes, on one line or on several. On several lines a
    backslash at the end of a line takes all blanks after it away, which is under way while
    `folding` holds. -/
def readQuoted (several : Bool) : Bool → List Char → Option (List Char × List Char)
  | _, [] => none
  | _, '\\' :: rest =>
    if several ∧ atLineEnd rest then readQuoted several true rest
    else
      match rest with
      | 'x' :: a :: b :: rest => do
        let c ← (Text.hexNumber? [a, b]).bind Text.scalar?
        (readQuoted several false rest).map fun (s, rest) => (c :: s, rest)
      | 'u' :: a :: b :: c :: d :: rest => do
        let c ← (Text.hexNumber? [a, b, c, d]).bind Text.scalar?
        (readQuoted several false rest).map fun (s, rest) => (c :: s, rest)
      | 'U' :: a :: b :: c :: d :: e :: f :: g :: h :: rest => do
        let c ← (Text.hexNumber? [a, b, c, d, e, f, g, h]).bind Text.scalar?
        (readQuoted several false rest).map fun (s, rest) => (c :: s, rest)
      | c :: rest => do
        let c ← shortEscape? c
        (readQuoted several false rest).map fun (s, rest) => (c :: s, rest)
      | [] => none
  | _, '"' :: rest =>
    if several then
      match rest with
      | '"' :: '"' :: rest => some (closing '"' rest)
      | rest => (readQuoted several false rest).map fun (s, rest) => ('"' :: s, rest)
    else some ([], rest)
  | folding, '\r' :: '\n' :: rest =>
    if !several then none
    else if folding then readQuoted several true rest
    else (readQuoted several false rest).map fun (s, rest) => ('\r' :: '\n' :: s, rest)
  | folding, '\n' :: rest =>
    if !several then none
    else if folding then readQuoted several true rest
    else (readQuoted several false rest).map fun (s, rest) => ('\n' :: s, rest)
  | folding, c :: rest =>
    if folding ∧ (c = ' ' ∨ c = '\t') then readQuoted several true rest
    else if isPlain c then (readQuoted several false rest).map fun (s, rest) => (c :: s, rest)
    else none

/-- Reads the rest of a text in single quotes, where a backslash has no meaning. -/
def readLiteral (several : Bool) : List Char → Option (List Char × List Char)
  | [] => none
  | '\x27' :: rest =>
    if several then
      match rest with
      | '\x27' :: '\x27' :: rest => some (closing '\x27' rest)
      | rest => (readLiteral several rest).map fun (s, rest) => ('\x27' :: s, rest)
    else some ([], rest)
  | '\r' :: '\n' :: rest =>
    if several then (readLiteral several rest).map fun (s, rest) => ('\r' :: '\n' :: s, rest)
    else none
  | '\n' :: rest =>
    if several then (readLiteral several rest).map fun (s, rest) => ('\n' :: s, rest) else none
  | c :: rest =>
    if isPlain c then (readLiteral several rest).map fun (s, rest) => (c :: s, rest) else none

/-- Drops the line end right after the quotes that open a text of several lines. -/
def skipFirstNewline (s : List Char) : List Char :=
  match s with
  | '\n' :: rest => rest
  | '\r' :: '\n' :: rest => rest
  | s => s

/-- Reads a key, bare or in quotes. -/
def readKey (s : List Char) : Option (String × List Char) :=
  match s with
  | '"' :: rest => (readQuoted false false rest).map fun (key, rest) => (.ofList key, rest)
  | '\x27' :: rest => (readLiteral false rest).map fun (key, rest) => (.ofList key, rest)
  | s =>
    match s.span fun c => c.isAlphanum || c == '_' || c == '-' with
    | ([], _) => none
    | (key, rest) => some (.ofList key, rest)

/-- The number that digits write in a base. Single underscores may stand between digits. -/
def digitsValue? (base : Nat) (s : List Char) : Option Nat :=
  let groups := s.splitOn '_'
  if groups.any (·.isEmpty) then none
  else groups.flatten.foldl (fun value c => do
    let digit ← Text.hexValue? c
    if digit < base then return (← value) * base + digit else none) (some 0)

/-- A decimal number. It has no leading zeros. -/
def decimalValue? (s : List Char) : Option Nat :=
  match s with
  | '0' :: _ :: _ => none
  | s => digitsValue? 10 s

/-- The value that a bare word writes. Only decimal numbers may have a sign. -/
def wordValue? (word : List Char) : Option Scalar :=
  match word with
  | ['t', 'r', 'u', 'e'] => some (.bool true)
  | ['f', 'a', 'l', 's', 'e'] => some (.bool false)
  | '0' :: 'x' :: rest => (digitsValue? 16 rest).map (.integer ·)
  | '0' :: 'o' :: rest => (digitsValue? 8 rest).map (.integer ·)
  | '0' :: 'b' :: rest => (digitsValue? 2 rest).map (.integer ·)
  | '+' :: rest => (decimalValue? rest).map (.integer ·)
  | '-' :: rest => (decimalValue? rest).map fun n => .integer (-Int.ofNat n)
  | rest => (decimalValue? rest).map (.integer ·)

/-- Reads a value: a text, a truth value or a whole number. Tables, lists and other values hold nothing
    that settings could use and are refused. -/
def readValue (s : List Char) : Option (Scalar × List Char) :=
  let asText := fun (found : Option (List Char × List Char)) =>
    found.map fun (s, rest) => (Scalar.text (.ofList s), rest)
  match s with
  | '"' :: '"' :: '"' :: rest => asText (readQuoted true false (skipFirstNewline rest))
  | '"' :: rest => asText (readQuoted false false rest)
  | '\x27' :: '\x27' :: '\x27' :: rest => asText (readLiteral true (skipFirstNewline rest))
  | '\x27' :: rest => asText (readLiteral false rest)
  | s =>
    let (word, rest) := s.span fun c => c.isAlphanum || ['+', '-', '_', '.', ':'].contains c
    (wordValue? word).map (·, rest)

/-- Reads the lines of a document. A key may be given a value only once. The fuel bounds the lines,
    and the length of the text is enough of it. -/
def readLines : Nat → List (String × Scalar) → List Char → Option (List (String × Scalar))
  | _, entries, [] => some entries.reverse
  | 0, _, _ => none
  | fuel + 1, entries, s =>
    match skipLineEnd s with
    | some rest => readLines fuel entries rest
    | none => do
      let (key, rest) ← readKey (skipSpaces s)
      match skipSpaces rest with
      | '=' :: rest =>
        let (value, rest) ← readValue (skipSpaces rest)
        let rest ← skipLineEnd rest
        if entries.any (·.1 == key) then none
        else readLines fuel ((key, value) :: entries) rest
      | _ => none

/-- Reads a document. A byte order mark in front does not count. -/
def read (text : String) : Option (List (String × Scalar)) :=
  let s := match text.toList with
    | '\uFEFF' :: rest => rest
    | s => s
  readLines (s.length + 1) [] s

end Document

end HttpRouter
