import HttpRouter.Json.Basic
import HttpRouter.Text.Hex

namespace HttpRouter.Json

/-- Drops the blanks that may stand between two tokens. -/
def skipBlanks (s : List Char) : List Char :=
  s.dropWhile fun c => c == ' ' || c == '\t' || c == '\n' || c == '\r'

/-- The character that a backslash and a letter stand for. -/
def shortEscape? (c : Char) : Option Char :=
  match c with
  | '"' => some '"'
  | '\\' => some '\\'
  | '/' => some '/'
  | 'b' => some '\x08'
  | 'f' => some '\x0c'
  | 'n' => some '\n'
  | 'r' => some '\r'
  | 't' => some '\t'
  | _ => none

/-- Reads the rest of a string after its opening quote. A character beyond the sixteen-bit range is
    written as two units, and half of such a pair is no character. -/
def readStringRest : List Char → Option (List Char × List Char)
  | [] => none
  | '"' :: rest => some ([], rest)
  | '\\' :: 'u' :: a :: b :: c :: d :: rest => do
    let unit ← Text.hexNumber? [a, b, c, d]
    if 0xD800 ≤ unit ∧ unit ≤ 0xDBFF then
      match rest with
      | '\\' :: 'u' :: e :: f :: g :: h :: rest => do
        let low ← Text.hexNumber? [e, f, g, h]
        if 0xDC00 ≤ low ∧ low ≤ 0xDFFF then
          let point := 0x10000 + (unit - 0xD800) * 0x400 + (low - 0xDC00)
          (readStringRest rest).map fun (s, rest) => (.ofNat point :: s, rest)
        else none
      | _ => none
    else if 0xDC00 ≤ unit ∧ unit ≤ 0xDFFF then none
    else (readStringRest rest).map fun (s, rest) => (.ofNat unit :: s, rest)
  | '\\' :: c :: rest => do
    let c ← shortEscape? c
    (readStringRest rest).map fun (s, rest) => (c :: s, rest)
  | c :: rest =>
    if c.toNat < 0x20 then none
    else (readStringRest rest).map fun (s, rest) => (c :: s, rest)

/-- Reads a string. -/
def readString (s : List Char) : Option (String × List Char) :=
  match s with
  | '"' :: rest => (readStringRest rest).map fun (s, rest) => (.ofList s, rest)
  | _ => none

/-- Skips the rest of a string after its opening quote. Units need not pair up here. -/
def skipStringRest : List Char → Option (List Char)
  | [] => none
  | '"' :: rest => some rest
  | '\\' :: 'u' :: a :: b :: c :: d :: rest => do
    let _ ← Text.hexNumber? [a, b, c, d]
    skipStringRest rest
  | '\\' :: c :: rest => do
    let _ ← shortEscape? c
    skipStringRest rest
  | c :: rest => if c.toNat < 0x20 then none else skipStringRest rest

/-- Skips at least one digit. -/
def skipDigits (s : List Char) : Option (List Char) :=
  if (s.head?.any Char.isDigit) then some (s.dropWhile Char.isDigit) else none

/-- Skips a number. Its whole part has no leading zeros. -/
def skipNumber (s : List Char) : Option (List Char) := do
  let s := match s with
    | '-' :: rest => rest
    | s => s
  let s ← match s with
    | '0' :: rest => if rest.head?.any Char.isDigit then none else some rest
    | s => skipDigits s
  let s ← match s with
    | '.' :: rest => skipDigits rest
    | s => some s
  match s with
  | c :: rest =>
    if c = 'e' ∨ c = 'E' then
      match rest with
      | '+' :: rest => skipDigits rest
      | '-' :: rest => skipDigits rest
      | rest => skipDigits rest
    else some s
  | [] => some s

mutual

/-- Skips a value of any kind, of which only the form is checked. The fuel bounds the tokens, and the
    length of the text is enough. -/
def skipValue : Nat → List Char → Option (List Char)
  | 0, _ => none
  | fuel + 1, s =>
    match skipBlanks s with
    | 'n' :: 'u' :: 'l' :: 'l' :: rest => some rest
    | 't' :: 'r' :: 'u' :: 'e' :: rest => some rest
    | 'f' :: 'a' :: 'l' :: 's' :: 'e' :: rest => some rest
    | '"' :: rest => skipStringRest rest
    | '[' :: rest =>
      match skipBlanks rest with
      | ']' :: rest => some rest
      | rest => skipItems fuel rest
    | '\x7b' :: rest =>
      match skipBlanks rest with
      | '\x7d' :: rest => some rest
      | rest => skipMembers fuel rest
    | s => skipNumber s

/-- Skips the items of an array that has at least one more of them. -/
def skipItems : Nat → List Char → Option (List Char)
  | 0, _ => none
  | fuel + 1, s => do
    match skipBlanks (← skipValue fuel s) with
    | ',' :: rest => skipItems fuel rest
    | ']' :: rest => some rest
    | _ => none

/-- Skips the members of an object that has at least one more of them. -/
def skipMembers : Nat → List Char → Option (List Char)
  | 0, _ => none
  | fuel + 1, s =>
    match skipBlanks s with
    | '"' :: rest => do
      match skipBlanks (← skipStringRest rest) with
      | ':' :: rest =>
        match skipBlanks (← skipValue fuel rest) with
        | ',' :: rest => skipMembers fuel rest
        | '\x7d' :: rest => some rest
        | _ => none
      | _ => none
    | _ => none

end

end HttpRouter.Json
