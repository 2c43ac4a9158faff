import HttpRouter.Text.Quoted

namespace HttpRouter

/-- A number: whole, or with decimal places after the point. -/
inductive JsonNumber where
  | whole (value : Int)
  | decimal (mantissa : Int) (places : Nat)
  deriving Inhabited, DecidableEq, Repr

namespace JsonNumber

/-- Decimal digits without the zeros at the end, but at least one. -/
def trimZeros (digits : List Char) : List Char :=
  match (digits.reverse.dropWhile (· == '0')).reverse with
  | [] => ['0']
  | kept => kept

/-- The number as it is written. A number with decimal places keeps at least one of them. -/
def text : JsonNumber → String
  | whole value => toString value
  | decimal mantissa places =>
    let scale := Nat.pow 10 places
    let fraction := Nat.toDigits 10 (mantissa.natAbs % scale)
    let padded := List.replicate (places - fraction.length) '0' ++ fraction
    (if mantissa < 0 then "-" else "") ++ toString (mantissa.natAbs / scale) ++ "." ++
      String.ofList (trimZeros padded)

end JsonNumber

/-- A JSON value. -/
inductive Json where
  | null
  | bool (value : Bool)
  | number (value : JsonNumber)
  | string (value : String)
  | array (items : List Json)
  | object (members : List (String × Json))
  deriving Inhabited

namespace Json

/-- The form of a character within a written string. Control characters are written by a letter
    where there is one, and otherwise by two hexadecimal digits. -/
def escapedChar (c : Char) : List Char :=
  match c with
  | '"' => ['\\', '"']
  | '\\' => ['\\', '\\']
  | '\x08' => ['\\', 'b']
  | '\t' => ['\\', 't']
  | '\n' => ['\\', 'n']
  | '\x0c' => ['\\', 'f']
  | '\r' => ['\\', 'r']
  | c =>
    if c.toNat < 0x10 then ['\\', 'u', '0', '0', '0'] ++ Nat.toDigits 16 c.toNat
    else if c.toNat < 0x20 then ['\\', 'u', '0', '0'] ++ Nat.toDigits 16 c.toNat
    else [c]

/-- A string as it is written. -/
def stringText (s : String) : String :=
  .ofList ('"' :: s.toList.flatMap escapedChar ++ ['"'])

mutual

/-- The value as it is written, without blanks. -/
def text : Json → String
  | null => "null"
  | bool value => if value then "true" else "false"
  | number value => value.text
  | string value => stringText value
  | array items => "[" ++ ",".intercalate (itemTexts items) ++ "]"
  | object members => "\x7b" ++ ",".intercalate (memberTexts members) ++ "\x7d"

/-- The items of an array as they are written. -/
def itemTexts : List Json → List String
  | [] => []
  | item :: rest => item.text :: itemTexts rest

/-- The members of an object as they are written. -/
def memberTexts : List (String × Json) → List String
  | [] => []
  | (key, value) :: rest => (stringText key ++ ":" ++ value.text) :: memberTexts rest

end

mutual

/-- The value as it is shown to a developer. -/
def shown : Json → String
  | null => "Null"
  | bool value => Text.shownTuple "Bool" [if value then "true" else "false"]
  | number value => Text.shownTuple "Number" [value.text]
  | string value => Text.shownTuple "String" [Text.quoted value]
  | array items => "Array [" ++ ", ".intercalate (shownItems items) ++ "]"
  | object members => "Object \x7b" ++ ", ".intercalate (shownMembers members) ++ "\x7d"

/-- The items of an array as they are shown. -/
def shownItems : List Json → List String
  | [] => []
  | item :: rest => item.shown :: shownItems rest

/-- The members of an object as they are shown. -/
def shownMembers : List (String × Json) → List String
  | [] => []
  | (key, value) :: rest => (Text.quoted key ++ ": " ++ value.shown) :: shownMembers rest

end

/-- An object with its members in the order of their keys. Of two members with one key the later
    one counts. -/
def sortedObject (members : List (String × Json)) : Json :=
  let insert := fun (kept : List (String × Json)) (member : String × Json) =>
    kept.filter (·.1 < member.1) ++ member :: kept.filter (member.1 < ·.1)
  object (members.foldl insert [])

end Json

end HttpRouter
