import HttpRouter.Unicode.NextEdition

namespace HttpRouter.Text

open Unicode

/-- The code points that leave no mark of their own on paper. The two halfwidth voicing marks join
    the character before them, yet they take a place of their own and are not among these. -/
def hidden : CodePointSet :=
  .unionAll [Category.control, Category.format, Category.privateUse, NextEdition.unassigned,
    Category.separator, Binary.defaultIgnorableCodePoint,
    NextEdition.graphemeExtend \ .range 0xFF9E 0xFF9F]

/-- Whether a character stands for itself within quotes: it can be seen and does not join the
    character before it. -/
def isShown (c : Char) : Bool :=
  if c.toNat < 0x80 then ' ' ≤ c && c ≤ '~' else !hidden.contains c.toNat

/-- The form of a character within quotes. -/
def quotedChar (c : Char) : List Char :=
  match c with
  | '"' => ['\\', '"']
  | '\\' => ['\\', '\\']
  | '\n' => ['\\', 'n']
  | '\r' => ['\\', 'r']
  | '\t' => ['\\', 't']
  | '\x00' => ['\\', '0']
  | c => if isShown c then [c] else ['\\', 'u', '\x7b'] ++ Nat.toDigits 16 c.toNat ++ ['\x7d']

/-- A text in quotes. -/
def quoted (s : String) : String :=
  .ofList ('"' :: s.toList.flatMap quotedChar ++ ['"'])

/-- An optional value, shown by its own text. -/
def shownOption (shown : Option String) : String :=
  match shown with
  | none => "None"
  | some text => "Some(" ++ text ++ ")"

/-- Values, shown by their own texts, in square brackets. -/
def shownList (shown : List String) : String :=
  "[" ++ ", ".intercalate shown ++ "]"

/-- A record with its name and the texts of its fields. -/
def shownRecord (name : String) (fields : List (String × String)) : String :=
  name ++ " \x7b " ++ ", ".intercalate (fields.map fun (field, text) => field ++ ": " ++ text) ++
    " \x7d"

/-- A named tuple with the texts of its components. -/
def shownTuple (name : String) (components : List String) : String :=
  name ++ "(" ++ ", ".intercalate components ++ ")"

end HttpRouter.Text
