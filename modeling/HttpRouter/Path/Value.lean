import HttpRouter.Text.Integer

namespace HttpRouter

/-- A type of value that a parameter can be read as. -/
inductive ValueType where
  | integer (type : Text.IntegerType)
  | bool
  | char
  deriving Inhabited, DecidableEq, Repr

/-- A value read from a parameter. -/
inductive Value where
  | integer (value : Int)
  | bool (value : Bool)
  | char (value : Char)
  deriving Inhabited, DecidableEq, Repr

/-- The value as text. -/
def Value.text : Value → String
  | integer value => toString value
  | bool value => if value then "true" else "false"
  | char value => value.toString

namespace ValueType

/-- The name of the type. -/
def name : ValueType → String
  | integer type => (if type.signed then "i" else "u") ++ toString type.bits
  | bool => "bool"
  | char => "char"

/-- Reads a text as a value of the type, or says why it is none. -/
def read : ValueType → String → Except String Value
  | integer type, s =>
    match type.read s with
    | .ok value => .ok (.integer value)
    | .error e => .error e.message
  | bool, s =>
    match s with
    | "true" => .ok (.bool true)
    | "false" => .ok (.bool false)
    | _ => .error "provided string was not \x60true\x60 or \x60false\x60"
  | char, s =>
    match s.toList with
    | [] => .error "cannot parse char from empty string"
    | [c] => .ok (.char c)
    | _ => .error "too many characters in string"

end ValueType

end HttpRouter
