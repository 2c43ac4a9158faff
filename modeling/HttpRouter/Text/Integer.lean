namespace HttpRouter.Text

/-- The integers of a number of bits, with or without a sign. -/
structure IntegerType where
  signed : Bool
  bits : Nat
  deriving Inhabited, DecidableEq, Repr

/-- Why a text is not an integer of a type. -/
inductive IntegerError where
  | empty
  | invalidDigit
  | tooLarge
  | tooSmall
  deriving Inhabited, DecidableEq, Repr

/-- The wording of an integer error. -/
def IntegerError.message : IntegerError → String
  | empty => "cannot parse integer from empty string"
  | invalidDigit => "invalid digit found in string"
  | tooLarge => "number too large to fit in target type"
  | tooSmall => "number too small to fit in target type"

namespace IntegerType

/-- Integers without a sign in 64 bits. -/
def u64 : IntegerType := ⟨false, 64⟩

/-- The greatest value of the type. -/
def greatest (t : IntegerType) : Nat :=
  if t.signed then Nat.pow 2 (t.bits - 1) - 1 else Nat.pow 2 t.bits - 1

/-- The greatest distance below zero of a value of the type. -/
def depth (t : IntegerType) : Nat :=
  if t.signed then Nat.pow 2 (t.bits - 1) else 0

/-- Reads digits after the value read so far, which may not pass the limit. -/
def readDigits (limit : Nat) (beyond : IntegerError) :
    Nat → List Char → Except IntegerError Nat
  | value, [] => .ok value
  | value, c :: rest =>
    if c.isDigit then
      let value := value * 10 + (c.toNat - '0'.toNat)
      if value ≤ limit then readDigits limit beyond value rest else .error beyond
    else .error .invalidDigit

/-- Reads an integer of the type. A minus sign is part of the text only where the type has negative
    values. The first character that is wrong, or that leads out of the range, decides the error. -/
def read (t : IntegerType) (s : String) : Except IntegerError Int :=
  let digits := fun limit beyond (cs : List Char) =>
    if cs.isEmpty then Except.error IntegerError.invalidDigit
    else readDigits limit beyond 0 cs
  match s.toList with
  | [] => .error .empty
  | '+' :: rest => (digits t.greatest .tooLarge rest).map Int.ofNat
  | '-' :: rest =>
    if t.signed then (digits t.depth .tooSmall rest).map fun n => -Int.ofNat n
    else .error .invalidDigit
  | cs => (digits t.greatest .tooLarge cs).map Int.ofNat

end IntegerType

end HttpRouter.Text
