namespace HttpRouter.Text.Utf8

/-- A character under way: the continuation bytes still owed, the least and the greatest value of
    the next one, and the code point so far. -/
structure Pending where
  owed : Nat
  low : UInt8
  high : UInt8
  point : Nat
  deriving Inhabited, DecidableEq, Repr

/-- What a first byte starts: a whole character, a character under way, or nothing readable. -/
inductive Start where
  | whole (c : Char)
  | under (pending : Pending)
  | unreadable
  deriving Inhabited, DecidableEq, Repr

/-- Reads the first byte of a character. -/
def start (b : UInt8) : Start :=
  let bits := fun mask => (b &&& mask).toNat
  if b < 0x80 then .whole (.ofNat b.toNat)
  else if 0xC2 ≤ b ∧ b ≤ 0xDF then .under ⟨1, 0x80, 0xBF, bits 0x1F⟩
  else if b = 0xE0 then .under ⟨2, 0xA0, 0xBF, 0⟩
  else if b = 0xED then .under ⟨2, 0x80, 0x9F, bits 0x0F⟩
  else if 0xE1 ≤ b ∧ b ≤ 0xEF then .under ⟨2, 0x80, 0xBF, bits 0x0F⟩
  else if b = 0xF0 then .under ⟨3, 0x90, 0xBF, 0⟩
  else if 0xF1 ≤ b ∧ b ≤ 0xF3 then .under ⟨3, 0x80, 0xBF, bits 0x07⟩
  else if b = 0xF4 then .under ⟨3, 0x80, 0x8F, bits 0x07⟩
  else .unreadable

/-- Reads bytes from between two characters or within one. An unreadable part is `none`. A sequence
    that breaks off is one such part, and the byte that broke it is read anew. -/
def parts : Option Pending → List UInt8 → List (Option Char)
  | none, [] => []
  | some _, [] => [none]
  | pending, b :: rest =>
    let fresh := match start b with
      | .whole c => some c :: parts none rest
      | .under p => parts (some p) rest
      | .unreadable => none :: parts none rest
    match pending with
    | none => fresh
    | some p =>
      if p.low ≤ b ∧ b ≤ p.high then
        let point := p.point * 64 + (b &&& 0x3F).toNat
        if p.owed ≤ 1 then some (.ofNat point) :: parts none rest
        else parts (some ⟨p.owed - 1, 0x80, 0xBF, point⟩) rest
      else none :: fresh

/-- The text with the replacement character in place of each unreadable part. -/
def lossy (bytes : ByteArray) : String :=
  match String.fromUTF8? bytes with
  | some s => s
  | none => .ofList ((parts none bytes.toList).map (·.getD '\uFFFD'))

end HttpRouter.Text.Utf8
