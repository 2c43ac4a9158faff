namespace HttpRouter.Text

/-- A range of bytes: the first and the last. -/
abbrev ByteRange := Nat × Nat

/-- The last points with encodings of one, two and three bytes. -/
private def lastOfLength : List Nat := [0x7F, 0x7FF, 0xFFFF]

/-- The numbers of points that share all but the last one, two or three bytes. -/
private def blockSizes : List Nat := [0x40, 0x1000, 0x40000]

/-- Where a range that leaves a block is cut: after the part of a block it begins with, or else
    before the part of a block it ends with. -/
private def cutAtBlock (first last block : Nat) : Option Nat :=
  if first / block = last / block then none
  else if first % block ≠ 0 then some (first / block * block + block - 1)
  else if last % block ≠ block - 1 then some (last / block * block - 1)
  else none

/-- The last point before the place where a range has to be cut, if it has to. -/
def cut? (first last : Nat) : Option Nat :=
  match lastOfLength.find? fun point => first ≤ point && point < last with
  | some point => some point
  | none => if last ≤ 0x7F then none else blockSizes.findSome? (cutAtBlock first last)

/-- The encoding of a code point. -/
def bytesOf (point : Nat) : List Nat :=
  (String.utf8EncodeChar (.ofNat point)).map (·.toNat)

/-- The rows of byte ranges for a range without surrogates. The range is cut until the encodings of
    its two ends differ, from some byte on, by whole ranges of continuation bytes. -/
def byteRows (first last : Nat) : List (List ByteRange) :=
  match cut? first last with
  | some point =>
    if _h : first ≤ point ∧ point < last then byteRows first point ++ byteRows (point + 1) last
    else []
  | none => [(bytesOf first).zip (bytesOf last)]
  termination_by last - first

end HttpRouter.Text
