namespace HttpRouter.Text

/-- The characters with the property White_Space. -/
def isBlank (c : Char) : Bool :=
  let point := c.toNat
  (0x9 ≤ point && point ≤ 0xD) || point == 0x20 || point == 0x85 || point == 0xA0 ||
    point == 0x1680 || (0x2000 ≤ point && point ≤ 0x200A) || point == 0x2028 || point == 0x2029 ||
    point == 0x202F || point == 0x205F || point == 0x3000

/-- Drops the characters that satisfy the test from the end of a list. -/
def dropWhileEnd (test : Char → Bool) (cs : List Char) : List Char :=
  (cs.reverse.dropWhile test).reverse

/-- A text without its leading and trailing blanks. -/
def trim (s : String) : String :=
  .ofList (dropWhileEnd isBlank (s.toList.dropWhile isBlank))

/-- A text of blanks only. -/
def IsBlankText (s : String) : Prop :=
  ∀ c ∈ s.toList, isBlank c = true

instance (s : String) : Decidable (IsBlankText s) :=
  inferInstanceAs (Decidable (∀ c ∈ s.toList, isBlank c = true))

end HttpRouter.Text
