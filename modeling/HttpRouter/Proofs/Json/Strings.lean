import HttpRouter.Json.Reader

namespace HttpRouter

/-- A hexadecimal digit stands for the number it is written for. -/
theorem Text.hexValue?_digitChar {n : Nat} (hn : n < 16) : hexValue? n.digitChar = some n := by
  revert n
  decide

/-- The two digits that write a number below 256 behind two zeros are read as it. -/
theorem Text.hexNumber?_digits {high low : Nat} (hhigh : high < 16) (hlow : low < 16) :
    hexNumber? ['0', '0', high.digitChar, low.digitChar] = some (high * 16 + low) := by
  have hzero : hexValue? '0' = some 0 := rfl
  simp [hexNumber?, hzero, hexValue?_digitChar hhigh, hexValue?_digitChar hlow]

namespace Json

/-- Four hexadecimal digits that write a control character are read as its code point. -/
theorem readStringRest_control {a b c : Char} (hcontrol : c.toNat < 0x20)
    (hdigits : Text.hexNumber? ['0', '0', a, b] = some c.toNat) (rest : List Char) :
    readStringRest ('\\' :: 'u' :: '0' :: '0' :: a :: b :: rest) =
      (readStringRest rest).map fun (s, rest) => (c :: s, rest) := by
  have hhigh : ¬(0xD800 ≤ c.toNat ∧ c.toNat ≤ 0xDBFF) := by omega
  have hlow : ¬(0xDC00 ≤ c.toNat ∧ c.toNat ≤ 0xDFFF) := by omega
  rw [readStringRest, hdigits]
  simp only [Option.bind_eq_bind, Option.bind_some, if_neg hhigh, if_neg hlow, Char.ofNat_toNat]

/-- A character that no escape is needed for is read as itself. -/
theorem readStringRest_plain {c : Char} (hquote : c ≠ '"') (hbackslash : c ≠ '\\')
    (hplain : ¬c.toNat < 0x20) (rest : List Char) :
    readStringRest (c :: rest) = (readStringRest rest).map fun (s, rest) => (c :: s, rest) := by
  rw [readStringRest.eq_def]
  split
  · rename_i heq
    cases heq
  · rename_i heq
    exact absurd (List.cons.inj heq).1 hquote
  · rename_i heq
    exact absurd (List.cons.inj heq).1 hbackslash
  · rename_i heq
    exact absurd (List.cons.inj heq).1 hbackslash
  · rename_i heq
    obtain ⟨rfl, rfl⟩ := List.cons.inj heq
    exact if_neg hplain

/-- A character is read back from the form in which it is written, with anything behind it. -/
theorem readStringRest_escapedChar (c : Char) (rest : List Char) :
    readStringRest (escapedChar c ++ rest) =
      (readStringRest rest).map fun (s, rest) => (c :: s, rest) := by
  unfold escapedChar
  split
  · rfl
  · rfl
  · rfl
  · rfl
  · rfl
  · rfl
  · rfl
  · rename_i hquote hbackslash _ _ _ _ _
    split
    · rename_i hsmall
      have hdigits := Text.hexNumber?_digits (by decide : 0 < 16) hsmall
      rw [Nat.zero_mul, Nat.zero_add] at hdigits
      rw [Nat.toDigits_of_lt_base hsmall]
      exact readStringRest_control (by omega) hdigits rest
    · split
      · rename_i hlarge hcontrol
        have hdigits := Text.hexNumber?_digits (by decide : 1 < 16)
          (by omega : c.toNat - 16 < 16)
        rw [show 1 * 16 + (c.toNat - 16) = c.toNat by omega] at hdigits
        rw [Nat.toDigits_of_base_le (by decide) (by omega),
          show c.toNat / 16 = 1 by omega, show c.toNat % 16 = c.toNat - 16 by omega,
          Nat.toDigits_of_lt_base (by decide)]
        exact readStringRest_control hcontrol hdigits rest
      · rename_i hplain
        exact readStringRest_plain hquote hbackslash hplain rest

/-- Characters are read back from their forms, up to the quote that closes them. -/
theorem readStringRest_flatMap (s rest : List Char) :
    readStringRest (s.flatMap escapedChar ++ '"' :: rest) = some (s, rest) := by
  induction s with
  | nil => rfl
  | cons c s ih =>
    rw [List.flatMap_cons, List.append_assoc, readStringRest_escapedChar, ih]
    rfl

/-- A written string is read as itself, and what stands behind it is left. -/
@[simp] theorem readString_stringText (s : String) (rest : List Char) :
    readString ((stringText s).toList ++ rest) = some (s, rest) := by
  have htext : (stringText s).toList ++ rest =
      '"' :: (s.toList.flatMap escapedChar ++ '"' :: rest) := by
    rw [stringText, String.toList_ofList, List.cons_append, List.cons_append, List.append_assoc,
      List.singleton_append]
  rw [htext, readString, readStringRest_flatMap, Option.map_some]
  dsimp only
  rw [String.ofList_toList]

/-- A written string begins with its quote, so that no blanks can be taken off in front of it. -/
@[simp] theorem skipBlanks_stringText (s : String) (rest : List Char) :
    skipBlanks ((stringText s).toList ++ rest) = (stringText s).toList ++ rest := by
  rw [stringText, String.toList_ofList]
  rfl

end Json

end HttpRouter
