import HttpRouter.Text.Integer
import Mathlib.Data.Nat.Digits.Defs
import Mathlib.Tactic.Ring

namespace HttpRouter.Text

/-- The value of decimal digits, the first of which counts most. -/
def decimalValue (digits : List Char) : Nat :=
  Nat.ofDigits 10 (digits.reverse.map fun c => c.toNat - '0'.toNat)

theorem decimalValue_cons (c : Char) (digits : List Char) :
    decimalValue (c :: digits) =
      (c.toNat - '0'.toNat) * 10 ^ digits.length + decimalValue digits := by
  rw [decimalValue, List.reverse_cons, List.map_append, Nat.ofDigits_append, List.length_map,
    List.length_reverse, List.map_singleton, Nat.ofDigits_singleton, decimalValue]
  ring

/-- What stands behind a plus sign in front, or everything if there is none. -/
def withoutPlus : List Char → List Char
  | '+' :: rest => rest
  | cs => cs

/-- Whether a text is made up of decimal digits, of which it has at least one. -/
def AreDigits (cs : List Char) : Prop :=
  cs ≠ [] ∧ cs.all (·.isDigit) = true

instance : DecidablePred AreDigits :=
  fun cs => inferInstanceAs (Decidable (cs ≠ [] ∧ cs.all (·.isDigit) = true))

namespace IntegerType

/-- Digits behind a value are read as far as the value of all of them is within the limit. -/
theorem readDigits_of_digits {limit : Nat} (beyond : IntegerError) {digits : List Char}
    (hdigits : ∀ c ∈ digits, c.isDigit = true) {value : Nat} (hvalue : value ≤ limit) :
    readDigits limit beyond value digits =
      if value * 10 ^ digits.length + decimalValue digits ≤ limit then
        .ok (value * 10 ^ digits.length + decimalValue digits)
      else .error beyond := by
  induction digits generalizing value with
  | nil => simp [readDigits, decimalValue, hvalue]
  | cons c rest ih =>
    rw [List.forall_mem_cons] at hdigits
    have hwhole : value * 10 ^ (c :: rest).length + decimalValue (c :: rest) =
        (value * 10 + (c.toNat - '0'.toNat)) * 10 ^ rest.length + decimalValue rest := by
      rw [decimalValue_cons, List.length_cons]
      ring
    rw [hwhole, readDigits, if_pos hdigits.1]
    dsimp only
    by_cases hnext : value * 10 + (c.toNat - '0'.toNat) ≤ limit
    · rw [if_pos hnext, ih hdigits.2 hnext]
    · -- The digits that are left unread could only make the value greater.
      have hgrows : value * 10 + (c.toNat - '0'.toNat) ≤
          (value * 10 + (c.toNat - '0'.toNat)) * 10 ^ rest.length :=
        Nat.le_mul_of_pos_right _ (Nat.pow_pos (by decide))
      rw [if_neg hnext, if_neg (by omega)]

/-- A text of digits is read as its value, or found too large for the type. -/
theorem read_of_digits (type : IntegerType) {s : String} (hne : s ≠ "")
    (hdigits : ∀ c ∈ s.toList, c.isDigit = true) :
    type.read s =
      if decimalValue s.toList ≤ type.greatest then .ok (decimalValue s.toList : Int)
      else .error .tooLarge := by
  have hread := readDigits_of_digits .tooLarge hdigits (Nat.zero_le type.greatest)
  rw [Nat.zero_mul, Nat.zero_add] at hread
  unfold read
  cases hs : s.toList with
  | nil => exact absurd (String.toList_eq_nil_iff.mp hs) hne
  | cons c rest =>
    rw [hs] at hdigits hread
    have hplus : c ≠ '+' := by
      rintro rfl
      exact absurd (hdigits '+' List.mem_cons_self) (by decide)
    have hminus : c ≠ '-' := by
      rintro rfl
      exact absurd (hdigits '-' List.mem_cons_self) (by decide)
    split
    · rename_i heq
      cases heq
    · rename_i heq
      exact absurd (List.cons.inj heq).1 hplus
    · rename_i heq
      exact absurd (List.cons.inj heq).1 hminus
    · dsimp only
      rw [List.isEmpty_cons, if_neg Bool.false_ne_true, hread]
      split <;> rfl

/-- A character that is no digit is refused, unless the digits before it are refused already. -/
theorem toOption_readDigits_of_not_digits {limit : Nat} (beyond : IntegerError) {cs : List Char}
    (hcs : ¬∀ c ∈ cs, c.isDigit = true) (value : Nat) :
    (readDigits limit beyond value cs).toOption = none := by
  induction cs generalizing value with
  | nil => exact absurd (List.forall_mem_nil _) hcs
  | cons c rest ih =>
    rw [readDigits]
    split
    · rename_i hdigit
      have hrest : ¬∀ c ∈ rest, c.isDigit = true := fun h =>
        hcs (List.forall_mem_cons.mpr ⟨hdigit, h⟩)
      dsimp only
      split
      · exact ih hrest _
      · rfl
    · rfl

/-- Reading succeeds exactly on digits with a value within the limit. -/
theorem toOption_readDigits (limit : Nat) (beyond : IntegerError) (cs : List Char) :
    (readDigits limit beyond 0 cs).toOption =
      if cs.all (·.isDigit) = true ∧ decimalValue cs ≤ limit then some (decimalValue cs)
      else none := by
  by_cases hcs : cs.all (·.isDigit) = true
  · have hread := readDigits_of_digits beyond (List.all_eq_true.mp hcs) (Nat.zero_le limit)
    rw [Nat.zero_mul, Nat.zero_add] at hread
    rw [hread]
    by_cases hfits : decimalValue cs ≤ limit
    · rw [if_pos hfits, if_pos ⟨hcs, hfits⟩]
      rfl
    · rw [if_neg hfits, if_neg fun h => hfits h.2]
      rfl
  · have hnot : ¬∀ c ∈ cs, c.isDigit = true := fun h => hcs (List.all_eq_true.mpr h)
    rw [toOption_readDigits_of_not_digits beyond hnot, if_neg fun h => hcs h.1]

/-- A type without a sign reads the digits behind an optional plus sign if their value is within its
    range, and nothing else. -/
theorem toOption_read (type : IntegerType) (hsigned : type.signed = false) (s : String) :
    (type.read s).toOption =
      let digits := withoutPlus s.toList
      if AreDigits digits ∧ decimalValue digits ≤ type.greatest then some (decimalValue digits : Int)
      else none := by
  have hdigits : ∀ cs : List Char,
      ((if cs.isEmpty then Except.error IntegerError.invalidDigit
        else readDigits type.greatest .tooLarge 0 cs).map Int.ofNat).toOption =
      if AreDigits cs ∧ decimalValue cs ≤ type.greatest then some (decimalValue cs : Int)
      else none := by
    intro cs
    cases cs with
    | nil => rfl
    | cons c rest =>
      have hmap : ∀ read : Except IntegerError Nat,
          (read.map Int.ofNat).toOption = read.toOption.map Int.ofNat := by
        rintro (e | n) <;> rfl
      rw [List.isEmpty_cons, if_neg Bool.false_ne_true, hmap, toOption_readDigits]
      simp only [AreDigits, ne_eq, List.cons_ne_nil, not_false_eq_true, true_and]
      split <;> rfl
  unfold read
  dsimp only
  split
  · rename_i hs
    rw [hs]
    rfl
  · rename_i rest hs
    rw [hs]
    exact hdigits rest
  · rename_i rest hs
    rw [hsigned, hs]
    simp [withoutPlus, AreDigits, Except.toOption]
  · rename_i hplus _
    have hsame : withoutPlus s.toList = s.toList := by
      unfold withoutPlus
      split
      · rename_i rest hs
        exact absurd hs (hplus rest)
      · rfl
    rw [hsame]
    exact hdigits s.toList

end IntegerType

end HttpRouter.Text
