import HttpRouter.Text.Blank
import Mathlib.Data.List.DropRight

namespace HttpRouter.Text

/-- Characters at the end that are to be dropped play no part in what is kept. -/
theorem rdropWhile_append_of_pos {test : Char → Bool} {front back : List Char}
    (hback : ∀ c ∈ back, test c = true) : (front ++ back).rdropWhile test = front.rdropWhile test := by
  unfold List.rdropWhile
  rw [List.reverse_append,
    List.dropWhile_append_of_pos fun c hc => hback c (List.mem_reverse.mp hc)]

/-- Whether a text neither begins nor ends with a blank. -/
def IsTrimmed (s : String) : Prop :=
  (∀ c ∈ s.toList.head?, isBlank c = false) ∧ ∀ c ∈ s.toList.getLast?, isBlank c = false

-- Only the characters at the ends are looked at, rather than every character there is.
instance (s : String) : Decidable (IsTrimmed s) :=
  @instDecidableAnd _ _ (Option.decidableForallMem s.toList.head?)
    (Option.decidableForallMem s.toList.getLast?)

theorem toList_trim (s : String) :
    (trim s).toList = (s.toList.dropWhile isBlank).rdropWhile isBlank :=
  String.toList_ofList

/-- A text is the trimmed one between two runs of blanks. -/
theorem exists_eq_append_trim (s : String) :
    ∃ front back, s.toList = front ++ (trim s).toList ++ back ∧
      (∀ c ∈ front, isBlank c = true) ∧ ∀ c ∈ back, isBlank c = true := by
  refine ⟨s.toList.takeWhile isBlank, (s.toList.dropWhile isBlank).rtakeWhile isBlank, ?_, ?_, ?_⟩
  · rw [toList_trim, List.append_assoc, List.rdropWhile_append_rtakeWhile,
      List.takeWhile_append_dropWhile]
  · exact fun c hc => List.mem_takeWhile_imp hc
  · exact fun c hc => List.mem_rtakeWhile_imp hc

/-- A trimmed text has no blank left at an end. -/
theorem isTrimmed_trim (s : String) : IsTrimmed (trim s) := by
  rw [IsTrimmed, toList_trim]
  constructor
  · -- The first character that is kept is the first one behind the blanks at the front.
    intro c hc
    obtain ⟨back, hback⟩ := List.rdropWhile_prefix isBlank (s.toList.dropWhile isBlank)
    have hfirst : (s.toList.dropWhile isBlank).head? = some c := by
      rw [← hback, List.head?_append, Option.mem_def.mp hc, Option.some_or]
    have hstop := List.head?_dropWhile_not isBlank s.toList
    rw [hfirst] at hstop
    exact hstop
  · intro c hc
    obtain ⟨hkept, rfl⟩ := List.mem_getLast?_eq_getLast hc
    exact Bool.eq_false_iff.mpr (List.rdropWhile_last_not isBlank _ hkept)

/-- A text without blanks at its ends is trimmed already. -/
theorem trim_eq_self_iff {s : String} : trim s = s ↔ IsTrimmed s := by
  constructor
  · intro htrim
    rw [← htrim]
    exact isTrimmed_trim s
  · rintro ⟨hfirst, hlast⟩
    have hfront : s.toList.dropWhile isBlank = s.toList := by
      cases hs : s.toList with
      | nil => rfl
      | cons c rest =>
        refine List.dropWhile_cons_of_neg ?_
        rw [hfirst c (by simp [hs])]
        exact Bool.false_ne_true
    rw [← String.toList_inj, toList_trim, hfront, List.rdropWhile_eq_self_iff]
    intro hne
    rw [hlast _ (List.getLast_mem_getLast? hne)]
    exact Bool.false_ne_true

/-- Nothing is left exactly of a text of blanks. -/
theorem trim_eq_empty_iff {s : String} : trim s = "" ↔ IsBlankText s := by
  obtain ⟨front, back, hs, hfront, hback⟩ := exists_eq_append_trim s
  constructor
  · intro htrim c hc
    rw [htrim] at hs
    rw [hs, List.append_assoc, List.mem_append] at hc
    obtain hc | hc := hc
    · exact hfront c hc
    · exact hback c hc
  · intro hblank
    -- A character that is kept would make for a last one, and that one is no blank.
    by_contra hne
    have hkept : (trim s).toList ≠ [] := by simpa using hne
    have hmem := List.getLast_mem hkept
    have hlast := (isTrimmed_trim s).2 _ (List.getLast_mem_getLast? hkept)
    rw [hblank _ (by rw [hs]; simp [hmem])] at hlast
    cases hlast

/-- Trimming keeps a character that is not blank, and adds none. -/
theorem mem_trim_iff {s : String} {c : Char} (hblank : isBlank c = false) :
    c ∈ (trim s).toList ↔ c ∈ s.toList := by
  obtain ⟨front, back, hs, hfront, hback⟩ := exists_eq_append_trim s
  have hends : c ∉ front ∧ c ∉ back := by
    refine ⟨fun hc => ?_, fun hc => ?_⟩
    · rw [hfront c hc] at hblank
      cases hblank
    · rw [hback c hc] at hblank
      cases hblank
  rw [hs]
  simp [hends]

end HttpRouter.Text
