import HttpRouter.Expression.Flags
import Mathlib.Data.List.TakeDrop

namespace HttpRouter

/-- A bind that succeeds does so in both of its parts. -/
theorem bind_eq_ok {ε α β : Type} {x : Except ε α} {f : α → Except ε β} {b : β} :
    (x >>= f) = .ok b ↔ ∃ a, x = .ok a ∧ f a = .ok b := by
  cases x with
  | error e => simp [bind, Except.bind]
  | ok a => simp [bind, Except.bind]

namespace Flags

variable {f : Flags} {s rest tail : List Char}

theorem skipComments_append {comment : Bool} {s : List Char} (h : skipComments comment s ≠ [])
    (tail : List Char) : skipComments comment (s ++ tail) = skipComments comment s ++ tail := by
  fun_induction skipComments comment s with
  | case1 => exact absurd rfl h
  | case2 c rest ih =>
    rw [List.cons_append, skipComments]
    exact ih h
  | case3 c rest hblank ih =>
    rw [List.cons_append, skipComments, if_pos hblank]
    exact ih h
  | case4 rest hblank ih =>
    rw [List.cons_append, skipComments, if_neg hblank, if_pos rfl]
    exact ih h
  | case5 c rest hblank hsign =>
    rw [List.cons_append, skipComments, if_neg hblank, if_neg hsign]

theorem skipComments_idem (comment : Bool) (s : List Char) :
    skipComments false (skipComments comment s) = skipComments comment s := by
  fun_induction skipComments comment s with
  | case1 => rfl
  | case2 c rest ih => exact ih
  | case3 c rest hblank ih => exact ih
  | case4 rest hblank ih => exact ih
  | case5 c rest hblank hsign => rw [skipComments, if_neg hblank, if_neg hsign]

/-- Dropping blanks leaves an end of the text. -/
theorem skip_suffix (f : Flags) (s : List Char) : f.skip s <:+ s := by
  have hcomments : ∀ comment, skipComments comment s <:+ s := by
    intro comment
    fun_induction skipComments comment s with
    | case1 => exact List.suffix_refl []
    | case2 c rest ih => exact ih.trans (List.suffix_cons _ _)
    | case3 c rest hblank ih => exact ih.trans (List.suffix_cons _ _)
    | case4 rest hblank ih => exact ih.trans (List.suffix_cons _ _)
    | case5 c rest hblank hsign => exact List.suffix_refl _
  rw [skip]
  split
  · exact hcomments false
  · exact List.suffix_refl s

theorem skip_subset (f : Flags) (s : List Char) : f.skip s ⊆ s :=
  (f.skip_suffix s).subset

@[simp]
theorem skip_nil (f : Flags) : f.skip [] = [] := by
  cases hverbose : f.verbose <;> simp [skip, hverbose, skipComments]

theorem skip_append (h : f.skip s ≠ []) (tail : List Char) :
    f.skip (s ++ tail) = f.skip s ++ tail := by
  rw [skip] at h
  rw [skip, skip]
  split at h
  · rename_i hverbose
    rw [if_pos hverbose, if_pos hverbose, skipComments_append h]
  · rename_i hverbose
    rw [if_neg hverbose, if_neg hverbose]

theorem skip_idem (f : Flags) (s : List Char) : f.skip (f.skip s) = f.skip s := by
  cases hverbose : f.verbose with
  | false => simp [skip, hverbose]
  | true => simp [skip, hverbose, skipComments_idem]

theorem ne_nil_of_skip (h : f.skip s ≠ []) : s ≠ [] := by
  rintro rfl
  exact h f.skip_nil

theorem skip_ne_nil_of_skip (h : f.skip (f.skip s) ≠ []) : f.skip s ≠ [] := by
  rwa [skip_idem] at h

/-- What is left to read is parted from the text behind it: something of meaning comes before that
    text, or blanks have a meaning and the text begins with a closing bracket. -/
def Parted (f : Flags) (rest tail : List Char) : Prop :=
  f.skip rest ≠ [] ∨ f.verbose = false ∧ ∃ more, tail = ')' :: more

/-- Dropping blanks stops before the text behind, wherever it starts. -/
theorem Parted.skip_append (h : f.Parted rest tail) {s : List Char}
    (hbefore : f.skip rest ≠ [] → f.skip s ≠ []) : f.skip (s ++ tail) = f.skip s ++ tail := by
  obtain hrest | ⟨hverbose, -⟩ := h
  · exact Flags.skip_append (hbefore hrest) tail
  · simp [skip, hverbose]

/-- Where nothing is left, a closing bracket follows. -/
theorem Parted.exists_of_nil (h : f.Parted [] tail) :
    f.verbose = false ∧ ∃ more, tail = ')' :: more :=
  h.resolve_left fun hskip => hskip f.skip_nil

theorem readUntil_append {close : Char} {comment : Bool} {word : List Char}
    (h : f.readUntil close comment s = some (word, rest)) (tail : List Char) :
    f.readUntil close comment (s ++ tail) = some (word, rest ++ tail) := by
  fun_induction readUntil f close comment s generalizing word with
  | case1 => cases h
  | case2 c more ih =>
    rw [List.cons_append, readUntil]
    exact ih h
  | case3 c more hblank ih =>
    rw [List.cons_append, readUntil, if_pos hblank]
    exact ih h
  | case4 c more hblank hsign ih =>
    rw [List.cons_append, readUntil, if_neg hblank, if_pos hsign]
    exact ih h
  | case5 more hblank hsign =>
    cases h
    rw [List.cons_append, readUntil, if_neg hblank, if_neg hsign, if_pos rfl]
  | case6 c more hblank hsign hclose ih =>
    rw [List.cons_append, readUntil, if_neg hblank, if_neg hsign, if_neg hclose]
    obtain ⟨⟨rest', more'⟩, hmore, heq⟩ := Option.map_eq_some_iff.mp h
    cases heq
    rw [ih hmore]
    rfl

theorem readDigits_append {comment : Bool} {digits : List Char}
    (h : f.readDigits comment s = (digits, rest)) (hrest : rest ≠ []) (tail : List Char) :
    f.readDigits comment (s ++ tail) = (digits, rest ++ tail) := by
  fun_induction readDigits f comment s generalizing digits with
  | case1 =>
    cases h
    exact absurd rfl hrest
  | case2 c more ih =>
    rw [List.cons_append, readDigits]
    exact ih h
  | case3 c more hblank ih =>
    rw [List.cons_append, readDigits, if_pos hblank]
    exact ih h
  | case4 c more hblank hsign ih =>
    rw [List.cons_append, readDigits, if_neg hblank, if_pos hsign]
    exact ih h
  | case5 c more hblank hsign hdigit ih =>
    rw [List.cons_append, readDigits, if_neg hblank, if_neg hsign, if_pos hdigit]
    cases hmore : f.readDigits false more with
    | mk digits' rest' =>
      rw [hmore] at h
      cases h
      rw [ih hmore]
      rfl
  | case6 c more hblank hsign hdigit =>
    cases h
    rw [List.cons_append, readDigits, if_neg hblank, if_neg hsign, if_neg hdigit]

end Flags

variable {s : List Char}

theorem takeWhile_append_of_ne_nil {p : Char → Bool} (h : s.dropWhile p ≠ []) (tail : List Char) :
    (s ++ tail).takeWhile p = s.takeWhile p := by
  rw [List.takeWhile_append, if_neg]
  intro hlength
  have hsplit := congrArg List.length (List.takeWhile_append_dropWhile (p := p) (l := s))
  rw [List.length_append] at hsplit
  exact h (List.eq_nil_of_length_eq_zero (by omega))

theorem dropWhile_append_of_ne_nil {p : Char → Bool} (h : s.dropWhile p ≠ []) (tail : List Char) :
    (s ++ tail).dropWhile p = s.dropWhile p ++ tail := by
  rw [List.dropWhile_append, if_neg (by simpa using h)]

end HttpRouter
