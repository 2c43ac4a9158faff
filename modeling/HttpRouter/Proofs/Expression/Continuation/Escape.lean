import HttpRouter.Expression.Escape
import HttpRouter.Proofs.Expression.Continuation.Flags

namespace HttpRouter.Atom

variable {f : Flags} {s rest tail : List Char}

theorem takeDigits_append {n : Nat} {digits : List Char}
    (h : takeDigits f n s = .ok (digits, rest)) (hrest : f.Parted rest tail) :
    takeDigits f n (s ++ tail) = .ok (digits, rest ++ tail) := by
  induction n generalizing s digits with
  | zero =>
    cases h
    rfl
  | succ n ih =>
    obtain _ | ⟨c, more⟩ := s
    · cases h
    · rw [takeDigits] at h
      rw [List.cons_append, takeDigits]
      split at h
      · rename_i hhex
        rw [if_pos hhex]
        cases hmore : takeDigits f n (f.skip more) with
        | error e => rw [hmore] at h; cases h
        | ok found =>
          obtain ⟨digits', rest'⟩ := found
          rw [hmore] at h
          cases h
          -- Nothing is dropped before the last digit unless a digit comes after it.
          have hbetween : f.skip (more ++ tail) = f.skip more ++ tail := by
            refine hrest.skip_append fun hrest hskip => ?_
            rw [hskip] at hmore
            cases n with
            | zero =>
              cases hmore
              exact hrest f.skip_nil
            | succ n => cases hmore
          rw [hbetween, ih hmore]
          rfl
      · cases h

theorem readHex_append {width : Nat} {a : Atom} (h : readHex f width s = .ok (a, rest))
    (hrest : f.Parted rest tail) :
    readHex f width (s ++ tail) = .ok (a, rest ++ tail) := by
  have hskip : f.skip s ≠ [] := by
    intro hskip
    rw [readHex, hskip] at h
    cases h
  rw [readHex] at h
  rw [readHex, Flags.skip_append hskip]
  generalize f.skip s = visible at h hskip ⊢
  split at h
  · exact absurd rfl hskip
  · rename_i more
    simp only [List.cons_append]
    cases hword : f.readUntil '\x7d' false more with
    | none => rw [hword] at h; cases h
    | some found =>
      obtain ⟨word, more'⟩ := found
      rw [hword] at h
      rw [Flags.readUntil_append hword]
      obtain _ | ⟨d, word⟩ := word
      · cases h
      · simp only [bind_eq_ok] at h ⊢
        obtain ⟨c, hvalue, h⟩ := h
        cases h
        refine ⟨c, hvalue, ?_⟩
        rw [hrest.skip_append Flags.skip_ne_nil_of_skip]
        rfl
  · rename_i hbrace
    simp only [bind_eq_ok] at h
    obtain ⟨⟨digits, rest'⟩, hdigits, c, hvalue, h⟩ := h
    cases h
    split
    · rename_i hempty
      exact absurd (List.append_eq_nil_iff.mp hempty).1 hskip
    · rename_i more heq
      obtain _ | ⟨d, visible⟩ := visible
      · exact absurd rfl hskip
      · cases heq
        exact absurd rfl (hbrace visible)
    · simp only [bind_eq_ok]
      exact ⟨_, takeDigits_append hdigits hrest, c, hvalue, rfl⟩

theorem readQuery_append {query : List Char} (h : readQuery f s = .ok (query, rest))
    (hrest : f.Parted rest tail) :
    readQuery f (s ++ tail) = .ok (query, rest ++ tail) := by
  have hskip : f.skip s ≠ [] := by
    intro hskip
    rw [readQuery, hskip] at h
    cases h
  rw [readQuery] at h
  rw [readQuery, Flags.skip_append hskip]
  generalize f.skip s = visible at h hskip ⊢
  split at h
  · exact absurd rfl hskip
  · rename_i more
    cases hword : f.readUntil '\x7d' false more with
    | none => rw [hword] at h; cases h
    | some found =>
      rw [hword] at h
      cases h
      simp only [List.cons_append, Flags.readUntil_append hword]
  · cases h
  · rename_i c more hbrace hslash
    cases h
    simp only [List.cons_append, hrest.skip_append Flags.skip_ne_nil_of_skip]

theorem readProperty_append {negated : Bool} {a : Atom}
    (h : readProperty f negated s = .ok (a, rest)) (hrest : f.Parted rest tail) :
    readProperty f negated (s ++ tail) = .ok (a, rest ++ tail) := by
  rw [readProperty, bind_eq_ok] at h
  obtain ⟨⟨query, rest'⟩, hquery, h⟩ := h
  simp only [bind_eq_ok] at h
  obtain ⟨cls, hcls, h⟩ := h
  cases h
  simp only [readProperty, bind_eq_ok]
  exact ⟨_, readQuery_append hquery hrest, cls, hcls, rfl⟩

theorem readBoundary_append {a : Atom} (h : readBoundary f s = .ok (a, rest))
    (hrest : f.Parted rest tail) :
    readBoundary f (s ++ tail) = .ok (a, rest ++ tail) := by
  rw [readBoundary.eq_def] at h
  split at h
  · rename_i more
    split at h
    · cases h
    · rename_i c more' hskip
      have hvisible : f.skip (more ++ tail) = c :: (more' ++ tail) := by
        rw [Flags.skip_append (by simp [hskip]), hskip, List.cons_append]
      rw [List.cons_append, readBoundary]
      simp only [hvisible]
      split at h
      · rename_i hletter
        rw [if_pos hletter]
        cases hword : f.readUntil '\x7d' false more with
        | none => rw [hword] at h; cases h
        | some found =>
          obtain ⟨word, rest'⟩ := found
          rw [hword] at h
          simp only at h
          rw [Flags.readUntil_append hword]
          simp only
          split at h <;> cases h <;> simp_all
      · rename_i hletter
        rw [if_neg hletter]
        cases h
        rfl
  · rename_i hbrace
    cases h
    rw [readBoundary.eq_def]
    split
    · rename_i more heq
      obtain _ | ⟨c, s⟩ := s
      · obtain ⟨-, after, rfl⟩ := hrest.exists_of_nil
        cases heq
      · cases heq
        exact absurd rfl (hbrace s)
    · rfl

/-- A reader that leaves its text behind as it is does so with more text as well. -/
private theorem map_append {α β : Type} {x : Except SyntaxError α} {g : α → β} {b : β}
    (h : x.map (fun a => (g a, s)) = .ok (b, rest)) (tail : List Char) :
    x.map (fun a => (g a, s ++ tail)) = .ok (b, rest ++ tail) := by
  cases x with
  | error e => cases h
  | ok a =>
    cases h
    rfl

theorem readEscape_append {a : Atom} (h : readEscape f s = .ok (a, rest))
    (hrest : f.Parted rest tail) :
    readEscape f (s ++ tail) = .ok (a, rest ++ tail) := by
  obtain _ | ⟨c, more⟩ := s
  · cases h
  · rw [List.cons_append]
    rw [readEscape.eq_def] at h ⊢
    simp only at h ⊢
    split at h
    case h_1 => exact readHex_append h hrest
    case h_2 => exact readHex_append h hrest
    case h_3 => exact readHex_append h hrest
    case h_4 => exact readProperty_append h hrest
    case h_5 => exact readProperty_append h hrest
    case h_20 => exact readBoundary_append h hrest
    case h_24 =>
      split at h
      · cases h
      · split at h
        · cases h
        · rename_i hdigit hletter
          cases h
          simp [hdigit, hletter]
    all_goals first | exact map_append h tail | (cases h; rfl)

end HttpRouter.Atom
