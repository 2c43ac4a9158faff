import HttpRouter.Proofs.Expression.Continuation.Token

namespace HttpRouter

variable {f : Flags} {s rest : List Char}

/-- What follows the first character that a span stops at. -/
theorem suffix_of_span {p : Char → Bool} {word : List Char} {c : Char}
    (h : s.span p = (word, c :: rest)) : rest <:+ s := by
  rw [List.span_eq_takeWhile_dropWhile] at h
  have hdrop := List.dropWhile_suffix p (l := s)
  rw [(Prod.mk.inj h).2] at hdrop
  exact (List.suffix_cons c rest).trans hdrop

namespace Flags

/-- What follows the first character of meaning. -/
theorem suffix_of_skip {c : Char} (h : f.skip s = c :: rest) : rest <:+ s := by
  have hskip := f.skip_suffix s
  rw [h] at hskip
  exact (List.suffix_cons c rest).trans hskip

theorem readUntil_suffix {close : Char} {comment : Bool} {word : List Char}
    (h : f.readUntil close comment s = some (word, rest)) : rest <:+ s := by
  fun_induction readUntil f close comment s generalizing word with
  | case1 => cases h
  | case2 c more ih => exact (ih h).trans (List.suffix_cons _ _)
  | case3 c more hblank ih => exact (ih h).trans (List.suffix_cons _ _)
  | case4 c more hblank hsign ih => exact (ih h).trans (List.suffix_cons _ _)
  | case5 more hblank hsign =>
    cases h
    exact List.suffix_cons _ _
  | case6 c more hblank hsign hclose ih =>
    obtain ⟨⟨word, rest⟩, hmore, heq⟩ := Option.map_eq_some_iff.mp h
    cases heq
    exact (ih hmore).trans (List.suffix_cons _ _)

theorem readDigits_suffix (f : Flags) (comment : Bool) (s : List Char) :
    (f.readDigits comment s).2 <:+ s := by
  fun_induction readDigits f comment s with
  | case1 => exact List.suffix_refl []
  | case2 c more ih => exact ih.trans (List.suffix_cons _ _)
  | case3 c more hblank ih => exact ih.trans (List.suffix_cons _ _)
  | case4 c more hblank hsign ih => exact ih.trans (List.suffix_cons _ _)
  | case5 c more hblank hsign hdigit ih => exact ih.trans (List.suffix_cons _ _)
  | case6 c more hblank hsign hdigit => exact List.suffix_refl _

end Flags

namespace Atom

theorem takeDigits_suffix {n : Nat} {digits : List Char}
    (h : takeDigits f n s = .ok (digits, rest)) : rest <:+ s := by
  induction n generalizing s digits with
  | zero =>
    cases h
    exact List.suffix_refl _
  | succ n ih =>
    obtain _ | ⟨c, more⟩ := s
    · cases h
    · rw [takeDigits] at h
      split at h
      · cases hmore : takeDigits f n (f.skip more) with
        | error e => rw [hmore] at h; cases h
        | ok found =>
          rw [hmore] at h
          cases h
          exact ((ih hmore).trans (f.skip_suffix more)).trans (List.suffix_cons c more)
      · cases h

theorem readHex_suffix {width : Nat} {a : Atom} (h : readHex f width s = .ok (a, rest)) :
    rest <:+ s := by
  rw [readHex] at h
  split at h
  · cases h
  · rename_i more hskip
    have hmore := Flags.suffix_of_skip hskip
    split at h
    · cases h
    · cases h
    · rename_i digits left _ hword
      rw [bind_eq_ok] at h
      obtain ⟨c, -, h⟩ := h
      cases h
      exact ((f.skip_suffix left).trans (Flags.readUntil_suffix hword)).trans hmore
  · simp only [bind_eq_ok] at h
    obtain ⟨⟨digits, left⟩, hdigits, c, -, h⟩ := h
    cases h
    exact (takeDigits_suffix hdigits).trans (f.skip_suffix s)

theorem readQuery_suffix {query : List Char} (h : readQuery f s = .ok (query, rest)) :
    rest <:+ s := by
  rw [readQuery] at h
  split at h
  · cases h
  · rename_i more hskip
    have hmore := Flags.suffix_of_skip hskip
    split at h
    · cases h
    · rename_i hword
      cases h
      exact (Flags.readUntil_suffix hword).trans hmore
  · cases h
  · rename_i c more _ _ hskip
    cases h
    exact (f.skip_suffix more).trans (Flags.suffix_of_skip hskip)

theorem readProperty_suffix {negated : Bool} {a : Atom}
    (h : readProperty f negated s = .ok (a, rest)) : rest <:+ s := by
  simp only [readProperty, bind_eq_ok] at h
  obtain ⟨⟨query, left⟩, hquery, cls, -, h⟩ := h
  cases h
  exact readQuery_suffix hquery

theorem readBoundary_suffix {a : Atom} (h : readBoundary f s = .ok (a, rest)) : rest <:+ s := by
  rw [readBoundary.eq_def] at h
  split at h
  · rename_i more
    split at h
    · cases h
    · split at h
      · split at h
        · cases h
        · rename_i hword
          have hrest := (Flags.readUntil_suffix hword).trans (List.suffix_cons '\x7b' more)
          split at h <;> cases h <;> exact hrest
      · cases h
        exact List.suffix_refl _
  · cases h
    exact List.suffix_refl _

private theorem suffix_of_map {α β : Type} {x : Except SyntaxError α} {g : α → β} {b : β}
    (h : x.map (fun a => (g a, s)) = .ok (b, rest)) : rest <:+ s := by
  cases x with
  | error e => cases h
  | ok a =>
    cases h
    exact List.suffix_refl s

theorem readEscape_suffix {a : Atom} (h : readEscape f s = .ok (a, rest)) : rest <:+ s := by
  obtain _ | ⟨c, more⟩ := s
  · cases h
  · refine List.IsSuffix.trans ?_ (List.suffix_cons c more)
    rw [readEscape.eq_def] at h
    simp only at h
    split at h
    case h_1 => exact readHex_suffix h
    case h_2 => exact readHex_suffix h
    case h_3 => exact readHex_suffix h
    case h_4 => exact readProperty_suffix h
    case h_5 => exact readProperty_suffix h
    case h_20 => exact readBoundary_suffix h
    case h_24 =>
      split at h
      · cases h
      · split at h
        · cases h
        · cases h
          exact List.suffix_refl _
    all_goals first | exact suffix_of_map h | (cases h; exact List.suffix_refl _)

end Atom

namespace Bracket

theorem readPosix_suffix {negated : Bool} {a : CharClass}
    (h : readPosix s = some (negated, a, rest)) : rest <:+ s := by
  rw [readPosix.eq_def] at h
  split at h
  · rename_i more
    dsimp only at h
    split at h
    · rename_i hspan
      obtain ⟨cls, -, heq⟩ := Option.map_eq_some_iff.mp h
      cases heq
      refine ((List.suffix_cons _ _).trans (suffix_of_span hspan)).trans ?_
      refine List.IsSuffix.trans ?_ (List.suffix_cons ':' more)
      split
      · exact List.suffix_cons _ _
      · exact List.suffix_refl _
    · cases h
  · cases h

theorem readItem_suffix {a : Atom} (h : readItem f s = .ok (a, rest)) : rest <:+ s := by
  rw [readItem.eq_def] at h
  split at h
  · cases h
  · exact (Atom.readEscape_suffix h).trans (List.suffix_cons _ _)
  · cases h
    exact List.suffix_cons _ _

theorem readRange_suffix {a : CharClass} (h : readRange f s = .ok (a, rest)) : rest <:+ s := by
  rw [readRange, bind_eq_ok] at h
  obtain ⟨⟨first, more⟩, hfirst, h⟩ := h
  have hmore := (f.skip_suffix more).trans (readItem_suffix hfirst)
  simp only at h
  generalize f.skip more = visible at h hmore
  split at h
  · cases h
  · rename_i after
    split at h
    · rw [bind_eq_ok] at h
      obtain ⟨item, -, h⟩ := h
      cases h
      exact hmore
    · rw [bind_eq_ok] at h
      obtain ⟨⟨second, left⟩, hsecond, h⟩ := h
      have hleft := ((readItem_suffix hsecond).trans (f.skip_suffix after)).trans
        ((List.suffix_cons _ _).trans hmore)
      simp only at h
      split at h
      · simp only [bind_eq_ok] at h
        obtain ⟨lo, -, hi, -, h⟩ := h
        split at h
        · cases h
          exact hleft
        · cases h
      · cases h
  · rw [bind_eq_ok] at h
    obtain ⟨item, -, h⟩ := h
    cases h
    exact hmore

theorem opening_suffix (f : Flags) (s : List Char) : (opening f s).2 <:+ s := by
  rw [opening]
  split
  · rename_i hskip
    exact Flags.suffix_of_skip hskip
  · exact f.skip_suffix s

theorem readItems_suffix {n : Nat} {negated leading : Bool}
    {pending : Option (ClassOp × NestedClass)} {items : ClassItems} {a : NestedClass}
    (h : readItems f n negated leading pending items s = .ok (a, rest)) : rest <:+ s := by
  induction n generalizing negated leading pending items s a rest with
  | zero => cases h
  | succ n ih =>
    rw [readItems] at h
    refine List.IsSuffix.trans ?_ (f.skip_suffix s)
    generalize f.skip s = visible at h
    dsimp only at h
    split at h
    · cases h
    · rename_i more
      refine List.IsSuffix.trans ?_ (List.suffix_cons '[' more)
      split at h
      · rename_i hposix
        rw [bind_eq_ok] at h
        obtain ⟨cls, -, h⟩ := h
        exact (ih h).trans (readPosix_suffix hposix)
      · rw [bind_eq_ok] at h
        obtain ⟨⟨inner, left⟩, hinner, h⟩ := h
        exact ((ih h).trans (ih hinner)).trans (opening_suffix f more)
    · rename_i more
      refine List.IsSuffix.trans ?_ (List.suffix_cons ']' more)
      split at h
      · exact ih h
      · rw [bind_eq_ok] at h
        obtain ⟨cls, -, h⟩ := h
        cases h
        exact List.suffix_refl _
    · rename_i more
      split at h
      · exact (ih h).trans (List.suffix_cons '-' more)
      · split at h
        · exact (ih h).trans ((List.suffix_cons _ _).trans (List.suffix_cons _ _))
        · rw [bind_eq_ok] at h
          obtain ⟨⟨cls, left⟩, hrange, h⟩ := h
          exact (ih h).trans (readRange_suffix hrange)
    · exact (ih h).trans ((List.suffix_cons _ _).trans (List.suffix_cons _ _))
    · exact (ih h).trans ((List.suffix_cons _ _).trans (List.suffix_cons _ _))
    · rw [bind_eq_ok] at h
      obtain ⟨⟨cls, left⟩, hrange, h⟩ := h
      exact (ih h).trans (readRange_suffix hrange)

theorem read_suffix {a : NestedClass} (h : read f s = .ok (a, rest)) : rest <:+ s :=
  (readItems_suffix h).trans (opening_suffix f s)

end Bracket

namespace Token

theorem readName_suffix {name : String} (h : readName s = .ok (name, rest)) : rest <:+ s := by
  rw [readName] at h
  split at h
  · rename_i hspan
    split at h
    · cases h
      exact suffix_of_span hspan
    · cases h
  · cases h

theorem readFlags_suffix {on any within : Bool} {seen : List Char} {f' : Flags}
    (h : readFlags f on seen s = .ok (f', any, within, rest)) : rest <:+ s := by
  induction s generalizing f on seen with
  | nil => cases h
  | cons c s ih =>
    refine List.IsSuffix.trans ?_ (List.suffix_cons c s)
    rw [readFlags] at h
    split at h
    · split at h
      · cases h
      · cases h
        exact List.suffix_refl _
    · split at h
      · cases h
      · split at h
        · exact ih h
        · split at h
          · exact ih h
          · cases h

theorem readGroup_suffix {token : Token} (h : readGroup f s = .ok (token, rest)) : rest <:+ s := by
  rw [readGroup.eq_def] at h
  refine List.IsSuffix.trans ?_ (f.skip_suffix s)
  generalize f.skip s = visible at h
  split at h
  · cases h
  · cases h
  · cases h
  · cases h
  · rename_i more
    rw [bind_eq_ok] at h
    obtain ⟨⟨name, left⟩, hname, h⟩ := h
    cases h
    exact (readName_suffix hname).trans (List.suffix_append ['?', 'P', '<'] more)
  · rename_i more _ _
    rw [bind_eq_ok] at h
    obtain ⟨⟨name, left⟩, hname, h⟩ := h
    cases h
    exact (readName_suffix hname).trans (List.suffix_append ['?', '<'] more)
  · rename_i more _ _ _ _ _ _
    rw [bind_eq_ok] at h
    obtain ⟨⟨inner, any, within, left⟩, hflags, h⟩ := h
    have hleft := (readFlags_suffix hflags).trans (List.suffix_cons '?' more)
    dsimp only at h
    split at h
    · cases h
      exact hleft
    · split at h
      · cases h
        exact hleft
      · cases h
  · cases h
    exact List.suffix_refl _

theorem readSign_suffix {least : Nat} {most : Option Nat} {token : Token}
    (h : readSign f least most s = (token, rest)) : rest <:+ s := by
  rw [readSign.eq_def] at h
  split at h
  · cases h
    exact List.suffix_cons _ _
  · cases h
    exact List.suffix_refl _

theorem readCount_suffix {n : Nat} (h : readCount f s = .ok (n, rest)) : rest <:+ s := by
  have hdigits := (f.readDigits_suffix false (s.dropWhile Text.isBlank)).trans
    (List.dropWhile_suffix Text.isBlank)
  rw [readCount] at h
  split at h
  · cases h
  · rename_i digits left _ heq
    rw [heq] at hdigits
    dsimp only at h
    split at h
    · cases h
      exact ((f.skip_suffix _).trans (List.dropWhile_suffix _)).trans hdigits
    · cases h

theorem closeCounts_suffix {least : Nat} {most : Option Nat} {token : Token}
    (h : closeCounts f least most s = .ok (token, rest)) : rest <:+ s := by
  rw [closeCounts.eq_def] at h
  split at h
  · rename_i more
    split at h
    · exact ((readSign_suffix (Except.ok.inj h)).trans (f.skip_suffix more)).trans
        (List.suffix_cons _ _)
    · cases h
  · cases h

theorem readCounts_suffix {token : Token} (h : readCounts f s = .ok (token, rest)) :
    rest <:+ s := by
  rw [readCounts, bind_eq_ok] at h
  obtain ⟨⟨least, more⟩, hleast, h⟩ := h
  refine List.IsSuffix.trans ?_ ((readCount_suffix hleast).trans (f.skip_suffix s))
  dsimp only at h
  split at h
  · rename_i more
    refine List.IsSuffix.trans ?_ ((f.skip_suffix more).trans (List.suffix_cons ',' more))
    generalize f.skip more = visible at h
    split at h
    · exact closeCounts_suffix h
    · rw [bind_eq_ok] at h
      obtain ⟨⟨most, left⟩, hmost, h⟩ := h
      exact (closeCounts_suffix h).trans (readCount_suffix hmost)
  · exact closeCounts_suffix h

/-- A token takes a character of meaning and leaves an end of what follows it. -/
theorem exists_of_read {token : Token} (h : read f s = .ok (some (token, rest))) :
    ∃ c more, f.skip s = c :: more ∧ rest <:+ more := by
  rw [read.eq_def] at h
  generalize f.skip s = visible at h ⊢
  split at h
  case h_1 => cases h
  case h_2 => exact ⟨_, _, rfl, readGroup_suffix (map_some_eq_ok.mp h)⟩
  case h_5 =>
    rw [bind_eq_ok] at h
    obtain ⟨⟨a, left⟩, hclass, h⟩ := h
    cases h
    exact ⟨_, _, rfl, Bracket.read_suffix hclass⟩
  case h_6 | h_7 | h_8 =>
    exact ⟨_, _, rfl, readSign_suffix (Option.some.inj (Except.ok.inj h))⟩
  case h_9 => exact ⟨_, _, rfl, readCounts_suffix (map_some_eq_ok.mp h)⟩
  case h_10 =>
    simp only [bind_eq_ok] at h
    obtain ⟨⟨a, left⟩, hescape, e, -, h⟩ := h
    cases h
    exact ⟨_, _, rfl, Atom.readEscape_suffix hescape⟩
  case h_11 | h_14 =>
    rw [bind_eq_ok] at h
    obtain ⟨a, -, h⟩ := h
    cases h
    exact ⟨_, _, rfl, List.suffix_refl _⟩
  all_goals
    cases h
    exact ⟨_, _, rfl, List.suffix_refl _⟩

theorem suffix_of_read {token : Token} (h : read f s = .ok (some (token, rest))) : rest <:+ s := by
  obtain ⟨c, more, hskip, hrest⟩ := exists_of_read h
  exact hrest.trans (Flags.suffix_of_skip hskip)

/-- A token takes one character at least. -/
theorem lt_of_read {token : Token} (h : read f s = .ok (some (token, rest))) :
    rest.length < s.length := by
  obtain ⟨c, more, hskip, hrest⟩ := exists_of_read h
  have hvisible := (f.skip_suffix s).length_le
  have hmore := hrest.length_le
  rw [hskip, List.length_cons] at hvisible
  omega

end Token

end HttpRouter
