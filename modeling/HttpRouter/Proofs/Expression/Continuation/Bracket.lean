import HttpRouter.Expression.Bracket
import HttpRouter.Proofs.Expression.Continuation.Escape

namespace HttpRouter.Bracket

variable {f : Flags} {s rest tail : List Char}

theorem readItem_append {a : Atom} (h : readItem f s = .ok (a, rest)) (hrest : f.skip rest ≠ [])
    (tail : List Char) :
    readItem f (s ++ tail) = .ok (a, rest ++ tail) := by
  rw [readItem.eq_def] at h
  split at h
  · cases h
  · exact Atom.readEscape_append h (.inl hrest)
  · rename_i c more hslash
    cases h
    rw [List.cons_append, readItem.eq_def]
    split
    · rename_i heq
      cases heq
    · rename_i heq
      cases heq
      exact (hslash rfl).elim
    · rename_i heq
      cases heq
      rfl

theorem afterHyphen_append {c : Char} (h : afterHyphen f s = some c) (tail : List Char) :
    afterHyphen f (s ++ tail) = some c := by
  rw [afterHyphen] at h ⊢
  split at h
  · rename_i hverbose
    rw [if_pos hverbose]
    have hdrop : s.dropWhile Text.isBlank ≠ [] := by
      intro hdrop
      rw [hdrop] at h
      cases h
    rw [dropWhile_append_of_ne_nil hdrop]
    generalize s.dropWhile Text.isBlank = visible at h hdrop
    obtain _ | ⟨d, visible⟩ := visible
    · exact absurd rfl hdrop
    · rw [List.cons_append]
      by_cases hsign : d = '#'
      · subst hsign
        change (visible.dropWhile Text.isBlank).head? = some c at h
        have hcomment : visible.dropWhile Text.isBlank ≠ [] := by
          intro hcomment
          rw [hcomment] at h
          cases h
        change ((visible ++ tail).dropWhile Text.isBlank).head? = some c
        rw [dropWhile_append_of_ne_nil hcomment, List.head?_append, h]
        rfl
      · split at h
        · rename_i heq
          cases heq
          exact absurd rfl hsign
        · split
          · rename_i heq
            cases heq
            exact absurd rfl hsign
          · exact h
  · rename_i hverbose
    rw [if_neg hverbose, List.head?_append, h]
    rfl

private theorem skipComments_of_blank {comment : Bool} (h : s.dropWhile Text.isBlank = []) :
    Flags.skipComments comment s = [] := by
  induction s generalizing comment with
  | nil => cases comment <;> rfl
  | cons c rest ih =>
    rw [List.dropWhile_cons] at h
    split at h
    · rename_i hblank
      cases comment with
      | false =>
        rw [Flags.skipComments, if_pos hblank]
        exact ih h
      | true =>
        rw [Flags.skipComments]
        exact ih h
    · cases h

private theorem skipComments_dropWhile (s : List Char) :
    Flags.skipComments false (s.dropWhile Text.isBlank) = Flags.skipComments false s := by
  induction s with
  | nil => rfl
  | cons c rest ih =>
    rw [List.dropWhile_cons]
    split
    · rename_i hblank
      rw [ih, Flags.skipComments, if_pos hblank]
    · rfl

/-- Where something of meaning follows a hyphen, there is a character to look at. -/
theorem afterHyphen_isSome (h : f.skip s ≠ []) : ∃ c, afterHyphen f s = some c := by
  rw [← Option.isSome_iff_exists]
  rw [Flags.skip] at h
  rw [afterHyphen]
  split at h
  · rename_i hverbose
    rw [if_pos hverbose]
    rw [← skipComments_dropWhile] at h
    generalize s.dropWhile Text.isBlank = visible at h
    split
    · rename_i rest
      rw [List.isSome_head?]
      intro hblank
      have hempty : Flags.skipComments true rest = [] := skipComments_of_blank hblank
      have hsign : Text.isBlank '#' = false := by decide
      simp [Flags.skipComments, hsign, hempty] at h
    · obtain _ | ⟨d, visible⟩ := visible
      · exact absurd rfl h
      · rfl
  · rename_i hverbose
    rw [if_neg hverbose]
    obtain _ | ⟨d, s⟩ := s
    · exact absurd rfl h
    · rfl

theorem readRange_append {a : CharClass} (h : readRange f s = .ok (a, rest))
    (hrest : f.skip rest ≠ []) (tail : List Char) :
    readRange f (s ++ tail) = .ok (a, rest ++ tail) := by
  rw [readRange, bind_eq_ok] at h
  obtain ⟨⟨first, more⟩, hfirst, h⟩ := h
  rw [readRange, bind_eq_ok]
  simp only at h
  have hmore : f.skip more ≠ [] := by
    intro hmore
    rw [hmore] at h
    cases h
  refine ⟨(first, more ++ tail), readItem_append hfirst hmore tail, ?_⟩
  simp only [Flags.skip_append hmore]
  generalize f.skip more = visible at h hmore ⊢
  split at h
  · exact absurd rfl hmore
  · rename_i after
    simp only [List.cons_append]
    split at h
    · rename_i hsign
      have hsame : afterHyphen f (after ++ tail) = afterHyphen f after := by
        obtain hsign | hsign := hsign
        · rw [hsign, afterHyphen_append hsign]
        · rw [hsign, afterHyphen_append hsign]
      rw [hsame, if_pos hsign]
      rw [bind_eq_ok] at h ⊢
      obtain ⟨item, hitem, h⟩ := h
      cases h
      exact ⟨_, hitem, rfl⟩
    · rename_i hsign
      rw [bind_eq_ok] at h
      obtain ⟨⟨second, more'⟩, hsecond, h⟩ := h
      have hafter : f.skip after ≠ [] := by
        intro hafter
        rw [hafter] at hsecond
        cases hsecond
      have hsame : afterHyphen f (after ++ tail) = afterHyphen f after := by
        obtain ⟨c, hc⟩ := afterHyphen_isSome hafter
        rw [hc, afterHyphen_append hc]
      rw [hsame, if_neg hsign, Flags.skip_append hafter]
      simp only at h
      split at h
      · simp only [bind_eq_ok] at h
        obtain ⟨lo, hlo, hi, hhi, h⟩ := h
        split at h
        · rename_i hle
          cases h
          rw [readItem_append hsecond hrest]
          simp [bind, Except.bind, hlo, hhi, hle]
          rfl
        · cases h
      · cases h
  · rename_i hhyphen
    rw [bind_eq_ok] at h
    obtain ⟨item, hitem, h⟩ := h
    cases h
    split
    · rename_i heq
      exact absurd (List.append_eq_nil_iff.mp heq).1 hmore
    · rename_i heq
      obtain _ | ⟨c, rest⟩ := rest
      · exact absurd rfl hmore
      · cases heq
        exact absurd rfl (hhyphen rest)
    · rw [bind_eq_ok]
      exact ⟨_, hitem, rfl⟩

/-- A character that is always an item of its own within brackets. -/
def IsPlain (c : Char) : Prop :=
  c ∉ ['\\', '[', ']', '-', '&', '~']

instance : DecidablePred IsPlain := fun c => inferInstanceAs (Decidable (c ∉ _))

/-- A plain character that no hyphen follows is read alone. -/
theorem readRange_of_plain {c : Char} {more : List Char} {a : CharClass} (hc : IsPlain c)
    (hmore : ∀ d ∈ f.skip more, IsPlain d) (h : readRange f (c :: more) = .ok (a, rest)) :
    rest = f.skip more := by
  have hitem : readItem f (c :: more) = .ok (.literal c false, more) := by
    rw [readItem]
    intro hslash
    simp [hslash, IsPlain] at hc
  rw [readRange, hitem] at h
  simp only [bind, Except.bind] at h
  generalize f.skip more = visible at h hmore
  split at h
  · cases h
  · have hhyphen : IsPlain '-' := hmore '-' (by simp)
    simp [IsPlain] at hhyphen
  · split at h
    · cases h
    · cases h
      rfl

/-- A class does not close without a closing bracket. -/
theorem readItems_of_plain {n : Nat} {negated leading : Bool}
    {pending : Option (ClassOp × NestedClass)} {items : ClassItems}
    {found : NestedClass × List Char}
    (hplain : ∀ c ∈ s, IsPlain c) :
    readItems f n negated leading pending items s ≠ .ok found := by
  induction n generalizing leading items s with
  | zero =>
    intro h
    cases h
  | succ n ih =>
    intro h
    have hvisible : ∀ c ∈ f.skip s, IsPlain c := fun c hc => hplain c (f.skip_subset s hc)
    rw [readItems] at h
    obtain hskip | ⟨c, more, hskip⟩ : f.skip s = [] ∨ ∃ c more, f.skip s = c :: more := by
      cases f.skip s with
      | nil => exact .inl rfl
      | cons c more => exact .inr ⟨c, more, rfl⟩
    · rw [hskip] at h
      cases h
    · rw [hskip] at h hvisible
      have hc : IsPlain c := hvisible c (by simp)
      have hmore : ∀ d ∈ f.skip more, IsPlain d := fun d hd =>
        hvisible d (List.mem_cons_of_mem c (f.skip_subset more hd))
      split at h
      · rename_i heq
        cases heq
      · rename_i heq
        cases heq
        simp [IsPlain] at hc
      · rename_i heq
        cases heq
        simp [IsPlain] at hc
      · rename_i heq
        cases heq
        simp [IsPlain] at hc
      · rename_i heq
        cases heq
        simp [IsPlain] at hc
      · rename_i heq
        cases heq
        simp [IsPlain] at hc
      · rw [bind_eq_ok] at h
        obtain ⟨⟨a, rest'⟩, hrange, h⟩ := h
        rw [readRange_of_plain hc hmore hrange] at h
        exact ih hmore h

/-- The name of a named class consists of plain characters. -/
theorem plain_of_posix? {name : List Char} {a : CharClass}
    (h : CharClass.posix? (.ofList name) = some a) : ∀ c ∈ name, IsPlain c := by
  have hname : (String.ofList name).toList = name := String.toList_ofList
  rw [CharClass.posix?.eq_def] at h
  split at h
  case h_15 => cases h
  all_goals
    rename_i heq
    have hall : (name.all fun c => decide (IsPlain c)) = true := by
      rw [← hname, heq]
      decide
    simpa using hall

/-- A named class after the sign that may negate it: the class and what follows. -/
private def posixName (s : List Char) : Option (CharClass × List Char) :=
  match s.dropWhile (· ≠ ':') with
  | ':' :: ']' :: rest =>
    (CharClass.posix? (.ofList (s.takeWhile (· ≠ ':')))).map (·, rest)
  | _ => none

private theorem posix_span (negated : Bool) (s : List Char) :
    (match s.span (· ≠ ':') with
      | (name, ':' :: ']' :: rest) =>
        (CharClass.posix? (.ofList name)).map fun a => (negated, a, rest)
      | _ => none) = (posixName s).map fun (a, rest) => (negated, a, rest) := by
  rw [posixName, List.span_eq_takeWhile_dropWhile]
  generalize s.dropWhile (· ≠ ':') = ending
  split
  · rename_i heq
    cases heq
    simp [Function.comp_def]
  · rename_i hnone
    split
    · rename_i rest
      exact (hnone _ rest rfl).elim
    · rfl

private theorem readPosix_caret (s : List Char) :
    readPosix (':' :: '^' :: s) = (posixName s).map fun (a, rest) => (true, a, rest) :=
  posix_span true s

private theorem readPosix_colon {s : List Char} (h : s.head? ≠ some '^') :
    readPosix (':' :: s) = (posixName s).map fun (a, rest) => (false, a, rest) := by
  rw [readPosix]
  · exact posix_span false s
  · intro more heq
    rw [heq] at h
    exact h rfl

private theorem posixName_append {a : CharClass} (h : posixName s = some (a, rest))
    (tail : List Char) : posixName (s ++ tail) = some (a, rest ++ tail) := by
  rw [posixName] at h
  split at h
  · rename_i more hending
    have hne : s.dropWhile (· ≠ ':') ≠ [] := by
      rw [hending]
      exact List.cons_ne_nil _ _
    rw [posixName, dropWhile_append_of_ne_nil hne, takeWhile_append_of_ne_nil hne, hending]
    obtain ⟨cls, hcls, heq⟩ := Option.map_eq_some_iff.mp h
    cases heq
    change (CharClass.posix? _).map _ = _
    rw [hcls]
    rfl
  · cases h

/-- More text makes a named class only of plain characters. -/
private theorem plain_of_posixName_append {found : CharClass × List Char}
    (h : posixName s = none) (hmore : posixName (s ++ tail) = some found) : ∀ c ∈ s, IsPlain c := by
  rw [posixName] at h hmore
  split at hmore
  · rename_i more hending
    obtain ⟨cls, hcls, -⟩ := Option.map_eq_some_iff.mp hmore
    have hname := plain_of_posix? hcls
    have hsplit := List.takeWhile_append_dropWhile (p := (· ≠ ':')) (l := s)
    by_cases hne : s.dropWhile (· ≠ ':') = []
    · rw [hne, List.append_nil] at hsplit
      intro c hc
      refine hname c ?_
      rw [List.takeWhile_append, hsplit, if_pos rfl]
      exact List.mem_append_left _ hc
    · rw [dropWhile_append_of_ne_nil hne] at hending
      rw [takeWhile_append_of_ne_nil hne] at hcls hname
      generalize s.dropWhile (· ≠ ':') = ending at h hne hending hsplit
      obtain _ | ⟨d, _ | ⟨e, ending⟩⟩ := ending
      · exact absurd rfl hne
      · cases hending
        intro c hc
        rw [← hsplit, List.mem_append, List.mem_singleton] at hc
        obtain hc | rfl := hc
        · exact hname c hc
        · decide
      · cases hending
        rw [hcls] at h
        cases h
  · cases hmore

private theorem eq_colon_of_readPosix {found : Bool × CharClass × List Char} {c : Char}
    (h : readPosix (c :: s) = some found) : c = ':' := by
  rw [readPosix.eq_def] at h
  split at h
  · rename_i heq
    cases heq
    rfl
  · cases h

theorem readPosix_append {negated : Bool} {a : CharClass}
    (h : readPosix s = some (negated, a, rest)) (tail : List Char) :
    readPosix (s ++ tail) = some (negated, a, rest ++ tail) := by
  obtain _ | ⟨c, s⟩ := s
  · cases h
  · obtain rfl := eq_colon_of_readPosix h
    by_cases hcaret : s.head? = some '^'
    · obtain ⟨s, rfl⟩ := List.head?_eq_some_iff.mp hcaret
      rw [readPosix_caret] at h
      obtain ⟨⟨a, rest⟩, hname, heq⟩ := Option.map_eq_some_iff.mp h
      cases heq
      rw [List.cons_append, List.cons_append, readPosix_caret, posixName_append hname]
      rfl
    · rw [readPosix_colon hcaret] at h
      obtain ⟨⟨a, rest⟩, hname, heq⟩ := Option.map_eq_some_iff.mp h
      cases heq
      have hstill : (s ++ tail).head? ≠ some '^' := by
        obtain _ | ⟨d, s⟩ := s
        · cases hname
        · exact hcaret
      rw [List.cons_append, readPosix_colon hstill, posixName_append hname]
      rfl

/-- Where no named class is read, more text makes one only of plain characters. -/
theorem plain_of_readPosix_append {found : Bool × CharClass × List Char}
    (h : readPosix s = none) (hmore : readPosix (s ++ tail) = some found) : ∀ c ∈ s, IsPlain c := by
  obtain _ | ⟨c, s⟩ := s
  · intro c hc
    cases hc
  · obtain rfl := eq_colon_of_readPosix hmore
    have hcolon : IsPlain ':' := by decide
    rw [List.forall_mem_cons]
    refine ⟨hcolon, ?_⟩
    obtain _ | ⟨d, s⟩ := s
    · intro c hc
      cases hc
    · by_cases hcaret : d = '^'
      · subst hcaret
        rw [readPosix_caret, Option.map_eq_none_iff] at h
        rw [List.cons_append, List.cons_append, readPosix_caret] at hmore
        obtain ⟨found, hname, -⟩ := Option.map_eq_some_iff.mp hmore
        rw [List.forall_mem_cons]
        exact ⟨by decide, plain_of_posixName_append h hname⟩
      · have hhead : (d :: s).head? ≠ some '^' := by simpa using hcaret
        have hstill : (d :: s ++ tail).head? ≠ some '^' := by simpa using hcaret
        rw [readPosix_colon hhead, Option.map_eq_none_iff] at h
        rw [List.cons_append, readPosix_colon hstill] at hmore
        obtain ⟨found, hname, -⟩ := Option.map_eq_some_iff.mp hmore
        exact plain_of_posixName_append h hname

/-- A class that closes has something of meaning left to read before. -/
theorem skip_ne_nil_of_readItems {n : Nat} {negated leading : Bool}
    {pending : Option (ClassOp × NestedClass)} {items : ClassItems}
    {found : NestedClass × List Char}
    (h : readItems f n negated leading pending items s = .ok found) : f.skip s ≠ [] := by
  intro hskip
  cases n with
  | zero => cases h
  | succ n =>
    rw [readItems, hskip] at h
    cases h

theorem opening_append (h : f.skip s ≠ []) (tail : List Char) :
    opening f (s ++ tail) = ((opening f s).1, (opening f s).2 ++ tail) := by
  rw [opening, opening, Flags.skip_append h]
  generalize f.skip s = visible at h
  obtain _ | ⟨c, visible⟩ := visible
  · exact absurd rfl h
  · by_cases hcaret : c = '^'
    · subst hcaret
      rfl
    · simp [hcaret]

theorem opening_subset (f : Flags) (s : List Char) : (opening f s).2 ⊆ s := by
  have hskip := f.skip_subset s
  rw [opening]
  generalize f.skip s = visible at hskip
  split
  · exact fun c hc => hskip (List.mem_cons_of_mem _ hc)
  · exact hskip

/-- A nested class that closes has something of meaning after its opening bracket. -/
theorem skip_ne_nil_of_opening {n : Nat} {negated leading : Bool}
    {pending : Option (ClassOp × NestedClass)} {items : ClassItems}
    {found : NestedClass × List Char}
    (h : readItems f n negated leading pending items (opening f s).2 = .ok found) :
    f.skip s ≠ [] := by
  intro hskip
  refine skip_ne_nil_of_readItems h ?_
  rw [opening, hskip]
  exact Flags.skip_nil f

/-- Where a nested class closes and is no named one, more text does not make it one. -/
theorem readPosix_append_none {n : Nat} {negated leading : Bool}
    {pending : Option (ClassOp × NestedClass)} {items : ClassItems}
    {found : NestedClass × List Char}
    (h : readPosix s = none)
    (hinner : readItems f n negated leading pending items (opening f s).2 = .ok found)
    (tail : List Char) : readPosix (s ++ tail) = none := by
  cases hmore : readPosix (s ++ tail) with
  | none => rfl
  | some found =>
    have hplain := plain_of_readPosix_append h hmore
    exact absurd hinner (readItems_of_plain fun c hc => hplain c (opening_subset f s hc))

/-- No item of a class comes at the very end of a text. -/
theorem exists_of_readRange {c : Char} {more : List Char} {found : CharClass × List Char}
    (h : readRange f (c :: more) = .ok found) : ∃ d rest, more = d :: rest := by
  obtain _ | ⟨d, rest⟩ := more
  · rw [readRange, bind_eq_ok] at h
    obtain ⟨⟨first, rest⟩, hfirst, h⟩ := h
    by_cases hslash : c = '\\'
    · subst hslash
      cases hfirst
    · rw [readItem] at hfirst
      · cases hfirst
        simp only [Flags.skip_nil] at h
        cases h
      · exact hslash
  · exact ⟨d, rest, rfl⟩

/-- A class closes at the same place when more text follows, and more fuel makes no difference. -/
theorem readItems_append {n m : Nat} {negated leading : Bool}
    {pending : Option (ClassOp × NestedClass)} {items : ClassItems} {a : NestedClass}
    (h : readItems f n negated leading pending items s = .ok (a, rest)) (hfuel : n ≤ m)
    (tail : List Char) :
    readItems f m negated leading pending items (s ++ tail) = .ok (a, rest ++ tail) := by
  induction n generalizing m negated leading pending items s a rest with
  | zero => cases h
  | succ n ih =>
    obtain _ | m := m
    · cases hfuel
    · have hfuel : n ≤ m := by omega
      have hskip := skip_ne_nil_of_readItems h
      rw [readItems] at h ⊢
      simp only [Flags.skip_append hskip] at h ⊢
      generalize f.skip s = visible at h hskip ⊢
      split at h
      · exact absurd rfl hskip
      · rename_i more
        simp only [List.cons_append]
        cases hposix : readPosix more with
        | some found =>
          obtain ⟨negatedName, cls, more'⟩ := found
          simp only [hposix] at h
          rw [bind_eq_ok] at h
          obtain ⟨cls', hcls, h⟩ := h
          simp only [readPosix_append hposix]
          rw [bind_eq_ok]
          exact ⟨cls', hcls, ih h hfuel⟩
        | none =>
          simp only [hposix] at h
          rw [bind_eq_ok] at h
          obtain ⟨⟨inner, more'⟩, hinner, h⟩ := h
          simp only [readPosix_append_none hposix hinner,
            opening_append (skip_ne_nil_of_opening hinner)]
          rw [bind_eq_ok]
          exact ⟨(inner, more' ++ tail), ih hinner hfuel, ih h hfuel⟩
      · rename_i more
        simp only [List.cons_append]
        split at h
        · rename_i hfirst
          rw [if_pos hfirst]
          exact ih h hfuel
        · rename_i hfirst
          rw [if_neg hfirst]
          rw [bind_eq_ok] at h ⊢
          obtain ⟨cls, hcls, h⟩ := h
          cases h
          exact ⟨cls, hcls, rfl⟩
      · rename_i more
        simp only [List.cons_append]
        split at h
        · rename_i hleading
          rw [if_pos hleading]
          exact ih h hfuel
        · rename_i hleading
          rw [if_neg hleading]
          split at h
          · exact ih h hfuel
          · rename_i hhyphen
            rw [bind_eq_ok] at h
            obtain ⟨⟨cls, more'⟩, hrange, h⟩ := h
            obtain ⟨d, more, rfl⟩ := exists_of_readRange hrange
            have hrest := skip_ne_nil_of_readItems h
            split
            · rename_i heq
              cases heq
              exact absurd rfl (hhyphen _)
            · rw [bind_eq_ok]
              exact ⟨(cls, more' ++ tail), readRange_append hrange hrest tail, ih h hfuel⟩
      · exact ih h hfuel
      · exact ih h hfuel
      · rename_i hopen hclose hhyphen hand htilde
        rw [bind_eq_ok] at h
        obtain ⟨⟨cls, more'⟩, hrange, h⟩ := h
        have hrest := skip_ne_nil_of_readItems h
        have happend := readRange_append hrange hrest tail
        obtain _ | ⟨c, visible⟩ := visible
        · exact absurd rfl hskip
        · obtain ⟨d, visible, rfl⟩ := exists_of_readRange hrange
          simp only [List.cons_append] at happend ⊢
          split
          · rename_i heq
            cases heq
          · rename_i heq
            cases heq
            exact (hopen _ rfl).elim
          · rename_i heq
            cases heq
            exact (hclose _ rfl).elim
          · rename_i heq
            cases heq
            exact (hhyphen _ rfl).elim
          · rename_i heq
            cases heq
            exact (hand _ rfl).elim
          · rename_i heq
            cases heq
            exact (htilde _ rfl).elim
          · rw [bind_eq_ok]
            exact ⟨(cls, more' ++ tail), happend, ih h hfuel⟩

theorem read_append {a : NestedClass} (h : read f s = .ok (a, rest)) (tail : List Char) :
    read f (s ++ tail) = .ok (a, rest ++ tail) := by
  rw [read] at h ⊢
  have hskip := skip_ne_nil_of_opening h
  rw [opening_append hskip]
  exact readItems_append h (by simp) tail

end HttpRouter.Bracket
