import HttpRouter.Proofs.Expression.Continuation.Token
import HttpRouter.Proofs.Expression.Reading
import Mathlib.Data.List.Forall2

namespace HttpRouter

namespace ParseState

/-- Reading within a plain group that has nothing around it. -/
def alone : ParseState := { outer := [⟨{}, .plain, 1, {}⟩] }

/-- Whether the last token of a text closes the outermost group, and none does before. The fuel
    bounds the number of tokens, and the length of the text is enough of it. -/
def closesLast : Nat → ParseState → List Char → Bool
  | 0, _, _ => false
  | fuel + 1, state, s =>
    match Token.read state.flags s with
    | .ok (some (token, rest)) =>
      match state.take token with
      | .ok next => if next.outer.isEmpty then rest.isEmpty else closesLast fuel next rest
      | .error _ => false
    | _ => false

/-- Whether a text leaves it to the bracket behind it to close the plain group around it. -/
def Confined (text : List Char) : Prop :=
  closesLast (text.length + 1) alone (text ++ [')']) = true

instance : DecidablePred Confined := fun _ => inferInstanceAs (Decidable (_ = true))

/-- A text that closes the outermost group with its last token has a first one. -/
theorem exists_of_closesLast {fuel : Nat} {state : ParseState} {s : List Char}
    (h : closesLast (fuel + 1) state s = true) :
    ∃ token rest next, Token.read state.flags s = .ok (some (token, rest)) ∧
      state.take token = .ok next ∧
      (next.outer = [] ∧ rest = [] ∨ next.outer ≠ [] ∧ closesLast fuel next rest = true) := by
  rw [closesLast] at h
  split at h
  · rename_i token rest hread
    split at h
    · rename_i next htake
      refine ⟨token, rest, next, hread, htake, ?_⟩
      split at h
      · rename_i houter
        exact .inl ⟨List.isEmpty_iff.mp houter, List.isEmpty_iff.mp h⟩
      · rename_i houter
        exact .inr ⟨by simpa using houter, h⟩
    · cases h
  · cases h

/-- Such a text has something of meaning left to read. -/
theorem skip_ne_nil_of_closesLast {fuel : Nat} {state : ParseState} {s : List Char}
    (h : closesLast fuel state s = true) : state.flags.skip s ≠ [] := by
  intro hskip
  obtain _ | fuel := fuel
  · cases h
  · obtain ⟨token, rest, next, hread, -⟩ := exists_of_closesLast h
    rw [Token.read, hskip] at hread
    cases hread

end ParseState

/-- Two waiting groups with the same flags whose rows have pieces in the same places. -/
structure OuterGroup.Alike (a b : OuterGroup) : Prop where
  row : a.group.row.map Option.isSome = b.group.row.map Option.isSome
  flags : a.flags = b.flags

namespace ParseState

/-- The state `b` is within a plain group of the state `base` where the state `a` is within a plain
    group alone. -/
structure Mirrors (base a b : ParseState) : Prop where
  flags : a.flags = b.flags
  row : a.group.row.map Option.isSome = b.group.row.map Option.isSome
  outer : ∃ inner inner' index, List.Forall₂ OuterGroup.Alike inner inner' ∧
    a.outer = inner ++ alone.outer ∧
    b.outer = inner' ++ ⟨base.group, .plain, index, base.flags⟩ :: base.outer

/-- The state has one piece more in its row than the state `base`. Captures may have been opened on
    the way. -/
def Gains (base state : ParseState) : Prop :=
  ∃ captures names piece, state = push { base with captures, names } (some piece)

variable {base a b a' b' : ParseState} {token : Token}

theorem Mirrors.outer_ne_nil (h : Mirrors base a b) : a.outer ≠ [] := by
  obtain ⟨inner, inner', index, -, ha, -⟩ := h.outer
  simp [ha, alone]

/-- Opening a group leaves an empty group under way, with the flags inside, and the one before it
    waiting. -/
theorem take_openGroup {kind : GroupKind} {f : Flags} (h : a.take (.openGroup kind f) = .ok a') :
    a'.flags = f ∧ a'.group = {} ∧
      ∃ index, a'.outer = ⟨a.group, kind, index, a.flags⟩ :: a.outer := by
  obtain _ | _ | name := kind
  · cases h
    exact ⟨rfl, rfl, _, rfl⟩
  · cases h
    exact ⟨rfl, rfl, _, rfl⟩
  · simp only [take] at h
    split at h
    · cases h
    · cases h
      exact ⟨rfl, rfl, _, rfl⟩

/-- A closing bracket closes an inner group in both states, or the plain group itself. -/
theorem Mirrors.closeGroup (h : Mirrors base a b) (ha : a.take .closeGroup = .ok a')
    (hb : b.take .closeGroup = .ok b') : Mirrors base a' b' ∨ a'.outer = [] ∧ Gains base b' := by
  obtain ⟨inner, inner', index, hinner, haouter, hbouter⟩ := h.outer
  simp only [take, haouter] at ha
  simp only [take, hbouter] at hb
  cases hinner with
  | nil =>
    cases ha
    cases hb
    exact .inr ⟨rfl, b.captures, b.names, _, rfl⟩
  | cons halike hrest =>
    cases ha
    cases hb
    left
    refine ⟨halike.flags, ?_, ⟨_, _, index, hrest, rfl, rfl⟩⟩
    simp [push, halike.row]

/-- Every other token does the same in both states. -/
theorem Mirrors.take (h : Mirrors base a b) (htoken : token ≠ .closeGroup)
    (ha : a.take token = .ok a') (hb : b.take token = .ok b') : Mirrors base a' b' := by
  obtain ⟨hflags, hrow, inner, inner', index, hinner, haouter, hbouter⟩ := h
  have houter : List.Forall₂ OuterGroup.Alike inner inner' ∧ a.outer = inner ++ alone.outer ∧
      b.outer = inner' ++ ⟨base.group, .plain, index, base.flags⟩ :: base.outer :=
    ⟨hinner, haouter, hbouter⟩
  cases token with
  | atom e depth =>
    cases ha
    cases hb
    exact ⟨hflags, by simp [push, hrow], ⟨_, _, _, houter⟩⟩
  | setFlags f =>
    cases ha
    cases hb
    exact ⟨rfl, by simp [push, hrow], ⟨_, _, _, houter⟩⟩
  | openGroup kind f =>
    obtain ⟨haflags, hagroup, m, haouter'⟩ := take_openGroup ha
    obtain ⟨hbflags, hbgroup, n, hbouter'⟩ := take_openGroup hb
    refine ⟨haflags.trans hbflags.symm, by rw [hagroup, hbgroup], ?_⟩
    refine ⟨⟨a.group, kind, m, a.flags⟩ :: inner, ⟨b.group, kind, n, b.flags⟩ :: inner', index,
      .cons ⟨hrow, hflags⟩ hinner, ?_, ?_⟩
    · rw [haouter', haouter, List.cons_append]
    · rw [hbouter', hbouter, List.cons_append]
  | closeGroup => exact absurd rfl htoken
  | bar =>
    cases ha
    cases hb
    exact ⟨hflags, rfl, ⟨_, _, _, houter⟩⟩
  | repetition least most greedy =>
    simp only [ParseState.take] at ha hb
    split at ha
    · rename_i piece row harow
      split at hb
      · rename_i piece' row' hbrow
        cases ha
        cases hb
        rw [harow, hbrow] at hrow
        exact ⟨hflags, by simpa using hrow, ⟨_, _, _, houter⟩⟩
      · cases hb
    · cases ha

/-- Any token but a closing bracket leaves the flags that it says, and every waiting group still
    waits. -/
theorem take_of_ne_closeGroup (htoken : token ≠ .closeGroup) (htake : a.take token = .ok a') :
    a'.flags = token.flagsAfter a.flags ∧ a.outer <:+ a'.outer := by
  cases token with
  | closeGroup => exact absurd rfl htoken
  | openGroup kind f =>
    obtain ⟨hflags, -, index, houter⟩ := take_openGroup htake
    rw [houter]
    exact ⟨hflags, List.suffix_cons _ _⟩
  | repetition least most greedy =>
    simp only [ParseState.take] at htake
    split at htake <;> cases htake
    exact ⟨rfl, List.suffix_refl _⟩
  | atom e depth =>
    cases htake
    exact ⟨rfl, List.suffix_refl _⟩
  | setFlags f =>
    cases htake
    exact ⟨rfl, List.suffix_refl _⟩
  | bar =>
    cases htake
    exact ⟨rfl, List.suffix_refl _⟩

/-- A run through the text of a plain group does what the text does alone, up to the bracket that
    closes the group. -/
theorem readAll_of_closesLast {n fuel : Nat} {s tail : List Char} {final : ParseState}
    (hcloses : closesLast n a s = true) (hmirrors : Mirrors base a b) (hfuel : n ≤ fuel)
    (hrun : readAll fuel b (s ++ tail) = .ok final) :
    ∃ between left, Gains base between ∧ fuel ≤ left + n ∧
      readAll left between tail = .ok final := by
  induction n generalizing a b fuel s with
  | zero => cases hcloses
  | succ n ih =>
    obtain ⟨token, rest, a', hread, ha, hnext⟩ := exists_of_closesLast hcloses
    obtain _ | fuel := fuel
    · omega
    · by_cases htoken : token = .closeGroup
      · subst htoken
        have hread := Token.read_append_of_closeGroup hread tail
        rw [hmirrors.flags] at hread
        obtain ⟨b', hb, hrun⟩ := (readAll_eq_ok_of_read hread).mp hrun
        obtain hmirrors | ⟨houter, hgains⟩ := hmirrors.closeGroup ha hb
        · obtain ⟨houter, -⟩ | ⟨-, hcloses⟩ := hnext
          · exact absurd houter hmirrors.outer_ne_nil
          · obtain ⟨between, left, hgains, hleft, hrun⟩ := ih hcloses hmirrors (by omega) hrun
            exact ⟨between, left, hgains, by omega, hrun⟩
        · obtain ⟨-, rfl⟩ | ⟨hne, -⟩ := hnext
          · exact ⟨b', fuel, hgains, by omega, hrun⟩
          · exact absurd houter hne
      · -- The token leaves another one to come, so that nothing behind the text changes it.
        obtain ⟨hflags, hsuffix⟩ := take_of_ne_closeGroup htoken ha
        obtain ⟨houter, -⟩ | ⟨-, hcloses⟩ := hnext
        · rw [houter, List.suffix_nil] at hsuffix
          exact absurd hsuffix hmirrors.outer_ne_nil
        · have hrest := skip_ne_nil_of_closesLast hcloses
          rw [hflags] at hrest
          have hread : Token.read a.flags (s ++ tail) = .ok (some (token, rest ++ tail)) :=
            Token.read_append hread (.inl hrest)
          rw [hmirrors.flags] at hread
          obtain ⟨b', hb, hrun⟩ := (readAll_eq_ok_of_read hread).mp hrun
          obtain ⟨between, left, hgains, hleft, hrun⟩ :=
            ih hcloses (hmirrors.take htoken ha hb) (by omega) hrun
          exact ⟨between, left, hgains, by omega, hrun⟩

/-- The text of a plain group between its brackets. -/
def groupText (text : List Char) : List Char :=
  ['(', '?', ':'] ++ text ++ [')']

/-- The state within a plain group of which nothing has been read. -/
def inGroup (state : ParseState) : ParseState :=
  { state with
    group := {}
    outer := ⟨state.group, .plain, state.captures + 1, state.flags⟩ :: state.outer }

/-- A plain group opens without flags of its own. -/
theorem reads_openGroup (state : ParseState) (hflags : state.flags = {}) :
    Reads state ['(', '?', ':'] state.inGroup := by
  have hread : ∀ tail, Token.read state.flags (['(', '?', ':'] ++ tail) =
      .ok (some (.openGroup .plain state.flags, tail)) := by
    intro tail
    rw [hflags]
    rfl
  exact .token (List.cons_ne_nil _ _) hread rfl

/-- A run through a plain group with a confined text comes out of it with one piece more. -/
theorem passes_confined (state : ParseState) (hflags : state.flags = {}) {text : List Char}
    (hconfined : Confined text) : Passes state (groupText text) (Gains state) := by
  rw [groupText, List.append_assoc]
  refine (reads_openGroup state hflags).passes ?_
  intro fuel tail final hfuel hrun
  have hmirrors : Mirrors state alone state.inGroup :=
    ⟨hflags.symm, rfl, [], [], _, .nil, rfl, rfl⟩
  have hlength : (text ++ [')']).length = text.length + 1 := by simp
  rw [hlength] at hfuel ⊢
  exact readAll_of_closesLast hconfined hmirrors hfuel hrun

-- The alternation stays within the group in the first text, and gets out of it in the second.
example : Confined ['a', '|', 'b', 'c'] := by decide

example : ¬Confined ['a', ')', '|', '(', '?', ':', 'b'] := by decide

end ParseState

end HttpRouter
