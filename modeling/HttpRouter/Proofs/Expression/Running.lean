import HttpRouter.Proofs.Expression.Confinement
import HttpRouter.Proofs.Expression.Continuation.Progress

namespace HttpRouter

namespace Token

variable {g : Flags} {s rest : List Char}

/-- Only its own letter turns on the flag that takes the meaning from blanks. -/
theorem verbose_of_readFlags {on any within : Bool} {seen : List Char} {inner : Flags}
    (h : readFlags g on seen s = .ok (inner, any, within, rest)) (hletter : 'x' ∉ s)
    (hverbose : g.verbose = false) : inner.verbose = false := by
  induction s generalizing g on seen with
  | nil => cases h
  | cons c s ih =>
    rw [List.mem_cons, not_or] at hletter
    rw [readFlags] at h
    split at h
    · split at h
      · cases h
      · cases h
        exact hverbose
    · split at h
      · cases h
      · split at h
        · exact ih h hletter.2 hverbose
        · cases hset : g.set? c on with
          | none => rw [hset] at h; cases h
          | some g' =>
            rw [hset] at h
            refine ih h hletter.2 ?_
            rw [Flags.set?.eq_def] at hset
            split at hset
            case h_7 => exact absurd rfl hletter.1
            case h_8 => cases hset
            all_goals
              cases hset
              exact hverbose

theorem verbose_of_readGroup {token : Token} (h : readGroup g s = .ok (token, rest))
    (hletter : 'x' ∉ s) (hverbose : g.verbose = false) :
    (token.flagsAfter g).verbose = false := by
  rw [readGroup.eq_def, Flags.skip, hverbose] at h
  simp only [Bool.false_eq_true, if_false] at h
  split at h
  · cases h
  · cases h
  · cases h
  · cases h
  · rw [bind_eq_ok] at h
    obtain ⟨⟨name, left⟩, -, h⟩ := h
    cases h
    exact hverbose
  · rw [bind_eq_ok] at h
    obtain ⟨⟨name, left⟩, -, h⟩ := h
    cases h
    exact hverbose
  · rename_i more _ _ _ _ _ _
    rw [bind_eq_ok] at h
    obtain ⟨⟨inner, any, within, left⟩, hflags, h⟩ := h
    have hinner := verbose_of_readFlags hflags
      (fun hmem => hletter (List.mem_cons_of_mem _ hmem)) hverbose
    dsimp only at h
    split at h
    · cases h
      exact hinner
    · split at h
      · cases h
        exact hinner
      · cases h
  · cases h
    exact hverbose

theorem verbose_of_read {token : Token} (h : read g s = .ok (some (token, rest)))
    (hletter : 'x' ∉ s) (hverbose : g.verbose = false) :
    (token.flagsAfter g).verbose = false := by
  rw [read.eq_def, Flags.skip, hverbose] at h
  simp only [Bool.false_eq_true, if_false] at h
  split at h
  case h_1 => cases h
  case h_2 =>
    exact verbose_of_readGroup (map_some_eq_ok.mp h)
      (fun hmem => hletter (List.mem_cons_of_mem _ hmem)) hverbose
  case h_6 | h_7 | h_8 =>
    rw [(isRepetition_of_readSign (Option.some.inj (Except.ok.inj h))).flagsAfter]
    exact hverbose
  case h_9 =>
    rw [(isRepetition_of_readCounts (map_some_eq_ok.mp h)).flagsAfter]
    exact hverbose
  case h_10 =>
    simp only [bind_eq_ok] at h
    obtain ⟨a, -, e, -, h⟩ := h
    cases h
    exact hverbose
  case h_5 | h_11 | h_14 =>
    rw [bind_eq_ok] at h
    obtain ⟨a, -, h⟩ := h
    cases h
    exact hverbose
  all_goals
    cases h
    exact hverbose

end Token

namespace ParseState

/-- Taking tokens from a text leads from one state to another and leaves an end of the text. -/
inductive Steps : ParseState → List Char → ParseState → List Char → Prop where
  | refl (state : ParseState) (s : List Char) : Steps state s state s
  | step {state next final : ParseState} {s rest left : List Char} {token : Token}
      (hread : Token.read state.flags s = .ok (some (token, rest)))
      (htake : state.take token = .ok next) (hrest : Steps next rest final left) :
      Steps state s final left

/-- A run with enough fuel takes tokens until there are no more. -/
theorem steps_of_readAll {fuel : Nat} {state final : ParseState} {s : List Char}
    (hfuel : s.length < fuel) (hrun : readAll fuel state s = .ok final) :
    ∃ left, Steps state s final left ∧ Token.read final.flags left = .ok none := by
  induction fuel generalizing state s with
  | zero => omega
  | succ fuel ih =>
    cases hread : Token.read state.flags s with
    | error e =>
      rw [readAll, hread] at hrun
      cases hrun
    | ok found =>
      cases found with
      | none =>
        rw [readAll, hread] at hrun
        cases hrun
        exact ⟨s, .refl _ s, hread⟩
      | some found =>
        obtain ⟨token, rest⟩ := found
        obtain ⟨next, htake, hrun⟩ := (readAll_eq_ok_of_read hread).mp hrun
        have hlt := Token.lt_of_read hread
        obtain ⟨left, hsteps, hend⟩ := ih (by omega) hrun
        exact ⟨left, .step hread htake hsteps, hend⟩

/-- Whether blanks have a meaning all the way through a text. -/
def NeverVerbose (text : List Char) : Prop :=
  ∀ state left, Steps {} text state left → state.flags.verbose = false

/-- Neither the group under way nor any group around it is read without blanks. -/
structure Quiet (state : ParseState) : Prop where
  here : state.flags.verbose = false
  around : ∀ group ∈ state.outer, group.flags.verbose = false

theorem Quiet.take {state next : ParseState} {token : Token} (h : Quiet state)
    (hflags : (token.flagsAfter state.flags).verbose = false)
    (htake : state.take token = .ok next) : Quiet next := by
  cases token with
  | closeGroup =>
    cases houter : state.outer with
    | nil =>
      rw [ParseState.take, houter] at htake
      cases htake
    | cons around outer =>
      have haround := h.around
      rw [houter, List.forall_mem_cons] at haround
      rw [ParseState.take, houter] at htake
      cases htake
      exact ⟨haround.1, haround.2⟩
  | openGroup kind inner =>
    obtain ⟨hinner, -, index, houter⟩ := take_openGroup htake
    refine ⟨hinner ▸ hflags, ?_⟩
    rw [houter, List.forall_mem_cons]
    exact ⟨h.here, h.around⟩
  | repetition least most greedy =>
    simp only [ParseState.take] at htake
    split at htake <;> cases htake
    exact ⟨h.here, h.around⟩
  | atom e depth =>
    cases htake
    exact ⟨h.here, h.around⟩
  | setFlags f =>
    cases htake
    exact ⟨hflags, h.around⟩
  | bar =>
    cases htake
    exact ⟨h.here, h.around⟩

/-- A run through a text without the letter for it never takes the meaning from blanks. -/
theorem Quiet.of_steps {state final : ParseState} {s left : List Char}
    (hsteps : Steps state s final left) (h : Quiet state) (hletter : 'x' ∉ s) : Quiet final := by
  induction hsteps with
  | refl state s => exact h
  | step hread htake _ ih =>
    have hnext := h.take (Token.verbose_of_read hread hletter h.here) htake
    exact ih hnext fun hmem => hletter ((Token.suffix_of_read hread).subset hmem)

theorem neverVerbose_of_notMem {text : List Char} (hletter : 'x' ∉ text) : NeverVerbose text := by
  intro state left hsteps
  have hstart : Quiet {} := ⟨rfl, by simp⟩
  exact (Quiet.of_steps hsteps hstart hletter).here

end ParseState

end HttpRouter
