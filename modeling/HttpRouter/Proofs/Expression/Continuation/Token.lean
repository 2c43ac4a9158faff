import HttpRouter.Expression.Token
import HttpRouter.Proofs.Expression.Continuation.Bracket

namespace HttpRouter.Token

variable {f : Flags} {s rest tail : List Char}

/-- The flags in force after a token that closes no group. -/
def flagsAfter (f : Flags) : Token → Flags
  | setFlags g => g
  | openGroup _ inner => inner
  | _ => f

/-- Whether a token is a repetition sign. -/
def IsRepetition (token : Token) : Prop :=
  ∃ least most greedy, token = repetition least most greedy

theorem IsRepetition.flagsAfter {token : Token} (h : token.IsRepetition) :
    token.flagsAfter f = f := by
  obtain ⟨least, most, greedy, rfl⟩ := h
  rfl

theorem IsRepetition.ne_closeGroup {token : Token} (h : token.IsRepetition) :
    token ≠ closeGroup := by
  obtain ⟨least, most, greedy, rfl⟩ := h
  exact nofun

theorem isRepetition_of_readSign {least : Nat} {most : Option Nat} {token : Token}
    (h : readSign f least most s = (token, rest)) : token.IsRepetition := by
  rw [readSign.eq_def] at h
  split at h <;> cases h <;> exact ⟨_, _, _, rfl⟩

theorem isRepetition_of_closeCounts {least : Nat} {most : Option Nat} {token : Token}
    (h : closeCounts f least most s = .ok (token, rest)) : token.IsRepetition := by
  rw [closeCounts.eq_def] at h
  split at h
  · split at h
    · exact isRepetition_of_readSign (Except.ok.inj h)
    · cases h
  · cases h

theorem isRepetition_of_readCounts {token : Token} (h : readCounts f s = .ok (token, rest)) :
    token.IsRepetition := by
  rw [readCounts, bind_eq_ok] at h
  obtain ⟨⟨least, more⟩, -, h⟩ := h
  simp only at h
  split at h
  · split at h
    · exact isRepetition_of_closeCounts h
    · rw [bind_eq_ok] at h
      obtain ⟨⟨most, more⟩, -, h⟩ := h
      exact isRepetition_of_closeCounts h
  · exact isRepetition_of_closeCounts h

theorem readName_append {name : String} (h : readName s = .ok (name, rest)) (tail : List Char) :
    readName (s ++ tail) = .ok (name, rest ++ tail) := by
  rw [readName, List.span_eq_takeWhile_dropWhile] at h ⊢
  by_cases hne : s.dropWhile (· ≠ '>') = []
  · rw [hne] at h
    generalize s.takeWhile (· ≠ '>') = word at h
    cases word <;> cases h
  · rw [dropWhile_append_of_ne_nil hne, takeWhile_append_of_ne_nil hne]
    generalize s.dropWhile (· ≠ '>') = ending at h hne
    generalize s.takeWhile (· ≠ '>') = word at h
    obtain _ | ⟨d, ending⟩ := ending
    · exact absurd rfl hne
    · obtain _ | ⟨c, word⟩ := word
      · cases h
      · simp only [List.cons_append] at h ⊢
        split at h
        · rename_i hname
          rw [if_pos hname]
          cases h
          rfl
        · cases h

theorem readFlags_append {on any within : Bool} {seen : List Char} {f' : Flags}
    (h : readFlags f on seen s = .ok (f', any, within, rest)) (tail : List Char) :
    readFlags f on seen (s ++ tail) = .ok (f', any, within, rest ++ tail) := by
  induction s generalizing f on seen with
  | nil => cases h
  | cons c s ih =>
    rw [List.cons_append]
    rw [readFlags] at h ⊢
    split at h
    · rename_i hend
      rw [if_pos hend]
      split at h
      · cases h
      · rename_i hdangling
        rw [if_neg hdangling]
        cases h
        rfl
    · rename_i hend
      rw [if_neg hend]
      split at h
      · cases h
      · rename_i hseen
        rw [if_neg hseen]
        split at h
        · rename_i hhyphen
          rw [if_pos hhyphen]
          exact ih h
        · rename_i hhyphen
          rw [if_neg hhyphen]
          cases hset : f.set? c on with
          | none => rw [hset] at h; cases h
          | some g =>
            rw [hset] at h
            exact ih h

/-- What comes next is not read as a question mark unless it is one. -/
theorem readSign_append {least : Nat} {most : Option Nat} {token : Token}
    (h : readSign f least most s = (token, rest)) (hrest : f.Parted rest tail) :
    readSign f least most (s ++ tail) = (token, rest ++ tail) := by
  obtain _ | ⟨c, s⟩ := s
  · cases h
    obtain ⟨-, more, rfl⟩ := hrest.exists_of_nil
    rfl
  · by_cases hlazy : c = '?'
    · subst hlazy
      cases h
      rfl
    · rw [readSign] at h
      · cases h
        rw [List.cons_append, readSign]
        simpa using hlazy
      · simpa using hlazy

/-- A count that something follows does not depend on what comes behind. -/
theorem readCount_append {n : Nat} (h : readCount f s = .ok (n, rest)) (hrest : rest ≠ [])
    (tail : List Char) : readCount f (s ++ tail) = .ok (n, rest ++ tail) := by
  rw [readCount] at h ⊢
  by_cases hblank : s.dropWhile Text.isBlank = []
  · rw [hblank] at h
    cases h
  · rw [dropWhile_append_of_ne_nil hblank]
    generalize s.dropWhile Text.isBlank = s at h
    cases hdigits : f.readDigits false s with
    | mk digits more =>
      rw [hdigits] at h
      obtain _ | ⟨d, digits⟩ := digits
      · cases h
      · simp only at h
        split at h
        · rename_i hvalue
          cases h
          have hafter := Flags.ne_nil_of_skip hrest
          have hmore : more ≠ [] := by
            rintro rfl
            exact hafter rfl
          rw [Flags.readDigits_append hdigits hmore]
          simp only [dropWhile_append_of_ne_nil hafter, Flags.skip_append hrest, if_pos hvalue]
        · cases h

theorem closeCounts_append {least : Nat} {most : Option Nat} {token : Token}
    (h : closeCounts f least most s = .ok (token, rest)) (hrest : f.Parted rest tail) :
    closeCounts f least most (s ++ tail) = .ok (token, rest ++ tail) := by
  rw [closeCounts.eq_def] at h
  split at h
  · rename_i more
    split at h
    · rename_i hcounts
      rw [List.cons_append, closeCounts, if_pos hcounts]
      have hsign : readSign f least most (f.skip more) = (token, rest) := Except.ok.inj h
      have hbetween : f.skip (more ++ tail) = f.skip more ++ tail := by
        refine hrest.skip_append fun hrest hskip => ?_
        rw [hskip] at hsign
        cases hsign
        exact hrest f.skip_nil
      rw [hbetween, readSign_append hsign hrest]
    · cases h
  · cases h

theorem readCount_nil (f : Flags) : readCount f [] = .error .repetitionCount := rfl

theorem readCounts_append {token : Token} (h : readCounts f s = .ok (token, rest))
    (hrest : f.Parted rest tail) :
    readCounts f (s ++ tail) = .ok (token, rest ++ tail) := by
  rw [readCounts, bind_eq_ok] at h
  obtain ⟨⟨least, more⟩, hleast, h⟩ := h
  have hskip : f.skip s ≠ [] := by
    intro hskip
    rw [hskip, readCount_nil] at hleast
    cases hleast
  have hmore : more ≠ [] := by
    rintro rfl
    cases h
  rw [readCounts, bind_eq_ok]
  refine ⟨(least, more ++ tail), ?_, ?_⟩
  · rw [Flags.skip_append hskip, readCount_append hleast hmore]
  simp only at h ⊢
  split at h
  · rename_i more
    split at h
    · rename_i more' hbrace
      have hskip : f.skip more ≠ [] := by simp [hbrace]
      simp only [List.cons_append, Flags.skip_append hskip, hbrace]
      exact closeCounts_append h hrest
    · rename_i hbrace
      rw [bind_eq_ok] at h
      obtain ⟨⟨most, more'⟩, hmost, h⟩ := h
      have hskip : f.skip more ≠ [] := by
        intro hskip
        rw [hskip, readCount_nil] at hmost
        cases hmost
      have hmore' : more' ≠ [] := by
        rintro rfl
        cases h
      have hcount := readCount_append hmost hmore' tail
      simp only [List.cons_append, Flags.skip_append hskip]
      generalize f.skip more = visible at hbrace hskip hcount
      obtain _ | ⟨c, visible⟩ := visible
      · exact absurd rfl hskip
      · split
        · rename_i heq
          cases heq
          exact absurd rfl (hbrace visible)
        · rw [hcount]
          exact closeCounts_append h hrest
  · rename_i hcomma
    obtain _ | ⟨c, more⟩ := more
    · exact absurd rfl hmore
    · split
      · rename_i heq
        cases heq
        exact absurd rfl (hcomma more)
      · exact closeCounts_append h hrest

/-- A letter that is no flag does not begin a setting of flags. -/
theorem readFlags_of_none {c : Char} {on : Bool} (hend : ¬(c = ':' ∨ c = ')')) (hhyphen : c ≠ '-')
    (hset : f.set? c on = none) {found : Flags × Bool × Bool × List Char} :
    readFlags f on [] (c :: s) ≠ .ok found := by
  intro h
  rw [readFlags, if_neg hend, if_neg (by simp), if_neg hhyphen, hset] at h
  cases h

theorem readGroup_append {token : Token} (h : readGroup f s = .ok (token, rest))
    (hrest : (token.flagsAfter f).Parted rest tail) :
    readGroup f (s ++ tail) = .ok (token, rest ++ tail) := by
  by_cases hskip : f.skip s = []
  · rw [readGroup, hskip] at h
    cases h
    obtain ⟨hverbose, more, rfl⟩ := hrest.exists_of_nil
    have hplain (s : List Char) : f.skip s = s := if_neg (Bool.eq_false_iff.mp hverbose)
    rw [hplain] at hskip
    subst hskip
    rw [readGroup, hplain]
    rfl
  · rw [readGroup.eq_def] at h ⊢
    rw [Flags.skip_append hskip]
    generalize f.skip s = visible at h hskip ⊢
    split at h
    · cases h
    · cases h
    · cases h
    · cases h
    · simp only [bind_eq_ok] at h
      obtain ⟨⟨name, more⟩, hname, h⟩ := h
      cases h
      simp [readName_append hname, bind, Except.bind, pure, Except.pure]
    · rename_i more hbehind hbehindNot
      simp only [bind_eq_ok] at h
      obtain ⟨⟨name, more'⟩, hname, h⟩ := h
      cases h
      obtain _ | ⟨c, more⟩ := more
      · cases hname
      · have happend := readName_append hname tail
        have hequals : c ≠ '=' := by
          rintro rfl
          exact hbehind more rfl
        have hnot : c ≠ '!' := by
          rintro rfl
          exact hbehindNot more rfl
        simp only [List.cons_append] at happend ⊢
        simp [happend, hequals, hnot, bind, Except.bind, pure, Except.pure]
    · rename_i more hahead haheadNot hbehind hbehindNot hnamed hangle
      simp only [bind_eq_ok] at h
      obtain ⟨⟨inner, any, within, more'⟩, hflags, h⟩ := h
      obtain _ | ⟨c, more⟩ := more
      · cases hflags
      · have happend := readFlags_append hflags tail
        have hnamed : c ≠ 'P' := by
          rintro rfl
          exact readFlags_of_none (by decide) (by decide) rfl hflags
        have hangle : c ≠ '<' := by
          rintro rfl
          exact readFlags_of_none (by decide) (by decide) rfl hflags
        have hequals : c ≠ '=' := by
          rintro rfl
          exact hahead more rfl
        have hnot : c ≠ '!' := by
          rintro rfl
          exact haheadNot more rfl
        simp only [List.cons_append] at happend ⊢
        simp [happend, hequals, hnot, hnamed, hangle, bind, Except.bind, pure, Except.pure]
        cases within with
        | true =>
          cases h
          rfl
        | false =>
          cases any with
          | true =>
            cases h
            rfl
          | false => cases h
    · rename_i hquestion
      cases h
      obtain _ | ⟨c, rest⟩ := rest
      · exact absurd rfl hskip
      · have hc : c ≠ '?' := by
          rintro rfl
          exact hquestion rest rfl
        simp [hc]

theorem map_some_eq_ok {α : Type} {x : Except SyntaxError α} {b : α} :
    x.map some = .ok (some b) ↔ x = .ok b := by
  cases x <;> simp [Except.map]

/-- The next token is the same when more text follows what the text leaves. -/
theorem read_append {token : Token} (h : read f s = .ok (some (token, rest)))
    (hrest : (token.flagsAfter f).Parted rest tail) :
    read f (s ++ tail) = .ok (some (token, rest ++ tail)) := by
  have hskip : f.skip s ≠ [] := by
    intro hskip
    rw [read, hskip] at h
    cases h
  rw [read.eq_def] at h ⊢
  rw [Flags.skip_append hskip]
  generalize f.skip s = visible at h hskip ⊢
  split at h
  · cases h
  all_goals try simp only [List.cons_append]
  case h_2 => rw [readGroup_append (map_some_eq_ok.mp h) hrest]; rfl
  case h_3 => cases h; rfl
  case h_4 => cases h; rfl
  case h_5 =>
    rw [bind_eq_ok] at h ⊢
    obtain ⟨⟨a, more⟩, hclass, h⟩ := h
    cases h
    exact ⟨_, Bracket.read_append hclass tail, rfl⟩
  case h_6 =>
    have hsign := Option.some.inj (Except.ok.inj h)
    rw [(isRepetition_of_readSign hsign).flagsAfter] at hrest
    rw [readSign_append hsign hrest]
  case h_7 =>
    have hsign := Option.some.inj (Except.ok.inj h)
    rw [(isRepetition_of_readSign hsign).flagsAfter] at hrest
    rw [readSign_append hsign hrest]
  case h_8 =>
    have hsign := Option.some.inj (Except.ok.inj h)
    rw [(isRepetition_of_readSign hsign).flagsAfter] at hrest
    rw [readSign_append hsign hrest]
  case h_9 =>
    have hcounts := map_some_eq_ok.mp h
    rw [(isRepetition_of_readCounts hcounts).flagsAfter] at hrest
    rw [readCounts_append hcounts hrest]
    rfl
  case h_10 =>
    simp only [bind_eq_ok] at h ⊢
    obtain ⟨⟨a, more⟩, hescape, e, he, h⟩ := h
    cases h
    exact ⟨_, Atom.readEscape_append hescape hrest, e, he, rfl⟩
  case h_11 =>
    rw [bind_eq_ok] at h ⊢
    obtain ⟨a, hdot, h⟩ := h
    cases h
    exact ⟨a, hdot, rfl⟩
  case h_12 => cases h; rfl
  case h_13 => cases h; rfl
  case h_14 =>
    rw [bind_eq_ok] at h ⊢
    obtain ⟨a, hatom, h⟩ := h
    cases h
    exact ⟨a, hatom, rfl⟩

/-- An opening bracket opens a group or sets flags. -/
theorem readGroup_cases {token : Token} (h : readGroup f s = .ok (token, rest)) :
    (∃ kind inner, token = openGroup kind inner) ∨ ∃ inner, token = setFlags inner := by
  rw [readGroup.eq_def] at h
  split at h <;> try cases h
  · rw [bind_eq_ok] at h
    obtain ⟨⟨name, more⟩, -, h⟩ := h
    cases h
    exact .inl ⟨_, _, rfl⟩
  · rw [bind_eq_ok] at h
    obtain ⟨⟨name, more⟩, -, h⟩ := h
    cases h
    exact .inl ⟨_, _, rfl⟩
  · rw [bind_eq_ok] at h
    obtain ⟨⟨inner, any, within, more⟩, -, h⟩ := h
    cases within with
    | true =>
      cases h
      exact .inl ⟨_, _, rfl⟩
    | false =>
      cases any with
      | true =>
        cases h
        exact .inr ⟨_, rfl⟩
      | false => cases h
  · exact .inl ⟨_, _, rfl⟩

private theorem readGroup_ne_closeGroup : readGroup f s ≠ .ok (closeGroup, rest) := by
  intro h
  obtain ⟨_, _, heq⟩ | ⟨_, heq⟩ := readGroup_cases h
  · cases heq
  · cases heq

/-- There is no token exactly if there is nothing of meaning. -/
theorem skip_of_none (h : read f s = .ok none) : f.skip s = [] := by
  rw [read.eq_def] at h
  split at h <;> rename_i heq
  case h_1 => exact heq
  case h_2 =>
    rename_i more
    cases hgroup : readGroup f more <;> rw [hgroup] at h <;> cases h
  case h_9 =>
    rename_i more
    cases hcounts : readCounts f more <;> rw [hcounts] at h <;> cases h
  case h_5 | h_11 | h_14 =>
    rw [bind_eq_ok] at h
    obtain ⟨a, -, h⟩ := h
    cases h
  case h_10 =>
    simp only [bind_eq_ok] at h
    obtain ⟨a, -, e, -, h⟩ := h
    cases h
  all_goals cases h

/-- Only a closing bracket closes a group. -/
theorem skip_of_closeGroup (h : read f s = .ok (some (closeGroup, rest))) :
    f.skip s = ')' :: rest := by
  rw [read.eq_def] at h
  split at h <;> rename_i heq
  case h_1 => cases h
  case h_2 => exact absurd (map_some_eq_ok.mp h) readGroup_ne_closeGroup
  case h_3 => cases h; exact heq
  case h_4 => cases h
  case h_5 =>
    rw [bind_eq_ok] at h
    obtain ⟨⟨a, more⟩, -, h⟩ := h
    cases h
  case h_6 =>
    exact absurd rfl (isRepetition_of_readSign (Option.some.inj (Except.ok.inj h))).ne_closeGroup
  case h_7 =>
    exact absurd rfl (isRepetition_of_readSign (Option.some.inj (Except.ok.inj h))).ne_closeGroup
  case h_8 =>
    exact absurd rfl (isRepetition_of_readSign (Option.some.inj (Except.ok.inj h))).ne_closeGroup
  case h_9 => exact absurd rfl (isRepetition_of_readCounts (map_some_eq_ok.mp h)).ne_closeGroup
  case h_10 =>
    simp only [bind_eq_ok] at h
    obtain ⟨⟨a, more⟩, -, e, -, h⟩ := h
    cases h
  case h_11 =>
    rw [bind_eq_ok] at h
    obtain ⟨a, -, h⟩ := h
    cases h
  case h_12 => cases h
  case h_13 => cases h
  case h_14 =>
    rw [bind_eq_ok] at h
    obtain ⟨a, -, h⟩ := h
    cases h

/-- An atom is a class of characters or an assertion. -/
theorem atom_of_read {e : Expr} {depth : Nat} (h : read f s = .ok (some (atom e depth, rest))) :
    (∃ cls, e = .ofClass cls) ∨ ∃ a, e = .look a := by
  have hcounts : ∀ {token : Token}, token.IsRepetition → token ≠ atom e depth := by
    rintro _ ⟨least, most, greedy, rfl⟩
    exact nofun
  have hatom : ∀ {a : Atom}, a.toExpr f = .ok e → (∃ cls, e = .ofClass cls) ∨ ∃ a, e = .look a := by
    intro a ha
    cases a with
    | literal c byte =>
      rw [Atom.toExpr] at ha
      split at ha
      · cases ha
      · cases ha
        exact .inl ⟨_, rfl⟩
    | cls a =>
      cases ha
      exact .inl ⟨_, rfl⟩
    | look a =>
      cases ha
      exact .inr ⟨_, rfl⟩
  rw [read.eq_def] at h
  split at h
  case h_1 => cases h
  case h_2 =>
    obtain ⟨_, _, heq⟩ | ⟨_, heq⟩ := readGroup_cases (map_some_eq_ok.mp h)
    · cases heq
    · cases heq
  case h_3 => cases h
  case h_4 => cases h
  case h_5 =>
    rw [bind_eq_ok] at h
    obtain ⟨⟨a, more⟩, -, h⟩ := h
    cases h
    exact .inl ⟨_, rfl⟩
  case h_6 =>
    exact absurd rfl (hcounts (isRepetition_of_readSign (Option.some.inj (Except.ok.inj h))))
  case h_7 =>
    exact absurd rfl (hcounts (isRepetition_of_readSign (Option.some.inj (Except.ok.inj h))))
  case h_8 =>
    exact absurd rfl (hcounts (isRepetition_of_readSign (Option.some.inj (Except.ok.inj h))))
  case h_9 => exact absurd rfl (hcounts (isRepetition_of_readCounts (map_some_eq_ok.mp h)))
  case h_10 =>
    simp only [bind_eq_ok] at h
    obtain ⟨⟨a, more⟩, -, e, he, h⟩ := h
    cases h
    exact hatom he
  case h_11 =>
    rw [bind_eq_ok] at h
    obtain ⟨a, -, h⟩ := h
    cases h
    exact .inl ⟨_, rfl⟩
  case h_12 =>
    cases h
    exact .inr ⟨_, rfl⟩
  case h_13 =>
    cases h
    exact .inr ⟨_, rfl⟩
  case h_14 =>
    rw [bind_eq_ok] at h
    obtain ⟨a, ha, h⟩ := h
    cases h
    exact hatom ha

/-- A closing bracket closes its group whatever follows. -/
theorem read_append_of_closeGroup (h : read f s = .ok (some (closeGroup, rest)))
    (tail : List Char) :
    read f (s ++ tail) = .ok (some (closeGroup, rest ++ tail)) := by
  have hskip := skip_of_closeGroup h
  rw [read, Flags.skip_append (by simp [hskip]), hskip]
  rfl

end HttpRouter.Token
