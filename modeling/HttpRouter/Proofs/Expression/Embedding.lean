import HttpRouter.Proofs.Expression.Renumbering
import HttpRouter.Proofs.Expression.Running
import Mathlib.Algebra.Group.Nat.Defs

namespace HttpRouter

/-- The piece with other numbers for its captures. -/
def Piece.renumber (f : Nat → Nat) (piece : Piece) : Piece :=
  { piece with expr := piece.expr.renumber f }

/-- The group under way with other numbers for its captures. -/
def OpenGroup.renumber (f : Nat → Nat) (group : OpenGroup) : OpenGroup where
  alternatives := group.alternatives.map (Piece.renumber f)
  row := group.row.map (Option.map (Piece.renumber f))

/-- The waiting group with other numbers for its captures. -/
def OuterGroup.renumber (f : Nat → Nat) (around : OuterGroup) : OuterGroup :=
  { around with group := around.group.renumber f, index := f around.index }

variable {f : Nat → Nat}

theorem Piece.ofRow_renumber (f : Nat → Nat) (row : List (Option Piece)) :
    ofRow (row.map (Option.map (renumber f))) = (ofRow row).renumber f := by
  have hpieces : (row.map (Option.map (renumber f))).filterMap id =
      (row.filterMap id).map (renumber f) := by
    rw [List.filterMap_map, List.map_filterMap]
    rfl
  have hexprs : ((row.filterMap id).map (renumber f)).map (·.expr) =
      ((row.filterMap id).map (·.expr)).map (Expr.renumber f) := by
    rw [List.map_map, List.map_map]
    rfl
  rw [ofRow, hpieces, hexprs, Expr.concat_renumber, List.foldl_map, List.length_map]
  rfl

theorem Piece.ofAlternatives_renumber (hf : f.Injective) (pieces : List Piece) :
    ofAlternatives (pieces.map (renumber f)) = (ofAlternatives pieces).renumber f := by
  have hexprs : (pieces.map (renumber f)).map (·.expr) =
      (pieces.map (·.expr)).map (Expr.renumber f) := by
    rw [List.map_map, List.map_map]
    rfl
  rw [ofAlternatives, hexprs, Expr.alternatives_renumber hf, List.foldl_map, List.length_map]
  rfl

/-- A group closes to the same piece, apart from the numbers. -/
theorem OpenGroup.close_renumber (hf : f.Injective) (group : OpenGroup) :
    (group.renumber f).close = group.close.renumber f := by
  rw [close, renumber, ← List.map_reverse, Piece.ofRow_renumber, ← List.map_cons, ← List.map_reverse,
    Piece.ofAlternatives_renumber hf]
  rfl

namespace ParseState

/-- The state within a plain group of the state `base` where the state `alone` has nothing around
    it. The captures of the state `base` come before all others. -/
def embed (base alone : ParseState) (names : List String) : ParseState where
  flags := alone.flags
  captures := alone.captures + base.captures
  names := names
  group := alone.group.renumber (· + base.captures)
  outer := alone.outer.map (OuterGroup.renumber (· + base.captures)) ++
    ⟨base.group, .plain, base.captures + 1, base.flags⟩ :: base.outer

variable {base alone alone' within : ParseState} {names : List String} {token : Token}

/-- A token that is taken in both states leads to a state and its picture again. -/
theorem take_embed (halone : alone.take token = .ok alone')
    (hatom : ∀ e depth, token = .atom e depth → ∀ f, e.renumber f = e)
    (hwithin : (embed base alone names).take token = .ok within) :
    ∃ names', within = embed base alone' names' := by
  have hinjective := add_left_injective base.captures
  cases token with
  | atom e depth =>
    cases halone
    cases hwithin
    refine ⟨names, ?_⟩
    have hsame := hatom e depth rfl (· + base.captures)
    simp [embed, push, OpenGroup.renumber, Piece.renumber, hsame]
  | setFlags g =>
    cases halone
    cases hwithin
    exact ⟨names, rfl⟩
  | openGroup kind inner =>
    have hindex : alone.captures + base.captures + 1 = alone.captures + 1 + base.captures :=
      Nat.add_right_comm _ _ _
    obtain _ | _ | name := kind
    · cases halone
      cases hwithin
      exact ⟨names, by simp [embed, OuterGroup.renumber, OpenGroup.renumber, hindex]⟩
    · cases halone
      cases hwithin
      exact ⟨names, by simp [embed, OuterGroup.renumber, OpenGroup.renumber, hindex]⟩
    · simp only [take] at halone hwithin
      split at halone
      · cases halone
      · cases halone
        split at hwithin
        · cases hwithin
        · cases hwithin
          exact ⟨name :: names, by simp [embed, OuterGroup.renumber, OpenGroup.renumber, hindex]⟩
  | closeGroup =>
    cases houter : alone.outer with
    | nil =>
      rw [take, houter] at halone
      cases halone
    | cons around outer =>
      rw [take, houter] at halone
      cases halone
      simp only [take, embed, houter, List.map_cons, List.cons_append,
        OpenGroup.close_renumber hinjective] at hwithin
      cases hwithin
      refine ⟨names, ?_⟩
      cases hkind : around.inner <;>
        simp [embed, push, OuterGroup.renumber, OpenGroup.renumber, Piece.renumber, hkind,
          Expr.renumber]
  | bar =>
    cases halone
    cases hwithin
    refine ⟨names, ?_⟩
    have hrow := Piece.ofRow_renumber (· + base.captures) alone.group.row.reverse
    rw [List.map_reverse] at hrow
    simp only [embed, OpenGroup.renumber, hrow, List.map_cons, List.map_nil]
  | repetition least most greedy =>
    simp only [take] at halone hwithin
    split at halone
    · rename_i piece row hrow
      cases halone
      simp only [embed, OpenGroup.renumber, hrow, List.map_cons, Option.map_some] at hwithin
      cases hwithin
      refine ⟨names, ?_⟩
      simp [embed, OpenGroup.renumber, Piece.renumber, Expr.repeated_renumber]
    · cases halone

/-- An atom has no captures to number. -/
theorem renumber_of_read {g : Flags} {s rest : List Char} {e : Expr} {depth : Nat}
    (hread : Token.read g s = .ok (some (.atom e depth, rest))) (f : Nat → Nat) :
    e.renumber f = e := by
  obtain ⟨cls, rfl⟩ | ⟨a, rfl⟩ := Token.atom_of_read hread
  · unfold Expr.ofClass
    split <;> rfl
  · rfl

/-- A token of a text that is read alone is read before a closing bracket as well. -/
theorem read_before_bracket {s rest : List Char}
    (hread : Token.read alone.flags s = .ok (some (token, rest)))
    (htake : alone.take token = .ok alone') (hverbose : alone'.flags.verbose = false)
    (tail : List Char) :
    Token.read alone.flags (s ++ ')' :: tail) = .ok (some (token, rest ++ ')' :: tail)) := by
  by_cases htoken : token = .closeGroup
  · subst htoken
    exact Token.read_append_of_closeGroup hread _
  · rw [(take_of_ne_closeGroup htoken htake).1] at hverbose
    exact Token.read_append hread (.inr ⟨hverbose, tail, rfl⟩)

/-- A run through a text within the group and the bracket behind it does what the text does alone. -/
theorem passes_of_steps {s left : List Char} {final : ParseState} {after : ParseState → Prop}
    (hsteps : Steps alone s final left)
    (hverbose : ∀ state left, Steps alone s state left → state.flags.verbose = false)
    (hlast : ∀ names, Passes (embed base final names) (left ++ [')']) after) (names : List String) :
    Passes (embed base alone names) (s ++ [')']) after := by
  induction hsteps generalizing names with
  | refl state s => exact hlast names
  | @step state next final s rest left token hread htake hrest ih =>
    have hlt := Token.lt_of_read hread
    have hnext : next.flags.verbose = false := hverbose _ _ (.step hread htake (.refl _ _))
    have hwithin : ∀ tail, Token.read (embed base state names).flags (s ++ [')'] ++ tail) =
        .ok (some (token, rest ++ [')'] ++ tail)) := by
      intro tail
      simp only [List.append_assoc, List.singleton_append]
      exact read_before_bracket hread htake hnext tail
    refine .token (by simpa using hlt) hwithin fun within hwithin => ?_
    obtain ⟨names', rfl⟩ := take_embed htake
      (fun e depth htoken f => renumber_of_read (htoken ▸ hread) f) hwithin
    exact ih (fun state left hsteps => hverbose state left (.step hread htake hsteps)) hlast names'

/-- The bracket behind a text that is an expression by itself closes the group around it. -/
theorem passes_bracket {final : ParseState} {e : Expr} (hverbose : final.flags.verbose = false)
    (hfinish : final.finish = .ok e) (names : List String) :
    Passes (embed base final names) [')'] fun next => ∃ captures names depth,
      next = push { base with captures, names }
        (some ⟨e.renumber (· + base.captures), depth⟩) := by
  obtain ⟨houter, rfl⟩ := finish_eq_ok hfinish
  have hread : ∀ tail, Token.read (embed base final names).flags ([')'] ++ tail) =
      .ok (some (.closeGroup, [] ++ tail)) := by
    intro tail
    have hskip : (embed base final names).flags.skip (')' :: tail) = ')' :: tail :=
      if_neg (Bool.eq_false_iff.mp hverbose)
    rw [List.singleton_append, Token.read, hskip]
    rfl
  refine .token (by simp) hread fun next htake => .of_reads (.nil next) ?_
  simp only [take, embed, houter, List.map_nil, List.nil_append,
    OpenGroup.close_renumber (add_left_injective base.captures)] at htake
  cases htake
  exact ⟨final.captures + base.captures, names, final.group.close.depth + 1, rfl⟩

/-- A run through a plain group comes out of it with the expression that the text in it is alone,
    apart from the numbers of its captures. -/
theorem passes_accepted (state : ParseState) (hflags : state.flags = {}) {text : List Char}
    {e : Expr} (hparse : Expr.parse text = .ok e) (hverbose : NeverVerbose text) :
    Passes state (groupText text) fun next => ∃ captures names depth,
      next = push { state with captures, names }
        (some ⟨e.renumber (· + state.captures), depth⟩) := by
  rw [Expr.parse, bind_eq_ok] at hparse
  obtain ⟨final, hrun, hfinish⟩ := hparse
  obtain ⟨left, hsteps, hend⟩ := steps_of_readAll (Nat.lt_succ_self _) hrun
  have hquiet := hverbose final left hsteps
  -- Where blanks have a meaning, nothing is left of the text.
  have hplain : final.flags.skip left = left := if_neg (Bool.eq_false_iff.mp hquiet)
  obtain rfl : left = [] := hplain.symm.trans (Token.skip_of_none hend)
  have hwithin : state.inGroup = embed state {} state.names := by
    simp [inGroup, embed, OpenGroup.renumber, hflags]
  rw [groupText, List.append_assoc]
  refine (reads_openGroup state hflags).passes ?_
  rw [hwithin]
  exact passes_of_steps hsteps hverbose (passes_bracket hquiet hfinish) state.names

end ParseState

end HttpRouter
