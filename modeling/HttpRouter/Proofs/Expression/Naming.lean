import HttpRouter.Expression.Parser
import HttpRouter.Proofs.Expression.Continuation.Token
import HttpRouter.Proofs.Expression.Reading
import HttpRouter.Proofs.Expression.Takes
import Mathlib.Data.List.Flatten
import Mathlib.Data.List.Nodup

namespace HttpRouter

namespace Expr

theorem flatMap_captureNames_items (e : Expr) :
    e.items.flatMap captureNames = e.captureNames := by
  induction e with
  | seq a b _ ih => simp [items, captureNames, ih]
  | empty | literal | one | look | capture | alt | «repeat» => simp [items, captureNames]

theorem flatMap_captureNames_joinLiterals (es : List Expr) :
    (joinLiterals es).flatMap captureNames = es.flatMap captureNames := by
  fun_induction joinLiterals es with
  | case1 => rfl
  | case2 a rest b tail hjoin ih =>
    rw [hjoin] at ih
    simpa [captureNames] using ih
  | case3 a rest _ ih => simp [captureNames, ih]
  | case4 e rest _ ih => simp [ih]

theorem captureNames_row (es : List Expr) : (row es).captureNames = es.flatMap captureNames := by
  fun_induction row es with
  | case1 => rfl
  | case2 e => simp
  | case3 e rest _ ih => simp [captureNames, ih]

/-- Expressions put together one after the other have the captures of all of them in order. -/
theorem captureNames_concat (es : List Expr) :
    (concat es).captureNames = es.flatMap captureNames := by
  rw [concat, captureNames_row, flatMap_captureNames_joinLiterals, List.flatMap_assoc]
  simp only [flatMap_captureNames_items]

/-- Anchors around a row name no captures. -/
theorem captureNames_anchored (es : List Expr) :
    (concat (.look .textStart :: (es ++ [.look .textEnd]))).captureNames =
      es.flatMap captureNames := by
  rw [captureNames_concat]
  simp [captureNames]

theorem flatMap_captureNames_branches (e : Expr) :
    e.branches.flatMap captureNames = e.captureNames := by
  induction e with
  | alt a b _ ih => simp [branches, captureNames, ih]
  | empty | literal | one | look | capture | seq | «repeat» => simp [branches, captureNames]

theorem captureNames_choice (es : List Expr) :
    (choice es).captureNames = es.flatMap captureNames := by
  fun_induction choice es with
  | case1 => rfl
  | case2 e => simp
  | case3 e rest _ ih => simp [captureNames, ih]

theorem captureNames_ofClass (cls : CharClass) : (ofClass cls).captureNames = [] := by
  unfold ofClass
  split <;> rfl

/-- A repetition keeps the captures of its body, or is empty and has none. -/
theorem captureNames_repeated_sublist (least : Nat) (most : Option Nat) (greedy : Bool) (e : Expr) :
    (repeated least most greedy e).captureNames.Sublist e.captureNames := by
  unfold repeated
  generalize (if e.takesNothing then min least 1 else least) = fewest
  generalize (if e.takesNothing then some (min (most.getD 1) 1) else most) = limit
  dsimp only
  by_cases hnone : fewest = 0 ∧ limit = some 0
  · rw [if_pos hnone]
    exact List.nil_sublist _
  · rw [if_neg hnone]
    by_cases hone : fewest = 1 ∧ limit = some 1
    · rw [if_pos hone]
    · rw [if_neg hone]
      exact .refl _

theorem commonItems_starts (as bs : List Expr) : commonItems as bs <+: as := by
  fun_induction commonItems as bs with
  | case1 as a bs ih => exact (List.prefix_cons_inj a).mpr ih
  | case2 a as b bs hne => exact List.nil_prefix
  | case3 => exact List.nil_prefix

/-- What alternatives share is what the first of them begins with. -/
theorem sharedItems_starts (first : List Expr) (rest : List (List Expr)) :
    sharedItems (first :: rest) <+: first := by
  have hfold : ∀ common, rest.foldl commonItems common <+: common := by
    induction rest with
    | nil => exact fun common => List.prefix_refl common
    | cons other rest ih =>
      exact fun common => (ih (commonItems common other)).trans (commonItems_starts common other)
  rw [sharedItems]
  by_cases hlong : (first :: rest).all (2 ≤ ·.length) = true
  · rw [if_pos hlong]
    exact hfold first
  · rw [if_neg hlong]
    exact List.nil_prefix

/-- What is left of an expression without its first items has its last captures. -/
theorem captureNames_drop_sublist (e : Expr) (n : Nat) :
    (concat (e.items.drop n)).captureNames.Sublist e.captureNames := by
  rw [captureNames_concat, ← flatMap_captureNames_items e]
  exact (List.drop_sublist n e.items).flatMap _

/-- Taking out what alternatives share drops it from all but the first of them. -/
theorem captureNames_factored_sublist (first : Expr) (rest : List Expr) {shared : List Expr}
    (hshared : shared <+: first.items) :
    (shared.flatMap captureNames ++ ((first :: rest).map fun e =>
      concat (e.items.drop shared.length)).flatMap captureNames).Sublist
      ((first :: rest).flatMap captureNames) := by
  have hfirst : first.items = shared ++ first.items.drop shared.length :=
    List.prefix_iff_eq_append.mp hshared |>.symm
  have hnames : first.captureNames = shared.flatMap captureNames ++
      (concat (first.items.drop shared.length)).captureNames := by
    rw [captureNames_concat, ← List.flatMap_append, ← hfirst, flatMap_captureNames_items]
  rw [List.map_cons, List.flatMap_cons, List.flatMap_cons, ← List.append_assoc, ← hnames,
    List.flatMap_map]
  exact (List.Sublist.refl _).append
    (.flatMap_right _ fun e _ => captureNames_drop_sublist e shared.length)

/-- A choice between alternatives keeps the order of their captures. -/
theorem captureNames_choose_sublist (fuel : Nat) (es : List Expr) :
    (choose fuel es).captureNames.Sublist (es.flatMap captureNames) := by
  have hbranches : ∀ es : List Expr,
      (es.flatMap branches).flatMap captureNames = es.flatMap captureNames := by
    intro es
    rw [List.flatMap_assoc]
    simp only [flatMap_captureNames_branches]
  fun_induction choose fuel es with
  | case1 fuel es e hsingle =>
    rw [← hbranches es, hsingle, List.flatMap_singleton]
  | case2 fuel es cls hmany hunion =>
    rw [captureNames_ofClass]
    exact List.nil_sublist _
  | case3 es fuel a shared hmany hunion hshared rests ih =>
    rw [← hbranches es]
    cases hes : es.flatMap branches with
    | nil =>
      rw [hes] at hshared
      cases hshared
    | cons first rest =>
      rw [hes, List.map_cons] at hshared
      have hprefix := sharedItems_starts first.items (rest.map items)
      rw [hshared] at hprefix
      have hrests : rests = (first :: rest).map fun e =>
          concat (e.items.drop (a :: shared).length) := by
        simp only [rests, hes]
        rfl
      rw [captureNames_concat, List.flatMap_append, List.flatMap_singleton]
      rw [hrests] at ih ⊢
      exact ((List.Sublist.refl _).append ih).trans
        (captureNames_factored_sublist first rest hprefix)
  | case4 fuel es hmany hunion hnone =>
    rw [captureNames_choice, hbranches]

/-- Alternatives keep the order of their captures. -/
theorem captureNames_alternatives_sublist (es : List Expr) :
    (alternatives es).captureNames.Sublist (es.flatMap captureNames) :=
  captureNames_choose_sublist _ es

end Expr

/-- The name that a group gives to what it captures, if any. -/
def GroupKind.names : GroupKind → List String
  | plain => []
  | capturing name => name.toList

namespace OpenGroup

/-- The names of the captures in a row of pieces, of which the latest stands first. -/
def rowNames (row : List (Option Piece)) : List String :=
  (row.reverse.filterMap id).flatMap (·.expr.captureNames)

/-- The names of the captures in a group under way. -/
def names (group : OpenGroup) : List String :=
  group.alternatives.reverse.flatMap (·.expr.captureNames) ++ rowNames group.row

theorem rowNames_some (piece : Piece) (row : List (Option Piece)) :
    rowNames (some piece :: row) = rowNames row ++ piece.expr.captureNames := by
  simp [rowNames]

theorem rowNames_none (row : List (Option Piece)) : rowNames (none :: row) = rowNames row := by
  simp [rowNames]

theorem captureNames_ofRow (row : List (Option Piece)) :
    (Piece.ofRow row.reverse).expr.captureNames = rowNames row := by
  rw [Piece.ofRow, Expr.captureNames_concat, List.flatMap_map]
  rfl

/-- A group that is closed has its captures in their order. -/
theorem captureNames_close_sublist (group : OpenGroup) :
    group.close.expr.captureNames.Sublist group.names := by
  have hclose : group.close.expr = .alternatives
      ((Piece.ofRow group.row.reverse :: group.alternatives).reverse.map (·.expr)) := rfl
  have hnames : ((Piece.ofRow group.row.reverse :: group.alternatives).reverse.map
      (·.expr)).flatMap Expr.captureNames = group.names := by
    rw [List.flatMap_map, List.reverse_cons, List.flatMap_append, List.flatMap_singleton,
      captureNames_ofRow, names]
  rw [hclose, ← hnames]
  exact Expr.captureNames_alternatives_sublist _

end OpenGroup

/-- The names of the captures in a group that waits, and the name of the group it waits for. -/
def OuterGroup.names (around : OuterGroup) : List String :=
  around.group.names ++ around.inner.names

/-- An atom has no captures. -/
theorem Token.captureNames_of_read {f : Flags} {s rest : List Char} {e : Expr} {depth : Nat}
    (hread : read f s = .ok (some (atom e depth, rest))) : e.captureNames = [] := by
  obtain ⟨cls, rfl⟩ | ⟨a, rfl⟩ := atom_of_read hread
  · exact Expr.captureNames_ofClass cls
  · rfl

namespace ParseState

/-- The names of the captures that have been read and kept, from the outermost group inwards. -/
def kept (state : ParseState) : List String :=
  state.outer.reverse.flatMap (·.names) ++ state.group.names

/-- The names that are kept are among those of the groups that opened, in that order, and no name was
    given twice. -/
structure Ordered (state : ParseState) : Prop where
  kept : state.kept.Sublist state.names.reverse
  nodup : state.names.Nodup

theorem kept_push_some (state : ParseState) (piece : Piece) :
    (state.push (some piece)).kept = state.kept ++ piece.expr.captureNames := by
  simp [kept, push, OpenGroup.names, OpenGroup.rowNames_some]

theorem kept_push_none (state : ParseState) : (state.push none).kept = state.kept := by
  simp [kept, push, OpenGroup.names, OpenGroup.rowNames_none]

/-- Opening a group adds its name behind all others, if it is a new one. -/
theorem Ordered.openGroup {state next : ParseState} {kind : GroupKind} {inner : Flags}
    (h : Ordered state) (htake : state.take (.openGroup kind inner) = .ok next) : Ordered next := by
  have hkept : ∀ flags captures names, (ParseState.mk flags captures names {}
      (⟨state.group, kind, state.captures + 1, state.flags⟩ :: state.outer)).kept =
        state.kept ++ kind.names := by
    intro flags captures names
    simp [ParseState.kept, OuterGroup.names, OpenGroup.names, OpenGroup.rowNames]
  cases kind with
  | plain =>
    cases htake
    refine ⟨?_, h.nodup⟩
    rw [hkept, GroupKind.names, List.append_nil]
    exact h.kept
  | capturing name =>
    cases name with
    | none =>
      cases htake
      refine ⟨?_, h.nodup⟩
      rw [hkept, GroupKind.names, Option.toList_none, List.append_nil]
      exact h.kept
    | some name =>
      by_cases hseen : state.names.contains name = true
      · rw [ParseState.take, if_pos hseen] at htake
        cases htake
      · rw [ParseState.take, if_neg hseen] at htake
        cases htake
        refine ⟨?_, List.nodup_cons.mpr ⟨by simpa using hseen, h.nodup⟩⟩
        rw [hkept, List.reverse_cons]
        exact h.kept.append (.refl _)

/-- Closing a group adds what it holds to the group around it, behind its name. -/
theorem Ordered.closeGroup {state next : ParseState} (h : Ordered state)
    (htake : state.take .closeGroup = .ok next) : Ordered next := by
  rw [ParseState.take] at htake
  cases houter : state.outer with
  | nil =>
    rw [houter] at htake
    cases htake
  | cons around outer =>
    rw [houter] at htake
    cases htake
    refine ⟨?_, h.nodup⟩
    have hbefore : state.kept = outer.reverse.flatMap (·.names) ++ around.group.names ++
        (around.inner.names ++ state.group.names) := by
      simp [ParseState.kept, houter, OuterGroup.names]
    have hbody := OpenGroup.captureNames_close_sublist state.group
    have hkept := h.kept
    rw [hbefore] at hkept
    rw [kept_push_some]
    refine List.Sublist.trans ?_ hkept
    refine (List.Sublist.refl _).append ?_
    cases around.inner with
    | plain => exact hbody
    | capturing name => exact (List.Sublist.refl _).append hbody

/-- A repetition takes the place of the piece before it. -/
theorem Ordered.repetition {state next : ParseState} {least : Nat} {most : Option Nat} {greedy : Bool}
    (h : Ordered state) (htake : state.take (.repetition least most greedy) = .ok next) :
    Ordered next := by
  rw [ParseState.take] at htake
  split at htake
  · rename_i piece row hrow
    cases htake
    refine ⟨?_, h.nodup⟩
    have hbefore : state.kept = state.outer.reverse.flatMap (·.names) ++
        (state.group.alternatives.reverse.flatMap (·.expr.captureNames) ++
          (OpenGroup.rowNames row ++ piece.expr.captureNames)) := by
      rw [ParseState.kept, OpenGroup.names, hrow, OpenGroup.rowNames_some]
    have hkept := h.kept
    rw [hbefore] at hkept
    refine List.Sublist.trans ?_ hkept
    rw [ParseState.kept, OpenGroup.names, OpenGroup.rowNames_some]
    refine (List.Sublist.refl _).append ((List.Sublist.refl _).append ((List.Sublist.refl _).append ?_))
    exact Expr.captureNames_repeated_sublist least most greedy piece.expr
  · cases htake

/-- Taking a token keeps the names in order. -/
theorem Ordered.take {state next : ParseState} {token : Token} (h : Ordered state)
    (hatom : ∀ e depth, token = .atom e depth → e.captureNames = [])
    (htake : state.take token = .ok next) : Ordered next := by
  cases token with
  | atom e depth =>
    cases htake
    refine ⟨?_, h.nodup⟩
    rw [kept_push_some, hatom e depth rfl, List.append_nil]
    exact h.kept
  | setFlags f =>
    cases htake
    refine ⟨?_, h.nodup⟩
    exact (kept_push_none state).symm ▸ h.kept
  | openGroup kind inner => exact h.openGroup htake
  | closeGroup => exact h.closeGroup htake
  | bar =>
    have hsame : next.kept = state.kept ∧ next.names = state.names := by
      cases htake
      refine ⟨?_, rfl⟩
      simp [ParseState.kept, OpenGroup.names, OpenGroup.captureNames_ofRow, OpenGroup.rowNames]
    refine ⟨?_, ?_⟩
    · rw [hsame.1, hsame.2]
      exact h.kept
    · rw [hsame.2]
      exact h.nodup
  | repetition least most greedy => exact h.repetition htake

/-- Taking the tokens of a text keeps the names in order. -/
theorem Ordered.readAll {fuel : Nat} {state final : ParseState} {s : List Char} (h : Ordered state)
    (hrun : readAll fuel state s = .ok final) : Ordered final := by
  induction fuel generalizing state s with
  | zero =>
    cases hrun
    exact h
  | succ fuel ih =>
    rw [ParseState.readAll, bind_eq_ok] at hrun
    obtain ⟨found, hread, hrun⟩ := hrun
    cases found with
    | none =>
      cases hrun
      exact h
    | some found =>
      obtain ⟨token, rest⟩ := found
      obtain ⟨next, htake, hrun⟩ := bind_eq_ok.mp hrun
      refine ih (h.take ?_ htake) hrun
      rintro e depth rfl
      exact Token.captureNames_of_read hread

end ParseState

/-- The names of the groups that a text opens, in the order in which they open. -/
def Expr.openedNames (text : List Char) : Except SyntaxError (List String) :=
  (ParseState.readAll (text.length + 1) {} text).map (·.names.reverse)

/-- The captures of an expression are groups that open in its text, in the same order, and no two of
    these have the same name. -/
theorem Expr.captureNames_of_parse {text : List Char} {e : Expr} (hparse : parse text = .ok e) :
    ∃ opened, openedNames text = .ok opened ∧ opened.Nodup ∧ e.captureNames.Sublist opened := by
  rw [parse, bind_eq_ok] at hparse
  obtain ⟨final, hrun, hfinish⟩ := hparse
  have hstart : ParseState.Ordered {} := ⟨List.nil_sublist _, List.nodup_nil⟩
  have hordered := hstart.readAll hrun
  refine ⟨final.names.reverse, ?_, List.nodup_reverse.mpr hordered.nodup, ?_⟩
  · rw [openedNames, hrun]
    rfl
  · obtain ⟨houter, rfl⟩ := ParseState.finish_eq_ok hfinish
    have hkept := hordered.kept
    rw [ParseState.kept, houter] at hkept
    exact (OpenGroup.captureNames_close_sublist final.group).trans hkept

end HttpRouter
