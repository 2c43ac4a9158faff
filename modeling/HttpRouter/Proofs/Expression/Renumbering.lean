import HttpRouter.Expression.Build
import HttpRouter.Proofs.Expression.Naming
import HttpRouter.Proofs.Expression.Takes
import Mathlib.Logic.Function.Basic

namespace HttpRouter.Expr

variable {f : Nat → Nat}

/-- The expression with other numbers for its captures. -/
def renumber (f : Nat → Nat) : Expr → Expr
  | empty => empty
  | literal text => literal text
  | one cls => one cls
  | look a => look a
  | capture index name e => capture (f index) name (e.renumber f)
  | seq a b => seq (a.renumber f) (b.renumber f)
  | alt a b => alt (a.renumber f) (b.renumber f)
  | .repeat least most greedy e => .repeat least most greedy (e.renumber f)

theorem renumber_id (e : Expr) : e.renumber id = e := by
  induction e with
  | empty | literal | one | look => rfl
  | capture _ _ _ ih | «repeat» _ _ _ _ ih => simp only [renumber, ih, id]
  | seq _ _ iha ihb | alt _ _ iha ihb => simp only [renumber, iha, ihb]

theorem renumber_renumber (f g : Nat → Nat) (e : Expr) :
    (e.renumber f).renumber g = e.renumber (g ∘ f) := by
  induction e with
  | empty | literal | one | look => rfl
  | capture _ _ _ ih | «repeat» _ _ _ _ ih => simp only [renumber, ih, Function.comp_apply]
  | seq _ _ iha ihb | alt _ _ iha ihb => simp only [renumber, iha, ihb]

/-- Different expressions stay different if different numbers do. -/
theorem renumber_injective (hf : f.Injective) : (renumber f).Injective := by
  obtain ⟨g, hg⟩ := hf.hasLeftInverse
  have hback : Function.LeftInverse (renumber g) (renumber f) := by
    intro e
    rw [renumber_renumber, hg.id, renumber_id]
  exact hback.injective

section Taking

variable {text : Array Char}

/-- An expression takes what it takes, whatever the numbers of its captures. -/
theorem Takes.renumber {e : Expr} {i j : Nat} {s s' : List Span} (htakes : Takes text e i s j s')
    (f : Nat → Nat) : Takes text (e.renumber f) i s j s' := by
  induction htakes with
  | empty i s => exact .empty i s
  | literal hreads => exact .literal hreads
  | one hchar hmem => exact .one hchar hmem
  | look hholds => exact .look hholds
  | unnamed _ ih => exact .unnamed ih
  | named _ ih => exact .named ih
  | seq _ _ iha ihb => exact .seq iha ihb
  | altLeft _ ih => exact .altLeft ih
  | altRight _ ih => exact .altRight ih
  | stop i s => exact .stop i s
  | round hmost _ _ ihRound ihRest => exact .round hmost ihRound ihRest

theorem takes_renumber (hf : f.Injective) {e : Expr} {i j : Nat} {s s' : List Span} :
    Takes text (e.renumber f) i s j s' ↔ Takes text e i s j s' := by
  refine ⟨fun htakes => ?_, fun htakes => htakes.renumber f⟩
  obtain ⟨g, hg⟩ := hf.hasLeftInverse
  have hback := htakes.renumber g
  rwa [renumber_renumber, hg.id, renumber_id] at hback

end Taking

section Building

theorem items_renumber (f : Nat → Nat) (e : Expr) :
    (e.renumber f).items = e.items.map (renumber f) := by
  induction e with
  | seq a b _ ih => simp only [renumber, items, ih, List.map_cons]
  | empty | literal | one | look | capture | alt | «repeat» => rfl

theorem branches_renumber (f : Nat → Nat) (e : Expr) :
    (e.renumber f).branches = e.branches.map (renumber f) := by
  induction e with
  | alt a b _ ih => simp only [renumber, branches, ih, List.map_cons]
  | empty | literal | one | look | capture | seq | «repeat» => rfl

theorem joinLiterals_renumber (f : Nat → Nat) (es : List Expr) :
    joinLiterals (es.map (renumber f)) = (joinLiterals es).map (renumber f) := by
  fun_induction joinLiterals es with
  | case1 => rfl
  | case2 a rest b tail hjoin ih =>
    rw [hjoin] at ih
    rw [List.map_cons, renumber, joinLiterals, ih]
    rfl
  | case3 a rest hjoin ih =>
    rw [List.map_cons, renumber, joinLiterals, ih]
    generalize joinLiterals rest = joined at hjoin
    obtain _ | ⟨e, joined⟩ := joined
    · rfl
    · cases e with
      | literal t => exact (hjoin t joined rfl).elim
      | empty | one | look | capture | seq | alt | «repeat» => rfl
  | case4 e rest hliteral ih =>
    rw [List.map_cons, List.map_cons]
    cases e with
    | literal t => exact (hliteral t rfl).elim
    | empty | one | look | capture | seq | alt | «repeat» =>
      rw [renumber, joinLiterals, ih]
      simp

theorem row_renumber (f : Nat → Nat) (es : List Expr) :
    row (es.map (renumber f)) = (row es).renumber f := by
  fun_induction row es with
  | case1 => rfl
  | case2 e => rfl
  | case3 e rest hrest ih =>
    obtain _ | ⟨d, rest⟩ := rest
    · exact (hrest rfl).elim
    · exact congrArg (seq (e.renumber f)) ih

theorem concat_renumber (f : Nat → Nat) (es : List Expr) :
    concat (es.map (renumber f)) = (concat es).renumber f := by
  have hitems : (es.map (renumber f)).flatMap items = (es.flatMap items).map (renumber f) := by
    rw [List.flatMap_map, List.map_flatMap]
    simp only [items_renumber]
  rw [concat, hitems, joinLiterals_renumber, row_renumber, concat]

theorem choice_renumber (f : Nat → Nat) (es : List Expr) :
    choice (es.map (renumber f)) = (choice es).renumber f := by
  fun_induction choice es with
  | case1 => rfl
  | case2 e => rfl
  | case3 e rest hrest ih =>
    obtain _ | ⟨d, rest⟩ := rest
    · exact (hrest rfl).elim
    · exact congrArg (alt (e.renumber f)) ih

theorem asUnion?_renumber (f : Nat → Nat) (es : List Expr) :
    asUnion? (es.map (renumber f)) = asUnion? es := by
  have hchar : ∀ e : Expr, (e.renumber f).asChar? = e.asChar? := by
    intro e
    cases e <;> rfl
  have hclass : ∀ e : Expr, (e.renumber f).asClass? = e.asClass? := by
    intro e
    cases e <;> rfl
  have hmap : ∀ {β : Type} (g : Expr → Option β), (∀ e, g (e.renumber f) = g e) →
      (es.map (renumber f)).mapM g = es.mapM g := by
    intro β g hg
    induction es with
    | nil => rfl
    | cons e es ih => rw [List.map_cons, List.mapM_cons, List.mapM_cons, hg, ih]
  rw [asUnion?, asUnion?, hmap asChar? hchar, hmap asClass? hclass]

theorem commonItems_renumber (hf : f.Injective) (as bs : List Expr) :
    commonItems (as.map (renumber f)) (bs.map (renumber f)) =
      (commonItems as bs).map (renumber f) := by
  fun_induction commonItems as bs with
  | case1 as a bs ih => simp only [List.map_cons, commonItems, if_true, ih]
  | case2 a as b bs hne =>
    simp only [List.map_cons, commonItems, if_neg ((renumber_injective hf).ne hne), List.map_nil]
  | case3 as bs hne =>
    obtain _ | ⟨a, as⟩ := as
    · rfl
    · obtain _ | ⟨b, bs⟩ := bs
      · rfl
      · exact (hne a as b bs rfl rfl).elim

theorem sharedItems_renumber (hf : f.Injective) (rows : List (List Expr)) :
    sharedItems (rows.map (List.map (renumber f))) = (sharedItems rows).map (renumber f) := by
  have hfold : ∀ (rest : List (List Expr)) (common : List Expr),
      (rest.map (List.map (renumber f))).foldl commonItems (common.map (renumber f)) =
        (rest.foldl commonItems common).map (renumber f) := by
    intro rest
    induction rest with
    | nil => exact fun _ => rfl
    | cons other rest ih =>
      intro common
      rw [List.map_cons, List.foldl_cons, List.foldl_cons, commonItems_renumber hf, ih]
  obtain _ | ⟨first, rest⟩ := rows
  · rfl
  · have hlong : ((first :: rest).map (List.map (renumber f))).all (2 ≤ ·.length) =
        (first :: rest).all (2 ≤ ·.length) := by
      simp [List.all_map, Function.comp_def]
    rw [sharedItems, List.map_cons, sharedItems, ← List.map_cons, hlong, hfold]
    split <;> rfl

theorem size_renumber (f : Nat → Nat) (e : Expr) : (e.renumber f).size = e.size := by
  induction e with
  | empty | literal | one | look => rfl
  | capture _ _ _ ih | «repeat» _ _ _ _ ih => simp only [renumber, size, ih]
  | seq _ _ iha ihb | alt _ _ iha ihb => simp only [renumber, size, iha, ihb]

/-- Choosing between several alternatives. -/
theorem choose_of_many {fuel : Nat} {es : List Expr} (hmany : ∀ e, es.flatMap branches = [e] → False) :
    choose fuel es =
      match asUnion? (es.flatMap branches) with
      | some cls => ofClass cls
      | none =>
        match fuel, sharedItems ((es.flatMap branches).map items) with
        | fuel + 1, a :: shared =>
          concat ((a :: shared) ++ [choose fuel ((es.flatMap branches).map fun e =>
            concat (e.items.drop (shared.length + 1)))])
        | _, _ => choice (es.flatMap branches) := by
  rw [choose.eq_def]
  dsimp only
  generalize es.flatMap branches = bs at hmany
  obtain _ | ⟨b, _ | ⟨c, bs⟩⟩ := bs
  · rfl
  · exact (hmany b rfl).elim
  · rfl

theorem choose_renumber (hf : f.Injective) (fuel : Nat) (es : List Expr) :
    choose fuel (es.map (renumber f)) = (choose fuel es).renumber f := by
  have hbranches : ∀ es : List Expr,
      (es.map (renumber f)).flatMap branches = (es.flatMap branches).map (renumber f) := by
    intro es
    rw [List.flatMap_map, List.map_flatMap]
    simp only [branches_renumber]
  have hitems : ∀ es : List Expr,
      (es.map (renumber f)).map items = (es.map items).map (List.map (renumber f)) := by
    intro es
    simp only [List.map_map, Function.comp_def, items_renumber]
  have hrests : ∀ (n : Nat) (es : List Expr),
      (es.map (renumber f)).map (fun e => concat (e.items.drop n)) =
        (es.map fun e => concat (e.items.drop n)).map (renumber f) := by
    intro n es
    simp only [List.map_map, Function.comp_def, items_renumber, ← List.map_drop, concat_renumber]
  have hmap : ∀ {es : List Expr}, (∀ e, es.flatMap branches = [e] → False) →
      ∀ e, (es.map (renumber f)).flatMap branches = [e] → False := by
    intro es hmany e hsingle
    rw [hbranches, List.map_eq_singleton_iff] at hsingle
    obtain ⟨e, hsingle, -⟩ := hsingle
    exact hmany e hsingle
  fun_induction choose fuel es with
  | case1 fuel es e hsingle =>
    rw [choose.eq_def]
    simp only [hbranches, hsingle, List.map_cons, List.map_nil]
  | case2 fuel es cls hmany hunion =>
    rw [choose_of_many (hmap hmany), hbranches, asUnion?_renumber, hunion]
    dsimp only
    unfold ofClass
    split <;> rfl
  | case3 es fuel a shared hmany hunion hshared rests ih =>
    rw [choose_of_many (hmap hmany), hbranches, asUnion?_renumber, hunion, hitems,
      sharedItems_renumber hf, hshared, ← concat_renumber]
    simp only [List.map_cons, List.length_map, List.map_append, List.map_nil, hrests, ← ih, rests]
  | case4 fuel es hmany hunion hnone =>
    rw [choose_of_many (hmap hmany), hbranches, asUnion?_renumber, hunion, hitems,
      sharedItems_renumber hf, ← choice_renumber]
    dsimp only
    split
    · rename_i fuel a shared hshared
      obtain ⟨b, others, heq, -, -⟩ := List.map_eq_cons_iff.mp hshared
      exact (hnone fuel b others rfl heq).elim
    · rfl

theorem alternatives_renumber (hf : f.Injective) (es : List Expr) :
    alternatives (es.map (renumber f)) = (alternatives es).renumber f := by
  rw [alternatives, choose_renumber hf, List.foldl_map]
  simp only [size_renumber]
  rfl

theorem takesNothing_renumber (f : Nat → Nat) (e : Expr) :
    (e.renumber f).takesNothing = e.takesNothing := by
  induction e with
  | empty | literal | one | look => rfl
  | capture _ _ _ ih | «repeat» _ _ _ _ ih => simp only [renumber, takesNothing, ih]
  | seq _ _ iha ihb | alt _ _ iha ihb => simp only [renumber, takesNothing, iha, ihb]

theorem repeated_renumber (f : Nat → Nat) (least : Nat) (most : Option Nat) (greedy : Bool)
    (e : Expr) :
    repeated least most greedy (e.renumber f) = (repeated least most greedy e).renumber f := by
  unfold repeated
  rw [takesNothing_renumber]
  dsimp only
  generalize (if e.takesNothing then min least 1 else least) = fewest
  generalize (if e.takesNothing then some (min (most.getD 1) 1) else most) = limit
  by_cases hnone : fewest = 0 ∧ limit = some 0
  · rw [if_pos hnone, if_pos hnone]
    rfl
  · rw [if_neg hnone, if_neg hnone]
    by_cases hone : fewest = 1 ∧ limit = some 1
    · rw [if_pos hone, if_pos hone]
    · rw [if_neg hone, if_neg hone]
      rfl

end Building

end HttpRouter.Expr
