import HttpRouter.Proofs.Expression.Takes

namespace HttpRouter

/-- Whether a span is a stretch of the text. -/
def Span.Within (span : Span) (text : Array Char) : Prop :=
  span.start ≤ span.stop ∧ span.stop ≤ text.size

namespace Expr

variable {text : Array Char}

/-- A match ends within the text and not before it begins. -/
theorem Takes.bounds {e : Expr} {i j : Nat} {s s' : List Span} (htakes : Takes text e i s j s')
    (hi : i ≤ text.size) : i ≤ j ∧ j ≤ text.size := by
  induction htakes with
  | empty i s => exact ⟨Nat.le_refl i, hi⟩
  | literal hreads => exact ⟨Nat.le_add_right _ _, le_size_of_readsAt hi hreads⟩
  | one hchar hmem => exact ⟨Nat.le_succ _, (Array.getElem?_eq_some_iff.1 hchar).1⟩
  | look hholds => exact ⟨Nat.le_refl _, hi⟩
  | unnamed _ ih => exact ih hi
  | named _ ih => exact ih hi
  | seq _ _ ihFirst ihSecond =>
    obtain ⟨hfirst, hmiddle⟩ := ihFirst hi
    obtain ⟨hsecond, hend⟩ := ihSecond hmiddle
    exact ⟨Nat.le_trans hfirst hsecond, hend⟩
  | altLeft _ ih => exact ih hi
  | altRight _ ih => exact ih hi
  | stop i s => exact ⟨Nat.le_refl i, hi⟩
  | round hmost _ _ ihRound ihRest =>
    obtain ⟨hround, hmiddle⟩ := ihRound hi
    obtain ⟨hrest, hend⟩ := ihRest hmiddle
    exact ⟨Nat.le_trans hround hrest, hend⟩

theorem TakesRow.bounds {es : List Expr} {i j : Nat} {s s' : List Span}
    (htakes : TakesRow text es i s j s') (hi : i ≤ text.size) : i ≤ j ∧ j ≤ text.size := by
  induction es generalizing i s with
  | nil =>
    obtain ⟨rfl, -⟩ := htakes
    exact ⟨Nat.le_refl _, hi⟩
  | cons e es ih =>
    obtain ⟨k, r, he, hes⟩ := htakes
    obtain ⟨hfirst, hmiddle⟩ := he.bounds hi
    obtain ⟨hrest, hend⟩ := ih hes hmiddle
    exact ⟨Nat.le_trans hfirst hrest, hend⟩

/-- The captures on the way of a match take stretches of the text. -/
theorem Takes.within {e : Expr} {i j : Nat} {s s' : List Span} (htakes : Takes text e i s j s')
    (hi : i ≤ text.size) (hspans : ∀ span ∈ s, span.Within text) :
    ∀ span ∈ s', span.Within text := by
  induction htakes with
  | empty | literal | one | look | stop => exact hspans
  | unnamed _ ih => exact ih hi hspans
  | named hbody ih =>
    rw [List.forall_mem_cons]
    exact ⟨hbody.bounds hi, ih hi hspans⟩
  | seq hfirst _ ihFirst ihSecond =>
    exact ihSecond (hfirst.bounds hi).2 (ihFirst hi hspans)
  | altLeft _ ih => exact ih hi hspans
  | altRight _ ih => exact ih hi hspans
  | round _ hround _ ihRound ihRest => exact ihRest (hround.bounds hi).2 (ihRound hi hspans)

/-- A name that is no capture of the expression keeps its span. -/
theorem Takes.find?_of_notMem {e : Expr} {i j : Nat} {s s' : List Span} {name : String}
    (htakes : Takes text e i s j s') (hname : name ∉ e.captureNames) :
    s'.find? (·.name == name) = s.find? (·.name == name) := by
  induction htakes with
  | empty | literal | one | look | stop => rfl
  | unnamed _ ih => exact ih (by simpa [captureNames] using hname)
  | named _ ih =>
    simp only [captureNames, Option.toList_some, List.singleton_append, List.mem_cons, not_or]
      at hname
    rw [List.find?_cons_of_neg (by simpa using Ne.symm hname.1), ih hname.2]
  | seq _ _ ihFirst ihSecond =>
    rw [captureNames, List.mem_append, not_or] at hname
    rw [ihSecond hname.2, ihFirst hname.1]
  | altLeft _ ih =>
    rw [captureNames, List.mem_append, not_or] at hname
    exact ih hname.1
  | altRight _ ih =>
    rw [captureNames, List.mem_append, not_or] at hname
    exact ih hname.2
  | round _ _ _ ihRound ihRest =>
    rw [captureNames] at hname
    rw [ihRest hname, ihRound hname]

theorem TakesRow.find?_of_notMem {es : List Expr} {i j : Nat} {s s' : List Span} {name : String}
    (htakes : TakesRow text es i s j s') (hname : name ∉ es.flatMap captureNames) :
    s'.find? (·.name == name) = s.find? (·.name == name) := by
  induction es generalizing i s with
  | nil =>
    obtain ⟨-, rfl⟩ := htakes
    rfl
  | cons e es ih =>
    obtain ⟨k, r, he, hes⟩ := htakes
    rw [List.flatMap_cons, List.mem_append, not_or] at hname
    rw [ih hes hname.2, he.find?_of_notMem hname.1]

end Expr

end HttpRouter
