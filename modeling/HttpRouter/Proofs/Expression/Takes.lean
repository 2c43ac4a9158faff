import HttpRouter.Expression.Build
import HttpRouter.Expression.Search

namespace HttpRouter.Expr

variable {text : Array Char}

/-- The expression describes the stretch from place `i` to place `j`. The captures taken on the way
    come on top of those that were there. -/
inductive Takes (text : Array Char) : Expr → Nat → List Span → Nat → List Span → Prop where
  | empty (i : Nat) (s : List Span) : Takes text .empty i s i s
  | literal {t : List Char} {i : Nat} {s : List Span} (hreads : readsAt text t i = true) :
      Takes text (.literal t) i s (i + t.length) s
  | one {cls : CharClass} {i : Nat} {s : List Span} {c : Char} (hchar : text[i]? = some c)
      (hmem : c ∈ cls) : Takes text (.one cls) i s (i + 1) s
  | look {a : Assertion} {i : Nat} {s : List Span} (hholds : a.holds text i = true) :
      Takes text (.look a) i s i s
  | unnamed {index : Nat} {e : Expr} {i j : Nat} {s s' : List Span} (hbody : Takes text e i s j s') :
      Takes text (.capture index none e) i s j s'
  | named {index : Nat} {name : String} {e : Expr} {i j : Nat} {s s' : List Span}
      (hbody : Takes text e i s j s') :
      Takes text (.capture index (some name) e) i s j (⟨name, i, j⟩ :: s')
  | seq {a b : Expr} {i j k : Nat} {s s' s'' : List Span} (hfirst : Takes text a i s j s')
      (hsecond : Takes text b j s' k s'') : Takes text (.seq a b) i s k s''
  | altLeft {a b : Expr} {i j : Nat} {s s' : List Span} (hleft : Takes text a i s j s') :
      Takes text (.alt a b) i s j s'
  | altRight {a b : Expr} {i j : Nat} {s s' : List Span} (hright : Takes text b i s j s') :
      Takes text (.alt a b) i s j s'
  | stop {most : Option Nat} {greedy : Bool} {e : Expr} (i : Nat) (s : List Span) :
      Takes text (.repeat 0 most greedy e) i s i s
  | round {least : Nat} {most : Option Nat} {greedy : Bool} {e : Expr} {i j k : Nat}
      {s s' s'' : List Span} (hmost : most ≠ some 0) (hround : Takes text e i s j s')
      (hrest : Takes text (.repeat (least - 1) (most.map (· - 1)) greedy e) j s' k s'') :
      Takes text (.repeat least most greedy e) i s k s''

theorem Takes.matches {e : Expr} {i j : Nat} {s s' : List Span} (htakes : Takes text e i s j s') :
    Matches text e i j := by
  induction htakes with
  | empty i s => exact .empty i
  | literal hreads => exact .literal hreads
  | one hchar hmem => exact .one hchar hmem
  | look hholds => exact .look hholds
  | unnamed _ ih => exact .capture ih
  | named _ ih => exact .capture ih
  | seq _ _ ihFirst ihSecond => exact .seq ihFirst ihSecond
  | altLeft _ ih => exact .altLeft ih
  | altRight _ ih => exact .altRight ih
  | stop i s => exact .stop i
  | round hmost _ _ ihRound ihRest => exact .round hmost ihRound ihRest

theorem Matches.takes {e : Expr} {i j : Nat} (hmatches : Matches text e i j) (s : List Span) :
    ∃ s', Takes text e i s j s' := by
  induction hmatches generalizing s with
  | empty i => exact ⟨s, .empty i s⟩
  | literal hreads => exact ⟨s, .literal hreads⟩
  | one hchar hmem => exact ⟨s, .one hchar hmem⟩
  | look hholds => exact ⟨s, .look hholds⟩
  | @capture index name e i j _ ih =>
    obtain ⟨s', hbody⟩ := ih s
    cases name with
    | none => exact ⟨s', .unnamed hbody⟩
    | some name => exact ⟨_, .named hbody⟩
  | seq _ _ ihFirst ihSecond =>
    obtain ⟨s', hfirst⟩ := ihFirst s
    obtain ⟨s'', hsecond⟩ := ihSecond s'
    exact ⟨s'', .seq hfirst hsecond⟩
  | altLeft _ ih =>
    obtain ⟨s', hleft⟩ := ih s
    exact ⟨s', .altLeft hleft⟩
  | altRight _ ih =>
    obtain ⟨s', hright⟩ := ih s
    exact ⟨s', .altRight hright⟩
  | stop i => exact ⟨s, .stop i s⟩
  | round hmost _ _ ihRound ihRest =>
    obtain ⟨s', hround⟩ := ihRound s
    obtain ⟨s'', hrest⟩ := ihRest s'
    exact ⟨s'', .round hmost hround hrest⟩

/-- Matching says which stretches an expression takes and leaves out the captures. -/
theorem matches_iff_takes {e : Expr} {i j : Nat} :
    Matches text e i j ↔ ∃ s, Takes text e i [] j s :=
  ⟨fun hmatches => hmatches.takes [], fun ⟨_, htakes⟩ => htakes.matches⟩

/-- The captures that were there stay below those that are taken. -/
theorem Takes.suffix {e : Expr} {i j : Nat} {s s' : List Span} (htakes : Takes text e i s j s') :
    s <:+ s' := by
  induction htakes with
  | empty i s => exact List.suffix_refl s
  | literal hreads => exact List.suffix_refl _
  | one hchar hmem => exact List.suffix_refl _
  | look hholds => exact List.suffix_refl _
  | unnamed _ ih => exact ih
  | named _ ih => exact ih.trans (List.suffix_cons _ _)
  | seq _ _ ihFirst ihSecond => exact ihFirst.trans ihSecond
  | altLeft _ ih => exact ih
  | altRight _ ih => exact ih
  | stop i s => exact List.suffix_refl s
  | round hmost _ _ ihRound ihRest => exact ihRound.trans ihRest

theorem readsAt_append (s t : List Char) (i : Nat) :
    readsAt text (s ++ t) i = (readsAt text s i && readsAt text t (i + s.length)) := by
  induction s generalizing i with
  | nil => simp [readsAt]
  | cons c s ih =>
    simp only [List.cons_append, readsAt, ih, List.length_cons, Bool.and_assoc]
    rw [Nat.add_right_comm, Nat.add_assoc]

/-- A text that is read at a place of the text ends within it. -/
theorem le_size_of_readsAt {s : List Char} {place : Nat} (hplace : place ≤ text.size)
    (hreads : readsAt text s place = true) : place + s.length ≤ text.size := by
  induction s generalizing place with
  | nil => exact hplace
  | cons c s ih =>
    simp only [readsAt, Bool.and_eq_true, decide_eq_true_eq] at hreads
    obtain ⟨hlt, -⟩ := Array.getElem?_eq_some_iff.1 hreads.1
    have hrest := ih hlt hreads.2
    simp only [List.length_cons]
    omega

/-- Expressions one after the other describe the stretch from place `i` to place `j`. -/
def TakesRow (text : Array Char) : List Expr → Nat → List Span → Nat → List Span → Prop
  | [], i, s, j, s' => i = j ∧ s = s'
  | e :: es, i, s, j, s' => ∃ k r, Takes text e i s k r ∧ TakesRow text es k r j s'

@[simp]
theorem takesRow_nil {i j : Nat} {s s' : List Span} :
    TakesRow text [] i s j s' ↔ i = j ∧ s = s' := Iff.rfl

theorem takesRow_cons {e : Expr} {es : List Expr} {i j : Nat} {s s' : List Span} :
    TakesRow text (e :: es) i s j s' ↔ ∃ k r, Takes text e i s k r ∧ TakesRow text es k r j s' :=
  Iff.rfl

@[simp]
theorem takesRow_singleton {e : Expr} {i j : Nat} {s s' : List Span} :
    TakesRow text [e] i s j s' ↔ Takes text e i s j s' := by
  simp [takesRow_cons]

theorem takesRow_append {es fs : List Expr} {i j : Nat} {s s' : List Span} :
    TakesRow text (es ++ fs) i s j s' ↔
      ∃ k r, TakesRow text es i s k r ∧ TakesRow text fs k r j s' := by
  induction es generalizing i s with
  | nil =>
    constructor
    · intro hfs
      exact ⟨i, s, ⟨rfl, rfl⟩, hfs⟩
    · rintro ⟨k, r, ⟨rfl, rfl⟩, hfs⟩
      exact hfs
  | cons e es ih =>
    simp only [List.cons_append, takesRow_cons, ih]
    constructor
    · rintro ⟨k, r, he, l, q, hes, hfs⟩
      exact ⟨l, q, ⟨k, r, he, hes⟩, hfs⟩
    · rintro ⟨l, q, ⟨k, r, he, hes⟩, hfs⟩
      exact ⟨k, r, he, l, q, hes, hfs⟩

theorem TakesRow.suffix {es : List Expr} {i j : Nat} {s s' : List Span}
    (htakes : TakesRow text es i s j s') : s <:+ s' := by
  induction es generalizing i s with
  | nil =>
    obtain ⟨-, rfl⟩ := htakes
    exact List.suffix_refl s
  | cons e es ih =>
    obtain ⟨k, r, he, hes⟩ := htakes
    exact he.suffix.trans (ih hes)

@[simp]
theorem takes_empty {i j : Nat} {s s' : List Span} :
    Takes text .empty i s j s' ↔ i = j ∧ s = s' := by
  constructor
  · rintro ⟨⟩
    exact ⟨rfl, rfl⟩
  · rintro ⟨rfl, rfl⟩
    exact .empty _ _

@[simp]
theorem takes_literal {t : List Char} {i j : Nat} {s s' : List Span} :
    Takes text (.literal t) i s j s' ↔ readsAt text t i = true ∧ j = i + t.length ∧ s = s' := by
  constructor
  · rintro ⟨⟩
    exact ⟨‹_›, rfl, rfl⟩
  · rintro ⟨hreads, rfl, rfl⟩
    exact .literal hreads

@[simp]
theorem takes_look {a : Assertion} {i j : Nat} {s s' : List Span} :
    Takes text (.look a) i s j s' ↔ a.holds text i = true ∧ i = j ∧ s = s' := by
  constructor
  · rintro ⟨⟩
    exact ⟨‹_›, rfl, rfl⟩
  · rintro ⟨hholds, rfl, rfl⟩
    exact .look hholds

/-- A row between the anchors takes the whole text. -/
theorem takesRow_anchored {es : List Expr} {i j : Nat} {s s' : List Span} :
    TakesRow text (.look .textStart :: (es ++ [.look .textEnd])) i s j s' ↔
      i = 0 ∧ j = text.size ∧ TakesRow text es 0 s text.size s' := by
  simp only [takesRow_cons, takesRow_append, takesRow_nil, takes_look, Assertion.holds,
    decide_eq_true_eq]
  constructor
  · rintro ⟨k, r, ⟨rfl, rfl, rfl⟩, l, q, hes, m, u, ⟨rfl, rfl, rfl⟩, rfl, rfl⟩
    exact ⟨rfl, rfl, hes⟩
  · rintro ⟨rfl, rfl, hes⟩
    exact ⟨0, s, ⟨rfl, rfl, rfl⟩, _, s', hes, _, s', ⟨rfl, rfl, rfl⟩, rfl, rfl⟩

theorem takes_named {index : Nat} {name : String} {e : Expr} {i j : Nat} {s s' : List Span} :
    Takes text (.capture index (some name) e) i s j s' ↔
      ∃ r, Takes text e i s j r ∧ s' = ⟨name, i, j⟩ :: r := by
  constructor
  · rintro ⟨⟩
    exact ⟨_, ‹_›, rfl⟩
  · rintro ⟨r, hbody, rfl⟩
    exact .named hbody

theorem takes_seq {a b : Expr} {i j : Nat} {s s' : List Span} :
    Takes text (.seq a b) i s j s' ↔ ∃ k r, Takes text a i s k r ∧ Takes text b k r j s' := by
  constructor
  · rintro ⟨⟩
    exact ⟨_, _, ‹_›, ‹_›⟩
  · rintro ⟨k, r, hfirst, hsecond⟩
    exact .seq hfirst hsecond

/-- The items of a row describe what the row does. -/
theorem takesRow_items {e : Expr} {i j : Nat} {s s' : List Span} :
    TakesRow text e.items i s j s' ↔ Takes text e i s j s' := by
  induction e generalizing i s with
  | seq a b _ ih => simp [items, takesRow_cons, takes_seq, ih]
  | empty => simp [items]
  | literal | one | look | capture | alt | «repeat» => simp [items]

theorem takesRow_flatMap_items {es : List Expr} {i j : Nat} {s s' : List Span} :
    TakesRow text (es.flatMap items) i s j s' ↔ TakesRow text es i s j s' := by
  induction es generalizing i s with
  | nil => simp
  | cons e es ih => simp [takesRow_append, takesRow_cons, takesRow_items, ih]

/-- Two literals side by side read as one. -/
theorem takesRow_literal_literal {a b : List Char} {es : List Expr} {i j : Nat} {s s' : List Span} :
    TakesRow text (literal (a ++ b) :: es) i s j s' ↔
      TakesRow text (literal a :: literal b :: es) i s j s' := by
  simp only [takesRow_cons, takes_literal, readsAt_append, Bool.and_eq_true, List.length_append]
  constructor
  · rintro ⟨k, r, ⟨⟨ha, hb⟩, rfl, rfl⟩, hes⟩
    exact ⟨_, _, ⟨ha, rfl, rfl⟩, _, _, ⟨hb, rfl, rfl⟩, by rwa [Nat.add_assoc]⟩
  · rintro ⟨k, r, ⟨ha, rfl, rfl⟩, l, q, ⟨hb, rfl, rfl⟩, hes⟩
    exact ⟨_, _, ⟨⟨ha, hb⟩, rfl, rfl⟩, by rwa [← Nat.add_assoc]⟩

theorem takesRow_joinLiterals {es : List Expr} {i j : Nat} {s s' : List Span} :
    TakesRow text (joinLiterals es) i s j s' ↔ TakesRow text es i s j s' := by
  fun_induction joinLiterals es generalizing i s with
  | case1 => rfl
  | case2 a rest b tail hjoin ih =>
    rw [takesRow_literal_literal, takesRow_cons, takesRow_cons]
    simp only [← hjoin, ih]
  | case3 a rest _ ih => simp only [takesRow_cons, ih]
  | case4 e rest _ ih => simp only [takesRow_cons, ih]

theorem takes_row {es : List Expr} {i j : Nat} {s s' : List Span} :
    Takes text (row es) i s j s' ↔ TakesRow text es i s j s' := by
  fun_induction row es generalizing i s with
  | case1 => simp
  | case2 e => simp
  | case3 e rest _ ih => simp only [takes_seq, takesRow_cons, ih]

/-- Expressions put together one after the other describe what they do in a row. -/
theorem takes_concat {es : List Expr} {i j : Nat} {s s' : List Span} :
    Takes text (concat es) i s j s' ↔ TakesRow text es i s j s' := by
  rw [concat, takes_row, takesRow_joinLiterals, takesRow_flatMap_items]

end HttpRouter.Expr
