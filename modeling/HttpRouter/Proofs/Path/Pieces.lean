import HttpRouter.Proofs.Expression.Takes
import HttpRouter.Proofs.Path.Row

namespace HttpRouter

open HttpRouter.Expr (Takes TakesRow readsAt)

theorem exists_of_mem_forall₂ {α β : Type} {R : α → β → Prop} {as : List α} {bs : List β}
    (hall : List.Forall₂ R as bs) {b : β} (hb : b ∈ bs) : ∃ a ∈ as, R a b := by
  induction hall with
  | nil => cases hb
  | cons hfirst _ ih =>
    obtain rfl | hb := List.mem_cons.mp hb
    · exact ⟨_, List.mem_cons_self, hfirst⟩
    · obtain ⟨a, ha, hstands⟩ := ih hb
      exact ⟨a, List.mem_cons_of_mem _ ha, hstands⟩

variable {text : Array Char}

namespace Segment

/-- Whether a segment that is no fragment takes a piece of a path. -/
def Fits : Segment → List Char → Prop
  | literal text, piece => piece = text
  | capture _ kind, piece => piece ≠ [] ∧ ∀ c ∈ piece, kind.admits c = true
  | fragment _, _ => False

/-- The span that a capture takes of a stretch. -/
def span? (segment : Segment) (start stop : Nat) : Option Span :=
  segment.parameter?.map fun parameter => ⟨parameter.name, start, stop⟩

/-- The spans of the captures when the pieces lie in a row from a place on, each after a slash, the
    latest first. -/
def spans : List Segment → List (List Char) → Nat → List Span
  | segment :: segments, piece :: pieces, place =>
    spans segments pieces (place + piece.length + 1) ++
      (segment.span? (place + 1) (place + piece.length + 1)).toList
  | _, _, _ => []

/-- Whether a segment is a fragment. -/
def IsFragment : Segment → Prop
  | fragment _ => True
  | _ => False

theorem IsFragment.parameter?_eq_none {segment : Segment} (hfragment : segment.IsFragment) :
    segment.parameter? = none := by
  cases segment with
  | fragment text => rfl
  | literal text => exact hfragment.elim
  | capture name kind => exact hfragment.elim

theorem confined_of_not_isFragment {segment : Segment} (hfree : ¬segment.IsFragment) :
    segment.Confined := by
  cases segment with
  | fragment text => exact absurd trivial hfree
  | literal text => trivial
  | capture name kind => trivial

end Segment

namespace Expr

/-- Single characters in a row read their text. -/
theorem takesRow_literals {t : List Char} {i j : Nat} {s s' : List Span} :
    TakesRow text (t.map fun c => .literal [c]) i s j s' ↔
      readsAt text t i = true ∧ j = i + t.length ∧ s' = s := by
  induction t generalizing i with
  | nil => simp [readsAt, eq_comm]
  | cons c t ih =>
    rw [List.map_cons, takesRow_cons, List.length_cons]
    simp only [takes_literal, readsAt, Bool.and_true, Bool.and_eq_true]
    constructor
    · rintro ⟨_, _, ⟨hc, rfl, rfl⟩, hrest⟩
      obtain ⟨ht, rfl, rfl⟩ := ih.mp hrest
      exact ⟨⟨hc, ht⟩, by simp only [List.length_singleton]; omega, rfl⟩
    · rintro ⟨⟨hc, ht⟩, rfl, rfl⟩
      exact ⟨i + 1, _, ⟨hc, rfl, rfl⟩, ih.mpr ⟨ht, by omega, rfl⟩⟩

/-- Any number of characters of a class. -/
theorem takes_any {cls : CharClass} {greedy : Bool} {i j : Nat} {s s' : List Span} :
    Takes text (.repeat 0 none greedy (.one cls)) i s j s' ↔
      ∃ piece, (∀ c ∈ piece, c ∈ cls) ∧ readsAt text piece i = true ∧ j = i + piece.length ∧
        s' = s := by
  constructor
  · intro htakes
    generalize he : Expr.repeat 0 none greedy (.one cls) = e at htakes
    induction htakes with
    | stop i s => exact ⟨[], by simp, rfl, rfl, rfl⟩
    | round hmost hround hrest ihRound ihRest =>
      cases he
      obtain ⟨piece, hpiece, hreads, rfl, rfl⟩ := ihRest rfl
      cases hround with
      | one hchar hmem =>
        refine ⟨_ :: piece, List.forall_mem_cons.mpr ⟨hmem, hpiece⟩, ?_, ?_, rfl⟩
        · simp [readsAt, hchar, hreads]
        · simp only [List.length_cons]
          omega
    | _ => cases he
  · rintro ⟨piece, hpiece, hreads, rfl, rfl⟩
    induction piece generalizing i with
    | nil => exact .stop i _
    | cons c piece ih =>
      rw [List.forall_mem_cons] at hpiece
      simp only [readsAt, Bool.and_eq_true, decide_eq_true_eq] at hreads
      have hrest := ih hpiece.2 hreads.2
      rw [List.length_cons, ← Nat.add_assoc, Nat.add_right_comm]
      exact .round (by simp) (.one hreads.1 hpiece.1) hrest

/-- One character of a class or more. -/
theorem takes_some {cls : CharClass} {greedy : Bool} {i j : Nat} {s s' : List Span} :
    Takes text (.repeat 1 none greedy (.one cls)) i s j s' ↔
      ∃ piece, piece ≠ [] ∧ (∀ c ∈ piece, c ∈ cls) ∧ readsAt text piece i = true ∧
        j = i + piece.length ∧ s' = s := by
  constructor
  · intro htakes
    cases htakes with
    | round hmost hround hrest =>
      obtain ⟨piece, hpiece, hreads, rfl, rfl⟩ := takes_any.mp hrest
      cases hround with
      | one hchar hmem =>
        refine ⟨_ :: piece, List.cons_ne_nil _ _, List.forall_mem_cons.mpr ⟨hmem, hpiece⟩, ?_, ?_,
          rfl⟩
        · simp [readsAt, hchar, hreads]
        · simp only [List.length_cons]
          omega
  · rintro ⟨piece, hne, hpiece, hreads, rfl, rfl⟩
    obtain _ | ⟨c, piece⟩ := piece
    · exact absurd rfl hne
    · rw [List.forall_mem_cons] at hpiece
      simp only [readsAt, Bool.and_eq_true, decide_eq_true_eq] at hreads
      refine .round (by simp) (.one hreads.1 hpiece.1) (takes_any.mpr ?_)
      exact ⟨piece, hpiece.2, hreads.2, by simp only [List.length_cons]; omega, rfl⟩

end Expr

namespace Segment

/-- What a segment that is no fragment reads as takes a slash and a piece that fits the segment. -/
theorem ReadsAs.takesRow_iff {segment : Segment} {row : List Expr} {i j : Nat} {s s' : List Span}
    (hreads : segment.ReadsAs row) (hfragment : ¬segment.IsFragment) :
    TakesRow text row i s j s' ↔
      ∃ piece, segment.Fits piece ∧ readsAt text ('/' :: piece) i = true ∧
        j = i + piece.length + 1 ∧ s' = (segment.span? (i + 1) j).toList ++ s := by
  cases hreads with
  | literal t =>
    have hrow : (Expr.literal ['/'] :: t.map fun c => .literal [c]) =
        ('/' :: t).map fun c => .literal [c] := rfl
    rw [hrow, Expr.takesRow_literals]
    simp only [Fits, span?, parameter?, Option.map_none, Option.toList_none, List.nil_append,
      exists_eq_left, List.length_cons, Nat.add_assoc]
  | fragment t e => exact absurd trivial hfragment
  | capture name kind index =>
    constructor
    · rintro ⟨_, _, hslash, _, _, hcapture, rfl, rfl⟩
      obtain ⟨hslash, rfl, rfl⟩ := Expr.takes_literal.mp hslash
      obtain ⟨_, hbody, rfl⟩ := Expr.takes_named.mp hcapture
      obtain ⟨piece, hne, hpiece, hreads, rfl, rfl⟩ := Expr.takes_some.mp hbody
      refine ⟨piece, ⟨hne, fun c hc => (kind.mem_cls c).mp (hpiece c hc)⟩, ?_, ?_, rfl⟩
      · rw [readsAt, Bool.and_eq_true]
        exact ⟨by simpa [readsAt] using hslash, hreads⟩
      · simp only [List.length_singleton]
        omega
    · rintro ⟨piece, ⟨hne, hpiece⟩, hall, rfl, rfl⟩
      rw [readsAt, Bool.and_eq_true, decide_eq_true_eq] at hall
      have hslash : Takes text (.literal ['/']) i s (i + 1) s :=
        Expr.takes_literal.mpr ⟨by simp [readsAt, hall.1], rfl, rfl⟩
      have hbody : Takes text (.repeat 1 none false (.one kind.cls)) (i + 1) s
          (i + piece.length + 1) s :=
        Expr.takes_some.mpr ⟨piece, hne, fun c hc => (kind.mem_cls c).mpr (hpiece c hc), hall.2,
          by omega, rfl⟩
      exact ⟨i + 1, s, hslash, _, _, .named hbody, rfl, rfl⟩

/-- A row without fragments takes the pieces that fit its segments, each after a slash. -/
theorem takesRow_pieces {segments : List Segment} {rows : List (List Expr)} {i j : Nat}
    {s s' : List Span} (hreads : List.Forall₂ ReadsAs segments rows)
    (hfree : ∀ segment ∈ segments, ¬segment.IsFragment) :
    TakesRow text rows.flatten i s j s' ↔
      ∃ pieces, List.Forall₂ Fits segments pieces ∧
        readsAt text (pieces.flatMap ('/' :: ·)) i = true ∧
        j = i + (pieces.flatMap ('/' :: ·)).length ∧ s' = spans segments pieces i ++ s := by
  induction hreads generalizing i s with
  | nil =>
    simp only [List.flatten_nil, Expr.takesRow_nil, List.forall₂_nil_left_iff, exists_eq_left,
      List.flatMap_nil, List.length_nil, readsAt, spans, List.nil_append, Nat.add_zero, true_and]
    rw [eq_comm, @eq_comm _ s]
  | @cons segment row segments rows hrow hrows ih =>
    rw [List.forall_mem_cons] at hfree
    rw [List.flatten_cons, Expr.takesRow_append]
    simp only [hrow.takesRow_iff hfree.1, ih hfree.2]
    constructor
    · rintro ⟨_, _, ⟨piece, hpiece, hfirst, rfl, rfl⟩, pieces, hpieces, hrest, rfl, rfl⟩
      refine ⟨piece :: pieces, .cons hpiece hpieces, ?_, ?_, ?_⟩
      · rw [List.flatMap_cons, Expr.readsAt_append, Bool.and_eq_true]
        exact ⟨hfirst, hrest⟩
      · simp only [List.flatMap_cons, List.length_append, List.length_cons]
        omega
      · rw [spans, List.append_assoc]
    · rintro ⟨_, ⟨⟩ | ⟨hpiece, hpieces⟩, hall, rfl, rfl⟩
      rename_i piece pieces
      rw [List.flatMap_cons, Expr.readsAt_append, Bool.and_eq_true] at hall
      refine ⟨_, _, ⟨piece, hpiece, hall.1, rfl, rfl⟩, pieces, hpieces, hall.2, ?_, ?_⟩
      · simp only [List.flatMap_cons, List.length_append, List.length_cons]
        omega
      · rw [spans, List.append_assoc]

end Segment

/-- A text is read at a place if it is what comes first from there on. -/
theorem Expr.readsAt_iff_starts {t : List Char} {i : Nat} :
    readsAt text t i = true ↔ t <+: text.toList.drop i := by
  induction t generalizing i with
  | nil => simp [readsAt]
  | cons c t ih =>
    rw [readsAt, Bool.and_eq_true, decide_eq_true_eq, ih]
    by_cases hplace : i < text.size
    · have hdrop : text.toList.drop i = text[i] :: text.toList.drop (i + 1) :=
        List.drop_eq_getElem_cons (by simpa using hplace)
      rw [hdrop, List.cons_prefix_cons, Array.getElem?_eq_getElem hplace, Option.some_inj, eq_comm]
    · have hdrop : text.toList.drop i = [] := List.drop_eq_nil_of_le (by simpa using hplace)
      rw [hdrop, Array.getElem?_eq_none (by omega)]
      simp

/-- What is read from a place on is what lies there. -/
theorem Expr.extract_of_readsAt {t : List Char} {i : Nat} (hreads : readsAt text t i = true) :
    (text.extract i (i + t.length)).toList = t := by
  rw [readsAt_iff_starts, List.prefix_iff_eq_take] at hreads
  rw [Array.toList_extract, List.extract_eq_take_drop, Nat.add_sub_cancel_left]
  exact hreads.symm

/-- A text is read from the first to the last place if it is the whole text. -/
theorem Expr.readsAt_whole {t : List Char} :
    readsAt text t 0 = true ∧ text.size = 0 + t.length ↔ text.toList = t := by
  rw [readsAt_iff_starts, List.drop_zero, Nat.zero_add, ← Array.length_toList]
  constructor
  · rintro ⟨hstarts, hlength⟩
    exact (hstarts.eq_of_length hlength.symm).symm
  · rintro rfl
    exact ⟨List.prefix_refl _, rfl⟩

/-- Pieces after a slash each are a slash and the pieces with slashes between them. -/
theorem flatMap_slash {pieces : List (List Char)} (hpieces : pieces ≠ []) :
    pieces.flatMap ('/' :: ·) = '/' :: ['/'].intercalate pieces := by
  induction pieces with
  | nil => exact absurd rfl hpieces
  | cons piece pieces ih =>
    rw [List.flatMap_cons, List.cons_append]
    by_cases hmore : pieces = []
    · simp [hmore]
    · rw [ih hmore, List.intercalate_cons_of_ne_nil hmore]
      simp

/-- A piece between two separators holds no separator. -/
theorem not_mem_of_mem_splitOn {sep : Char} {s piece : List Char} (h : piece ∈ s.splitOn sep) :
    sep ∉ piece := by
  induction s generalizing piece with
  | nil =>
    rw [List.splitOn_nil, List.mem_singleton] at h
    simp [h]
  | cons c s ih =>
    rw [List.splitOn_cons_eq_if_modifyHead] at h
    split at h
    · obtain rfl | h := List.mem_cons.mp h
      · simp
      · exact ih h
    · rename_i hc
      generalize s.splitOn sep = pieces at h ih
      obtain _ | ⟨first, pieces⟩ := pieces
      · cases h
      · rw [List.modifyHead_cons] at h
        obtain rfl | h := List.mem_cons.mp h
        · have hfirst := ih List.mem_cons_self
          have hne : sep ≠ c := by
            rintro rfl
            simp at hc
          simp [hne, hfirst]
        · exact ih (List.mem_cons_of_mem _ h)

namespace Segment

/-- The text of a literal is what stands between two slashes of the template. -/
theorem eq_of_read_literal {element text : List Char} (h : read element = literal text) :
    text = element := by
  rw [read] at h
  split at h
  · cases h
    rfl
  · simp only at h
    split at h
    · cases h
    · split at h
      · split at h
        · split at h <;> cases h
        · cases h
      · cases h

/-- A piece that fits a segment of a template holds no slash. -/
theorem Fits.slash_notMem {template : String} {segment : Segment} {piece : List Char}
    (hfits : segment.Fits piece) (hmem : segment ∈ Template.segments template) :
    '/' ∉ piece := by
  cases segment with
  | literal text =>
    obtain ⟨element, helement, hread⟩ := List.mem_map.mp hmem
    obtain rfl := eq_of_read_literal hread
    rw [hfits]
    rw [Template.elements.eq_def] at helement
    split at helement
    · exact not_mem_of_mem_splitOn helement
    · exact not_mem_of_mem_splitOn helement
  | fragment text => exact hfits.elim
  | capture name kind =>
    intro hslash
    have hadmits := hfits.2 '/' hslash
    cases kind <;> simp [CaptureKind.admits] at hadmits

/-- The pieces that fit the segments of a template and make up a path are those between the slashes
    of the path, after the first one. -/
theorem exists_pieces_iff {template : String} {path : List Char} {p : List (List Char) → Prop} :
    (∃ pieces, List.Forall₂ Fits (Template.segments template) pieces ∧
        path = pieces.flatMap ('/' :: ·) ∧ p pieces) ↔
      ∃ rest, path = '/' :: rest ∧
        List.Forall₂ Fits (Template.segments template) (rest.splitOn '/') ∧
        p (rest.splitOn '/') := by
  constructor
  · rintro ⟨pieces, hfits, rfl, hp⟩
    have hne : pieces ≠ [] := by
      rintro rfl
      have hsegments := List.forall₂_nil_right_iff.mp hfits
      rw [Template.segments, List.map_eq_nil_iff, Template.elements.eq_def] at hsegments
      split at hsegments <;> exact List.splitOn_ne_nil _ _ hsegments
    have hslash : ∀ piece ∈ pieces, '/' ∉ piece := by
      intro piece hpiece
      obtain ⟨segment, hsegment, hfits⟩ := exists_of_mem_forall₂ hfits hpiece
      exact hfits.slash_notMem hsegment
    refine ⟨['/'].intercalate pieces, flatMap_slash hne, ?_⟩
    rw [List.splitOn_intercalate '/' hslash hne]
    exact ⟨hfits, hp⟩
  · rintro ⟨rest, rfl, hfits, hp⟩
    refine ⟨rest.splitOn '/', hfits, ?_, hp⟩
    rw [flatMap_slash (List.splitOn_ne_nil _ _), List.intercalate_splitOn]

end Segment

end HttpRouter
