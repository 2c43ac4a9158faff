import HttpRouter.Proofs.Expression.Embedding
import HttpRouter.Proofs.Expression.Search
import HttpRouter.Proofs.Expression.Spans
import HttpRouter.Proofs.Path.Order

namespace HttpRouter

open HttpRouter.Expr (TakesRow readsAt)

variable {text : Array Char}

/-- What lies between two places is a text that is read from the first one on. -/
theorem Expr.exists_readsAt {i j : Nat} (hle : i ≤ j) (hj : j ≤ text.size) :
    ∃ t, readsAt text t i = true ∧ j = i + t.length := by
  refine ⟨(text.extract i j).toList, ?_, ?_⟩
  · rw [readsAt_iff_starts, Array.toList_extract, List.extract_eq_take_drop]
    exact List.take_prefix _ _
  · rw [Array.length_toList, Array.size_extract]
    omega

namespace Segment

/-- Whether a segment takes a piece that lies at a place of a text. A literal takes its own text, a
    capture characters that its kind admits, one at least, and a fragment what it matches there by
    itself. -/
def Stands (text : Array Char) : Segment → Nat → List Char → Prop
  | literal t, _, piece => piece = t
  | capture _ kind, _, piece => piece ≠ [] ∧ ∀ c ∈ piece, kind.admits c = true
  | fragment t, place, piece =>
    ∃ e, Expr.parse t = .ok e ∧ e.Matches text place (place + piece.length)

/-- Pieces that lie in a row from a place of a text on, each after a slash, and are taken there by the
    segments, one by each. -/
inductive Cut (text : Array Char) : List Segment → List (List Char) → Nat → Prop where
  | nil (place : Nat) : Cut text [] [] place
  | cons {segment : Segment} {segments : List Segment} {piece : List Char}
      {pieces : List (List Char)} {place : Nat} (hstands : segment.Stands text (place + 1) piece)
      (hrest : Cut text segments pieces (place + piece.length + 1)) :
      Cut text (segment :: segments) (piece :: pieces) place

theorem Cut.length_eq {segments : List Segment} {pieces : List (List Char)} {place : Nat}
    (hcut : Cut text segments pieces place) : segments.length = pieces.length := by
  induction hcut with
  | nil => rfl
  | cons _ _ ih => rw [List.length_cons, List.length_cons, ih]

theorem stands_iff_fits {segment : Segment} (hfree : ¬segment.IsFragment) {place : Nat}
    {piece : List Char} : segment.Stands text place piece ↔ segment.Fits piece := by
  cases segment with
  | fragment t => exact absurd trivial hfree
  | literal t => rfl
  | capture name kind => rfl

/-- What a segment reads as if its fragment is an expression by itself: the fragment is what it is
    alone, apart from the numbers of its captures. -/
inductive ReadsAlone : Segment → List Expr → Prop where
  | free {segment : Segment} {row : List Expr} (hreads : segment.ReadsAs row)
      (hfree : ¬segment.IsFragment) : ReadsAlone segment row
  | fragment {t : List Char} {e : Expr} (hparse : Expr.parse t = .ok e) (captures : Nat) :
      ReadsAlone (fragment t) [.literal ['/'], e.renumber (· + captures)]

theorem ReadsAlone.readsAs {segment : Segment} {row : List Expr} (hrow : segment.ReadsAlone row) :
    segment.ReadsAs row := by
  cases hrow with
  | free hreads _ => exact hreads
  | fragment _ _ => exact .fragment _ _

/-- The row of a segment takes a slash and a piece that the segment takes there. A capture takes the
    piece. -/
theorem ReadsAlone.exists_piece {segment : Segment} {row : List Expr} {i j : Nat}
    {s s' : List Span} (hrow : segment.ReadsAlone row) (hi : i ≤ text.size)
    (htakes : TakesRow text row i s j s') :
    ∃ piece, segment.Stands text (i + 1) piece ∧ readsAt text ('/' :: piece) i = true ∧
      j = i + piece.length + 1 ∧
      ∀ span ∈ segment.span? (i + 1) j, s'.find? (·.name == span.name) = some span := by
  cases hrow with
  | free hreads hfree =>
    obtain ⟨piece, hfits, hpiece, hj, rfl⟩ := (hreads.takesRow_iff hfree).mp htakes
    refine ⟨piece, (stands_iff_fits hfree).mpr hfits, hpiece, hj, ?_⟩
    intro span hspan
    rw [hspan]
    exact List.find?_cons_of_pos (beq_self_eq_true _)
  | @fragment t e hparse captures =>
    rw [Expr.takesRow_cons] at htakes
    obtain ⟨_, _, hslash, hrest⟩ := htakes
    obtain ⟨hreads, rfl, rfl⟩ := Expr.takes_literal.mp hslash
    have hbody := Expr.takesRow_singleton.mp hrest
    obtain ⟨hle, hend⟩ := hbody.bounds (Expr.le_size_of_readsAt hi hreads)
    obtain ⟨piece, hpiece, rfl⟩ := Expr.exists_readsAt hle hend
    have halone := (Expr.takes_renumber (add_left_injective captures)).mp hbody
    refine ⟨piece, ⟨e, hparse, halone.matches⟩, ?_, Nat.add_right_comm _ _ _, ?_⟩
    · rw [readsAt, Bool.and_eq_true]
      exact ⟨by simpa [readsAt] using hreads, hpiece⟩
    · intro span hspan
      cases hspan

/-- A piece that a segment takes behind a slash is taken by its row. -/
theorem ReadsAlone.exists_takesRow {segment : Segment} {row : List Expr} {i : Nat}
    {piece : List Char} (hrow : segment.ReadsAlone row) (hstands : segment.Stands text (i + 1) piece)
    (hpiece : readsAt text ('/' :: piece) i = true) (s : List Span) :
    ∃ s', TakesRow text row i s (i + piece.length + 1) s' := by
  cases hrow with
  | free hreads hfree =>
    have hfits := (stands_iff_fits hfree).mp hstands
    exact ⟨_, (hreads.takesRow_iff hfree).mpr ⟨piece, hfits, hpiece, rfl, rfl⟩⟩
  | @fragment t e hparse captures =>
    obtain ⟨e', hparse', hmatches⟩ := hstands
    cases hparse.symm.trans hparse'
    obtain ⟨s', htakes⟩ := hmatches.takes s
    rw [readsAt, Bool.and_eq_true] at hpiece
    have hslash : Expr.Takes text (.literal ['/']) i s (i + 1) s :=
      Expr.takes_literal.mpr ⟨by simpa [readsAt] using hpiece.1, rfl, rfl⟩
    rw [Nat.add_right_comm] at htakes
    exact ⟨s', i + 1, s, hslash, _, _, htakes.renumber _, rfl, rfl⟩

/-- Rows in which no name occurs twice take the pieces of a cut. Each capture takes its piece. -/
theorem exists_cut_of_takesRow {segments : List Segment} {rows : List (List Expr)} {i j : Nat}
    {s s' : List Span} (hrows : List.Forall₂ ReadsAlone segments rows)
    (hnames : (rows.flatten.flatMap Expr.captureNames).Nodup) (hi : i ≤ text.size)
    (htakes : TakesRow text rows.flatten i s j s') :
    ∃ pieces, Cut text segments pieces i ∧ readsAt text (pieces.flatMap ('/' :: ·)) i = true ∧
      j = i + (pieces.flatMap ('/' :: ·)).length ∧
      ∀ span ∈ spans segments pieces i, s'.find? (·.name == span.name) = some span := by
  induction hrows generalizing i s with
  | nil =>
    obtain ⟨rfl, -⟩ := htakes
    exact ⟨[], .nil _, rfl, rfl, by simp [spans]⟩
  | @cons segment row segments rows hrow hrows ih =>
    rw [List.flatten_cons, Expr.takesRow_append] at htakes
    obtain ⟨k, r, hfirst, hrest⟩ := htakes
    rw [List.flatten_cons, List.flatMap_append] at hnames
    obtain ⟨piece, hstands, hpiece, rfl, hfound⟩ := hrow.exists_piece hi hfirst
    obtain ⟨pieces, hcut, hpieces, rfl, hfounds⟩ :=
      ih hnames.of_append_right (hfirst.bounds hi).2 hrest
    refine ⟨piece :: pieces, .cons hstands hcut, ?_, ?_, ?_⟩
    · rw [List.flatMap_cons, Expr.readsAt_append, Bool.and_eq_true]
      exact ⟨hpiece, hpieces⟩
    · simp only [List.flatMap_cons, List.length_append, List.length_cons]
      omega
    · rw [spans, List.forall_mem_append]
      refine ⟨hfounds, ?_⟩
      intro span hspan
      rw [Option.mem_toList] at hspan
      -- The name of the capture is none of those behind it, which leave its span as it is.
      have hlater : span.name ∉ rows.flatten.flatMap Expr.captureNames := by
        obtain ⟨parameter, hparameter, rfl⟩ := Option.map_eq_some_iff.mp hspan
        have hfree : ¬segment.IsFragment := by
          intro hfragment
          rw [hfragment.parameter?_eq_none] at hparameter
          cases hparameter
        have hname : parameter.name ∈ row.flatMap Expr.captureNames := by
          rw [hrow.readsAs.captureNames_eq hfree, hparameter]
          exact List.mem_singleton_self _
        exact fun hmem => List.disjoint_of_nodup_append hnames hname hmem
      rw [hrest.find?_of_notMem hlater]
      exact hfound span hspan

/-- The pieces of a cut are taken by the rows of the segments. -/
theorem Cut.exists_takesRow {segments : List Segment} {pieces : List (List Char)}
    {rows : List (List Expr)} {i : Nat} (hcut : Cut text segments pieces i)
    (hrows : List.Forall₂ ReadsAlone segments rows)
    (hpieces : readsAt text (pieces.flatMap ('/' :: ·)) i = true) (s : List Span) :
    ∃ s', TakesRow text rows.flatten i s (i + (pieces.flatMap ('/' :: ·)).length) s' := by
  induction hcut generalizing rows s with
  | nil place =>
    cases hrows
    exact ⟨s, rfl, rfl⟩
  | @cons segment segments piece pieces place hstands hrest ih =>
    cases hrows with
    | @cons _ row _ rows hrow hrows =>
      rw [List.flatMap_cons, Expr.readsAt_append, Bool.and_eq_true] at hpieces
      obtain ⟨r, hfirst⟩ := hrow.exists_takesRow hstands hpieces.1 s
      obtain ⟨s', hothers⟩ := ih hrows hpieces.2 r
      refine ⟨s', ?_⟩
      rw [List.flatten_cons, Expr.takesRow_append]
      refine ⟨_, r, hfirst, ?_⟩
      have hplace : place + ((piece :: pieces).flatMap ('/' :: ·)).length =
          place + piece.length + 1 + (pieces.flatMap ('/' :: ·)).length := by
        simp only [List.flatMap_cons, List.length_append, List.length_cons]
        omega
      rwa [hplace]

end Segment

/-- A run through the expression of a segment adds to the row what the segment reads as, if a fragment
    in it is an expression by itself. -/
theorem ParseState.adds_readsAlone {segment : Segment} (hplain : segment.PlainlyNamed)
    (halone : ∀ t, segment = .fragment t → (∃ e, Expr.parse t = .ok e) ∧ NeverVerbose t) :
    Adds Segment.ReadsAlone segment := by
  intro exprs state h
  by_cases hfree : segment.IsFragment
  · cases segment with
    | literal t => exact hfree.elim
    | capture name kind => exact hfree.elim
    | fragment t =>
      obtain ⟨⟨e, hparse⟩, hverbose⟩ := halone t rfl
      have htop := h.pushAll [.literal ['/']]
      refine (reads_slash state h.flags).passes ?_
      refine (passes_accepted _ htop.flags hparse hverbose).mono ?_
      rintro next ⟨captures, names, depth, rfl⟩
      have htop := htop.push captures names ⟨e.renumber (· + state.captures), depth⟩
      rw [List.append_assoc] at htop
      exact ⟨_, .fragment hparse _, htop⟩
  · have hconfined := Segment.confined_of_not_isFragment hfree
    refine (adds_readsAs hplain hconfined h).mono ?_
    rintro next ⟨row, hrow, htop⟩
    exact ⟨row, .free hrow hfree, htop⟩

namespace Pattern

/-- The pattern has a row for each of the segments, between the anchors, in which every fragment is what
    it is alone. The names of the captures in the rows differ. -/
structure Composed (segments : List Segment) (rows : List (List Expr)) (pattern : Pattern) :
    Prop where
  reads : List.Forall₂ Segment.ReadsAlone segments rows
  expr : pattern.expr = .concat (.look .textStart :: (rows.flatten ++ [.look .textEnd]))
  names : (rows.flatten.flatMap Expr.captureNames).Nodup

/-- An accepted template whose fragments are expressions by themselves is composed of them. -/
theorem composed_of_compile {template mount : String} {pattern : Pattern}
    (hcompile : compile template mount = .ok pattern)
    (halone : ∀ t, .fragment t ∈ Template.segments (mount ++ template) →
      (∃ e, Expr.parse t = .ok e) ∧ ParseState.NeverVerbose t) :
    ∃ rows, Composed (Template.segments (mount ++ template)) rows pattern := by
  have hcompiled := compiled_of_compile hcompile
  have hparse := hcompiled.parse
  rw [hcompiled.text] at hparse
  have hadds : ∀ segment ∈ Template.segments (mount ++ template),
      ParseState.Adds Segment.ReadsAlone segment := by
    intro segment hsegment
    refine ParseState.adds_readsAlone (hcompiled.plain segment hsegment) ?_
    rintro t rfl
    exact halone t hsegment
  obtain ⟨rows, hreads, hexpr⟩ := row_of_parse hadds hparse
  obtain ⟨opened, -, hnodup, hsublist⟩ := Expr.captureNames_of_parse hcompiled.parse
  have hnames := hsublist.nodup hnodup
  rw [hexpr, Expr.captureNames_anchored] at hnames
  exact ⟨rows, hreads, hexpr, hnames⟩

section Composed

variable {segments : List Segment} {rows : List (List Expr)} {pattern : Pattern}

/-- What a composed pattern takes of a text is a cut of the whole text. The spans of its captures are
    those of the pieces. -/
theorem Composed.exists_cut (hcomposed : pattern.Composed segments rows) {i j : Nat} {s : List Span}
    (htakes : pattern.expr.Takes text i [] j s) :
    ∃ pieces, text.toList = pieces.flatMap ('/' :: ·) ∧ Segment.Cut text segments pieces 0 ∧
      ∀ span ∈ Segment.spans segments pieces 0, s.find? (·.name == span.name) = some span := by
  rw [hcomposed.expr, Expr.takes_concat, Expr.takesRow_anchored] at htakes
  obtain ⟨pieces, hcut, hpieces, hsize, hfound⟩ :=
    Segment.exists_cut_of_takesRow hcomposed.reads hcomposed.names (Nat.zero_le _) htakes.2.2
  exact ⟨pieces, Expr.readsAt_whole.mp ⟨hpieces, hsize⟩, hcut, hfound⟩

/-- A text that can be cut is taken by a composed pattern. -/
theorem Composed.matches_of_cut (hcomposed : pattern.Composed segments rows)
    {pieces : List (List Char)} (htext : text.toList = pieces.flatMap ('/' :: ·))
    (hcut : Segment.Cut text segments pieces 0) : pattern.expr.Matches text 0 text.size := by
  obtain ⟨hpieces, hsize⟩ := Expr.readsAt_whole.mpr htext
  obtain ⟨s, htakes⟩ := hcut.exists_takesRow hcomposed.reads hpieces []
  rw [← hsize] at htakes
  have hwhole : pattern.expr.Takes text 0 [] text.size s := by
    rw [hcomposed.expr, Expr.takes_concat, Expr.takesRow_anchored]
    exact ⟨rfl, rfl, htakes⟩
  exact hwhole.matches

end Composed

/-- A template whose fragments are expressions by themselves, which never switch to the verbose mode,
    matches a path exactly if the path can be cut into pieces, one for each segment and each after a
    slash, that the segments take one by one: a literal takes its own text, a capture characters of its
    kind, one at least, and a fragment what it matches alone at that place of the path. The parameters
    of a path that matches begin with the names of the captures and their pieces in such a cut. -/
theorem matches_cut_by_cut {template mount : String} {pattern : Pattern}
    (hcompile : compile template mount = .ok pattern)
    (halone : ∀ t, .fragment t ∈ Template.segments (mount ++ template) →
      (∃ e, Expr.parse t = .ok e) ∧ ParseState.NeverVerbose t) (path : String) :
    let segments := Template.segments (mount ++ template)
    let text := path.toList.toArray
    (pattern.isMatch path = true ↔ ∃ pieces, path.toList = pieces.flatMap ('/' :: ·) ∧
      Segment.Cut text segments pieces 0) ∧
    (pattern.isMatch path = true → ∃ params pieces, pattern.params? path = some params ∧
      path.toList = pieces.flatMap ('/' :: ·) ∧ Segment.Cut text segments pieces 0 ∧
      (Segment.entries segments pieces).map (·.1) = (Segment.parameters segments).map (·.name) ∧
      Segment.entries segments pieces <+: params.entries ∧
      ∀ entry ∈ Segment.entries segments pieces, params.get? entry.1 = some entry.2) := by
  intro segments text
  obtain ⟨rows, hcomposed⟩ := composed_of_compile hcompile halone
  have htext : text.toList = path.toList := List.toList_toArray
  refine ⟨⟨fun hmatch => ?_, ?_⟩, fun hmatch => ?_⟩
  · obtain ⟨i, j, -, hmatches⟩ := Expr.search_isSome_iff.mp hmatch
    obtain ⟨s, htakes⟩ := Expr.matches_iff_takes.mp hmatches
    obtain ⟨pieces, hpath, hcut, -⟩ := hcomposed.exists_cut htakes
    exact ⟨pieces, htext.symm.trans hpath, hcut⟩
  · rintro ⟨pieces, hpath, hcut⟩
    have hmatches := hcomposed.matches_of_cut (htext.trans hpath) hcut
    exact Expr.search_isSome_iff.mpr ⟨0, _, Nat.zero_le _, hmatches⟩
  · obtain ⟨⟨start, thread⟩, hsearch⟩ := Option.isSome_iff_exists.mp hmatch
    obtain ⟨pieces, hpath, hcut, hfound⟩ :=
      hcomposed.exists_cut (Expr.takes_of_search hsearch).2
    have hmap := Segment.map_entries hcut.length_eq
    have hentries := filterMap_captured_eq hmap (Thread.captured?_of_mem_entries hpath hfound)
    obtain ⟨params, hparams⟩ := exists_params_of_search hsearch
    have hcompiled := compiled_of_compile hcompile
    have hfirst : Segment.entries segments pieces <+: params.entries := by
      rw [params?, hsearch] at hparams
      cases hparams
      dsimp only
      rw [hcompiled.parameters, withGroups, List.filterMap_append, hentries]
      exact List.prefix_append _ _
    have hdiffer : (params.entries.map (·.1)).Nodup :=
      (map_entries_sublist hparams).nodup hcompiled.nodup_parameters
    refine ⟨params, pieces, hparams, htext.symm.trans hpath, hcut, hmap, hfirst, ?_⟩
    intro entry hentry
    exact (Assoc.find?_eq_some_iff hdiffer).mpr (hfirst.subset hentry)

/-- A fragment of two alternatives with a flag, the second of which takes a slash, and a capture behind
    it. -/
theorem matches_cut_by_cut_slash :
    ∃ pattern params, compile "regex:(?m)^a|b[!-~]c/int:id" "/" = .ok pattern ∧
      Segment.Cut "/b/c/7".toList.toArray [.fragment "(?m)^a|b[!-~]c".toList, .capture "id".toList .int]
        ["b/c".toList, "7".toList] 0 ∧
      pattern.isMatch "/b/c/7" = true ∧ pattern.params? "/b/c/7" = some params ∧
      (params.get? "id").isSome = true := by
  have hok : (compile "regex:(?m)^a|b[!-~]c/int:id" "/").toOption.isSome = true := by
    decide +kernel
  have hsegments : Template.segments ("/" ++ "regex:(?m)^a|b[!-~]c/int:id") =
      [.fragment "(?m)^a|b[!-~]c".toList, .capture "id".toList .int] := by decide +kernel
  have hparse : Expr.parse "(?m)^a|b[!-~]c".toList = .ok (.alt
      (.seq (.look .lineStart) (.literal ['a']))
      (.seq (.literal ['b']) (.seq (.one (.empty ∪ .range '!' '~')) (.literal ['c'])))) := by
    decide +kernel
  have hcut : Segment.Cut "/b/c/7".toList.toArray
      [.fragment "(?m)^a|b[!-~]c".toList, .capture "id".toList .int] ["b/c".toList, "7".toList]
      0 := by
    refine .cons ⟨_, hparse, ?_⟩ (.cons ⟨by simp, by simp [CaptureKind.admits]⟩ (.nil _))
    have hb : (Expr.literal ['b']).Matches "/b/c/7".toList.toArray 1 2 := .literal (by decide)
    have hslash : (Expr.one (.empty ∪ .range '!' '~')).Matches "/b/c/7".toList.toArray 2 3 :=
      .one (c := '/') rfl (by decide +kernel)
    have hc : (Expr.literal ['c']).Matches "/b/c/7".toList.toArray 3 4 := .literal (by decide)
    exact .altRight (.seq hb (.seq hslash hc))
  have halone : ∀ t, .fragment t ∈ Template.segments ("/" ++ "regex:(?m)^a|b[!-~]c/int:id") →
      (∃ e, Expr.parse t = .ok e) ∧ ParseState.NeverVerbose t := by
    intro t ht
    rw [hsegments] at ht
    obtain rfl : t = "(?m)^a|b[!-~]c".toList := by simpa using ht
    exact ⟨⟨_, hparse⟩, ParseState.neverVerbose_of_notMem (by decide)⟩
  cases hcompile : compile "regex:(?m)^a|b[!-~]c/int:id" "/" with
  | error e => rw [hcompile] at hok; cases hok
  | ok pattern =>
    obtain ⟨hiff, hvalues⟩ := matches_cut_by_cut hcompile halone "/b/c/7"
    rw [hsegments] at hiff hvalues
    have hmatch := hiff.mpr ⟨_, by decide +kernel, hcut⟩
    obtain ⟨params, pieces, hparams, -, -, hnames, -, hget⟩ := hvalues hmatch
    have hid : "id" ∈ (Segment.entries [.fragment "(?m)^a|b[!-~]c".toList,
        .capture "id".toList .int] pieces).map (·.1) := by
      rw [hnames]
      decide +kernel
    obtain ⟨entry, hentry, hname⟩ := List.mem_map.mp hid
    refine ⟨pattern, params, rfl, hcut, hmatch, hparams, ?_⟩
    rw [← hname, hget entry hentry]
    rfl

end Pattern

end HttpRouter
