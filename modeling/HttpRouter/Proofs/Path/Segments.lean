import HttpRouter.Proofs.Expression.Naming
import HttpRouter.Proofs.Expression.Search
import HttpRouter.Proofs.Path.Pieces

namespace HttpRouter

open HttpRouter.Expr (TakesRow readsAt)

namespace Segment

/-- The name of a capture with the piece that it takes. -/
def pair? (segment : Segment) (piece : List Char) : Option (String × String) :=
  segment.parameter?.map fun parameter => (parameter.name, .ofList piece)

/-- The names of the captures with the pieces that they take, in order. -/
def entries (segments : List Segment) (pieces : List (List Char)) : List (String × String) :=
  (segments.zip pieces).filterMap fun pair => pair.1.pair? pair.2

theorem entries_cons (segment : Segment) (segments : List Segment) (piece : List Char)
    (pieces : List (List Char)) :
    entries (segment :: segments) (piece :: pieces) =
      (segment.pair? piece).toList ++ entries segments pieces := by
  rw [entries, List.zip_cons_cons, List.filterMap_cons]
  cases segment.pair? piece <;> rfl

/-- What a segment that is no fragment reads as has a capture for its parameter. -/
theorem ReadsAs.captureNames_eq {segment : Segment} {row : List Expr} (hreads : segment.ReadsAs row)
    (hfragment : ¬segment.IsFragment) :
    row.flatMap Expr.captureNames = segment.parameter?.toList.map (·.name) := by
  cases hreads with
  | literal text => simp [Expr.captureNames, parameter?, List.flatMap_map]
  | fragment text e => exact absurd trivial hfragment
  | capture name kind index => rfl

/-- A row without fragments has a capture for each parameter. -/
theorem captureNames_rows {segments : List Segment} {rows : List (List Expr)}
    (hreads : List.Forall₂ ReadsAs segments rows)
    (hfree : ∀ segment ∈ segments, ¬segment.IsFragment) :
    rows.flatten.flatMap Expr.captureNames = (parameters segments).map (·.name) := by
  induction hreads with
  | nil => rfl
  | @cons segment row segments rows hrow hrows ih =>
    rw [List.forall_mem_cons] at hfree
    rw [List.flatten_cons, List.flatMap_append, ih hfree.2, hrow.captureNames_eq hfree.1,
      parameters_cons, List.map_append]

/-- The names of the entries are those of the parameters. -/
theorem map_entries {segments : List Segment} {pieces : List (List Char)}
    (hlength : segments.length = pieces.length) :
    (entries segments pieces).map Prod.fst = (parameters segments).map (·.name) := by
  induction segments generalizing pieces with
  | nil => rfl
  | cons segment segments ih =>
    obtain _ | ⟨piece, pieces⟩ := pieces
    · cases hlength
    · rw [entries_cons, parameters_cons, List.map_append, List.map_append,
        ih (Nat.succ.inj hlength), pair?]
      cases segment.parameter? <;> rfl

/-- The names of the spans are those of the parameters, the latest first. -/
theorem map_spans {segments : List Segment} {pieces : List (List Char)}
    (hfits : List.Forall₂ Fits segments pieces) (place : Nat) :
    (spans segments pieces place).map (·.name) =
      ((parameters segments).map (·.name)).reverse := by
  induction hfits generalizing place with
  | nil => rfl
  | @cons segment piece segments pieces _ _ ih =>
    rw [spans, parameters_cons, List.map_append, List.map_append, List.reverse_append, ih, span?]
    cases segment.parameter? <;> rfl

/-- Each entry is what lies between the ends of a span of its name. -/
theorem span_of_mem_entries {text : Array Char} {segments : List Segment}
    {pieces : List (List Char)} {place : Nat}
    (hreads : readsAt text (pieces.flatMap ('/' :: ·)) place = true) {entry : String × String}
    (hentry : entry ∈ entries segments pieces) :
    ∃ span ∈ spans segments pieces place, span.name = entry.1 ∧
      .ofList (text.extract span.start span.stop).toList = entry.2 := by
  induction segments generalizing pieces place with
  | nil => cases hentry
  | cons segment segments ih =>
    obtain _ | ⟨piece, pieces⟩ := pieces
    · cases hentry
    rw [List.flatMap_cons, Expr.readsAt_append, Bool.and_eq_true] at hreads
    obtain ⟨hfirst, hrest⟩ := hreads
    rw [entries_cons, List.mem_append, Option.mem_toList, pair?, Option.map_eq_some_iff] at hentry
    rw [spans]
    obtain ⟨parameter, hparameter, rfl⟩ | hentry := hentry
    · refine ⟨⟨parameter.name, place + 1, place + piece.length + 1⟩, ?_, rfl, ?_⟩
      · refine List.mem_append_right _ ?_
        rw [span?, hparameter]
        exact List.mem_singleton_self _
      · rw [readsAt, Bool.and_eq_true] at hfirst
        have hvalue := Expr.extract_of_readsAt hfirst.2
        rw [Nat.add_right_comm] at hvalue
        exact congrArg String.ofList hvalue
    · obtain ⟨span, hspan, hname, hvalue⟩ := ih hrest hentry
      exact ⟨span, List.mem_append_left _ hspan, hname, hvalue⟩

end Segment

/-- Where names differ, a span is the first one of its name. -/
theorem find?_of_mem_spans {spans : List Span} (hnames : (spans.map (·.name)).Nodup) {span : Span}
    (hspan : span ∈ spans) : spans.find? (·.name == span.name) = some span := by
  induction spans with
  | nil => cases hspan
  | cons other spans ih =>
    rw [List.map_cons, List.nodup_cons] at hnames
    obtain rfl | hspan := List.mem_cons.mp hspan
    · simp
    · have hother : (other.name == span.name) = false := by
        rw [beq_eq_false_iff_ne]
        intro heq
        exact hnames.1 (heq ▸ List.mem_map_of_mem hspan)
      rw [List.find?_cons, hother]
      exact ih hnames.2 hspan

/-- A thread that found the spans of the pieces of a text captured the pieces. -/
theorem Thread.captured?_of_mem_entries {text : Array Char} {segments : List Segment}
    {pieces : List (List Char)} {thread : Thread} (htext : text.toList = pieces.flatMap ('/' :: ·))
    (hfound : ∀ span ∈ Segment.spans segments pieces 0,
      thread.spans.find? (·.name == span.name) = some span) :
    ∀ entry ∈ Segment.entries segments pieces, thread.captured? text entry.1 = some entry.2 := by
  intro entry hentry
  have hpieces := (Expr.readsAt_whole.mpr htext).1
  obtain ⟨span, hspan, hname, hvalue⟩ := Segment.span_of_mem_entries hpieces hentry
  rw [← hname, captured?, hfound span hspan, Option.map_some, hvalue]

namespace Pattern

/-- Names that are listed already add no parameters. -/
theorem withGroups_self (parameters : List Parameter) :
    withGroups parameters (parameters.map (·.name)) = parameters := by
  have hnone : (parameters.map (·.name)).filter
      (fun name => !parameters.any (·.name == name)) = [] := by
    rw [List.filter_eq_nil_iff]
    intro name hname
    obtain ⟨parameter, hparameter, rfl⟩ := List.mem_map.mp hname
    simp only [Bool.not_eq_true', Bool.not_eq_false, List.any_eq_true]
    exact ⟨parameter, hparameter, beq_self_eq_true _⟩
  rw [withGroups, hnone, List.map_nil, List.append_nil]

/-- Parameters whose names are those of some entries, and whose captures took the texts of these, are
    listed as the entries. -/
theorem filterMap_captured_eq {text : Array Char} {thread : Thread} {parameters : List Parameter}
    {entries : List (String × String)} (hnames : entries.map Prod.fst = parameters.map (·.name))
    (hcaptured : ∀ entry ∈ entries, thread.captured? text entry.1 = some entry.2) :
    (parameters.filterMap fun parameter =>
      (thread.captured? text parameter.name).map (parameter.name, ·)) = entries := by
  have hmap : parameters.filterMap (fun parameter =>
      (thread.captured? text parameter.name).map (parameter.name, ·)) =
      (parameters.map (·.name)).filterMap fun name =>
        (thread.captured? text name).map (name, ·) := by
    rw [List.filterMap_map]
    rfl
  have hkept : ∀ entry ∈ entries,
      ((fun name => (thread.captured? text name).map (name, ·)) ∘ Prod.fst) entry = some entry := by
    intro entry hentry
    rw [Function.comp_apply, hcaptured entry hentry]
    rfl
  rw [hmap, ← hnames, List.filterMap_map, List.filterMap_congr hkept, List.filterMap_some]

variable {segments : List Segment} {rows : List (List Expr)} {pattern : Pattern}

/-- Without fragments, the parameters of a pattern are those of its captures. -/
theorem LaidOut.parameters_eq (hlaid : pattern.LaidOut segments rows)
    (hfree : ∀ segment ∈ segments, ¬segment.IsFragment) :
    pattern.parameters = Segment.parameters segments := by
  have hnames : pattern.expr.captureNames = (Segment.parameters segments).map (·.name) := by
    rw [hlaid.expr, Expr.captureNames_anchored, Segment.captureNames_rows hlaid.reads hfree]
  rw [hlaid.parameters, hnames, withGroups_self]

/-- Without fragments, a pattern takes a text from its first to its last place, piece by piece. -/
theorem LaidOut.takes_iff (hlaid : pattern.LaidOut segments rows)
    (hfree : ∀ segment ∈ segments, ¬segment.IsFragment) {text : Array Char} {i j : Nat}
    {s : List Span} :
    pattern.expr.Takes text i [] j s ↔
      i = 0 ∧ j = text.size ∧ ∃ pieces, List.Forall₂ Segment.Fits segments pieces ∧
        text.toList = pieces.flatMap ('/' :: ·) ∧ s = Segment.spans segments pieces 0 := by
  rw [hlaid.expr, Expr.takes_concat, Expr.takesRow_anchored,
    Segment.takesRow_pieces hlaid.reads hfree]
  simp only [List.append_nil, ← Expr.readsAt_whole, and_assoc]

/-- A match takes the pieces of the captures as the values of the parameters. -/
theorem LaidOut.entries_eq (hlaid : pattern.LaidOut segments rows)
    (hfree : ∀ segment ∈ segments, ¬segment.IsFragment) {text : Array Char} {thread : Thread}
    {pieces : List (List Char)} (hfits : List.Forall₂ Segment.Fits segments pieces)
    (htext : text.toList = pieces.flatMap ('/' :: ·))
    (hspans : thread.spans = Segment.spans segments pieces 0) :
    (pattern.parameters.filterMap fun parameter =>
      (thread.captured? text parameter.name).map (parameter.name, ·)) =
      Segment.entries segments pieces := by
  have hnames : (thread.spans.map (·.name)).Nodup := by
    rw [hspans, Segment.map_spans hfits, List.nodup_reverse]
    exact hlaid.names
  have hfound : ∀ span ∈ Segment.spans segments pieces 0,
      thread.spans.find? (·.name == span.name) = some span := by
    intro span hspan
    rw [← hspans] at hspan
    exact find?_of_mem_spans hnames hspan
  rw [hlaid.parameters_eq hfree]
  exact filterMap_captured_eq (Segment.map_entries hfits.length_eq)
    (Thread.captured?_of_mem_entries htext hfound)

/-- Without fragments, a path matches if it is made up of pieces that fit the segments. -/
theorem LaidOut.isMatch_iff (hlaid : pattern.LaidOut segments rows)
    (hfree : ∀ segment ∈ segments, ¬segment.IsFragment) {path : String} :
    pattern.isMatch path = true ↔ ∃ pieces, List.Forall₂ Segment.Fits segments pieces ∧
      path.toList = pieces.flatMap ('/' :: ·) := by
  rw [isMatch, Expr.search_isSome_iff]
  simp only [Expr.matches_iff_takes, hlaid.takes_iff hfree]
  constructor
  · rintro ⟨i, j, -, s, -, -, pieces, hfits, hpath, -⟩
    exact ⟨pieces, hfits, hpath⟩
  · rintro ⟨pieces, hfits, hpath⟩
    exact ⟨0, _, Nat.zero_le _, _, rfl, rfl, pieces, hfits, hpath, rfl⟩

/-- Without fragments, the parameters of a path are pieces that make it up. -/
theorem LaidOut.exists_pieces (hlaid : pattern.LaidOut segments rows)
    (hfree : ∀ segment ∈ segments, ¬segment.IsFragment) {path : String} {params : Params}
    (hparams : pattern.params? path = some params) :
    ∃ pieces, List.Forall₂ Segment.Fits segments pieces ∧
      path.toList = pieces.flatMap ('/' :: ·) ∧
      params.entries = Segment.entries segments pieces := by
  obtain ⟨⟨start, thread⟩, hsearch, rfl⟩ := Option.map_eq_some_iff.mp hparams
  obtain ⟨-, htakes⟩ := Expr.takes_of_search hsearch
  obtain ⟨-, -, pieces, hfits, hpath, hspans⟩ := (hlaid.takes_iff hfree).mp htakes
  rw [List.toList_toArray] at hpath
  exact ⟨pieces, hfits, hpath, hlaid.entries_eq hfree hfits (by simpa using hpath) hspans⟩

/-- A template without fragments, once compiled, is a matcher of its segments: a path matches
    exactly if it begins with a slash and the pieces between its slashes fit the segments one by
    one. The parameters are then the names of the captures with the pieces they take, in order. -/
theorem matches_segment_by_segment {template mount : String} {pattern : Pattern}
    (hcompile : compile template mount = .ok pattern)
    (hfree : ∀ segment ∈ Template.segments (mount ++ template), ¬segment.IsFragment)
    (path : String) :
    (pattern.isMatch path = true ↔ ∃ rest, path.toList = '/' :: rest ∧
      List.Forall₂ Segment.Fits (Template.segments (mount ++ template)) (rest.splitOn '/')) ∧
    ∀ params, pattern.params? path = some params ↔ ∃ rest, path.toList = '/' :: rest ∧
      List.Forall₂ Segment.Fits (Template.segments (mount ++ template)) (rest.splitOn '/') ∧
      params.entries =
        Segment.entries (Template.segments (mount ++ template)) (rest.splitOn '/') := by
  have hconfined : ∀ segment ∈ Template.segments (mount ++ template), segment.Confined := by
    intro segment hsegment
    cases segment with
    | fragment text => exact absurd trivial (hfree _ hsegment)
    | literal text => trivial
    | capture name kind => trivial
  obtain ⟨rows, hlaid⟩ := laidOut_of_compile hcompile hconfined
  have hmatch : pattern.isMatch path = true ↔ ∃ rest, path.toList = '/' :: rest ∧
      List.Forall₂ Segment.Fits (Template.segments (mount ++ template)) (rest.splitOn '/') := by
    have hpieces := @Segment.exists_pieces_iff (mount ++ template) path.toList fun _ => True
    simp only [and_true] at hpieces
    rw [hlaid.isMatch_iff hfree, hpieces]
  have hentries : ∀ params, pattern.params? path = some params → ∃ rest,
      path.toList = '/' :: rest ∧
      List.Forall₂ Segment.Fits (Template.segments (mount ++ template)) (rest.splitOn '/') ∧
      params.entries = Segment.entries (Template.segments (mount ++ template)) (rest.splitOn '/') :=
    fun params hparams => Segment.exists_pieces_iff.mp (hlaid.exists_pieces hfree hparams)
  refine ⟨hmatch, fun params => ⟨hentries params, ?_⟩⟩
  rintro ⟨rest, hpath, hfits, hparams⟩
  obtain ⟨found, hsearch⟩ := Option.isSome_iff_exists.mp (hmatch.mpr ⟨rest, hpath, hfits⟩)
  have hfound : ∃ params', pattern.params? path = some params' := by
    rw [params?, hsearch]
    exact ⟨_, rfl⟩
  obtain ⟨params', hfound⟩ := hfound
  obtain ⟨rest', hpath', -, hparams'⟩ := hentries params' hfound
  rw [hpath] at hpath'
  cases hpath'
  rw [hfound]
  obtain ⟨entries⟩ := params
  obtain ⟨entries'⟩ := params'
  rw [show entries' = entries from hparams'.trans hparams.symm]

/-- A number behind a fixed text: the number is the parameter, and nothing else will do. -/
theorem matches_segment_by_segment_number :
    ∃ pattern, compile "int:id" "/users/" = .ok pattern ∧
      pattern.params? "/users/42" = some ⟨[("id", "42")]⟩ ∧ pattern.isMatch "/users/x" = false := by
  have hok : (compile "int:id" "/users/").toOption.isSome = true := by decide +kernel
  have hsegments : Template.segments ("/users/" ++ "int:id") =
      [.literal "users".toList, .capture "id".toList .int] := by decide +kernel
  have hfree : ∀ segment ∈ Template.segments ("/users/" ++ "int:id"), ¬segment.IsFragment := by
    rw [hsegments]
    simp [Segment.IsFragment]
  cases hcompile : compile "int:id" "/users/" with
  | error e => rw [hcompile] at hok; cases hok
  | ok pattern =>
    have hnumber := matches_segment_by_segment hcompile hfree "/users/42"
    have hword := matches_segment_by_segment hcompile hfree "/users/x"
    rw [hsegments] at hnumber hword
    refine ⟨pattern, rfl, ?_, ?_⟩
    · rw [hnumber.2]
      refine ⟨"users/42".toList, rfl, ?_, by decide +kernel⟩
      have hpieces : "users/42".toList.splitOn '/' = ["users".toList, "42".toList] := by decide +kernel
      rw [hpieces]
      refine .cons rfl (.cons ⟨by simp, ?_⟩ .nil)
      rw [← List.all_eq_true]
      decide
    · rw [Bool.eq_false_iff, Ne, hword.1]
      rintro ⟨rest, hrest, hfits⟩
      have hpieces : rest.splitOn '/' = ["users".toList, "x".toList] := by
        rw [← (List.cons.inj hrest).2]
        decide +kernel
      rw [hpieces, List.forall₂_cons, List.forall₂_cons] at hfits
      have hdigit := hfits.2.1.2 'x' (by simp)
      cases hdigit

end Pattern

end HttpRouter
