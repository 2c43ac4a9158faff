import HttpRouter.Proofs.Expression.Footprint
import HttpRouter.Proofs.Path.Defects

namespace HttpRouter

namespace ParseState

/-- Outside of all groups, without flags, with the given names and with no deep piece in the row. -/
structure Shallow (names : List String) (state : ParseState) : Prop where
  flags : state.flags = {}
  outer : state.outer = []
  alternatives : state.group.alternatives = []
  names : state.names.reverse = names
  depth : ∀ piece ∈ state.group.row.filterMap id, piece.depth ≤ 4

variable {names : List String} {state : ParseState}

theorem Shallow.pushAll (h : Shallow names state) (es : List Expr) :
    Shallow names (state.pushAll es) := by
  refine ⟨h.flags, h.outer, h.alternatives, h.names, ?_⟩
  intro piece hpiece
  simp only [ParseState.pushAll, List.filterMap_append, List.mem_append, List.mem_filterMap,
    List.mem_reverse, List.mem_map, id] at hpiece
  obtain ⟨_, ⟨e, -, rfl⟩, hsome⟩ | hrow := hpiece
  · cases hsome
    exact Nat.zero_le _
  · exact h.depth piece (List.mem_filterMap.mpr hrow)

theorem Shallow.pushCapture (h : Shallow names state) (name : List Char) (kind : CaptureKind) :
    Shallow (names ++ [.ofList name]) (state.pushCapture name kind) := by
  refine ⟨h.flags, h.outer, h.alternatives, ?_, ?_⟩
  · rw [← h.names]
    exact List.reverse_cons
  · intro piece hpiece
    simp only [ParseState.pushCapture, List.filterMap_cons, id, List.mem_cons] at hpiece
    obtain rfl | hrow := hpiece
    · show kind.depth + 3 ≤ 4
      cases kind <;> decide
    · exact h.depth piece hrow

/-- The expression of a segment that is no fragment reads through, if the name that it declares is
    new. -/
theorem Shallow.reads_segment {segment : Segment} (h : Shallow names state)
    (hplain : segment.PlainlyNamed) (hfree : ¬segment.IsFragment)
    (hnew : ∀ parameter ∈ segment.parameter?, parameter.name ∉ names) :
    ∃ next, Reads state ('/' :: segment.expression) next ∧
      Shallow (names ++ segment.parameter?.toList.map (·.name)) next := by
  have hslash := reads_slash state h.flags
  have hnext := h.pushAll [.literal ['/']]
  cases segment with
  | fragment text => exact absurd trivial hfree
  | literal text =>
    refine ⟨_, hslash.trans (reads_quote _ hnext.flags text), ?_⟩
    have hlast := hnext.pushAll (text.map fun c => .literal [c])
    rwa [← List.append_nil names] at hlast
  | capture name kind =>
    have hname : String.ofList name ∉ (state.pushAll [.literal ['/']]).names := by
      rw [← List.mem_reverse, hnext.names]
      exact hnew _ rfl
    exact ⟨_, hslash.trans (reads_capture _ hnext.flags hplain kind hname),
      hnext.pushCapture name kind⟩

theorem Shallow.reads_segments {segments : List Segment} (h : Shallow names state)
    (hplain : ∀ segment ∈ segments, segment.PlainlyNamed)
    (hfree : ∀ segment ∈ segments, ¬segment.IsFragment)
    (hnames : (names ++ (Segment.parameters segments).map (·.name)).Nodup) :
    ∃ next, Reads state (segments.flatMap fun segment => '/' :: segment.expression) next ∧
      Shallow (names ++ (Segment.parameters segments).map (·.name)) next := by
  induction segments generalizing names state with
  | nil => exact ⟨state, .nil state, by simpa using h⟩
  | cons segment segments ih =>
    rw [List.forall_mem_cons] at hplain hfree
    rw [Segment.parameters_cons, List.map_append, ← List.append_assoc] at hnames ⊢
    have hnew : ∀ parameter ∈ segment.parameter?, parameter.name ∉ names := by
      intro parameter hparameter hmem
      have hfirst := (List.nodup_append.mp hnames).1
      rw [hparameter] at hfirst
      exact (List.nodup_append.mp hfirst).2.2 _ hmem _ (List.mem_singleton_self _) rfl
    obtain ⟨next, hreads, hnext⟩ := h.reads_segment hplain.1 hfree.1 hnew
    obtain ⟨last, hreads', hlast⟩ := ih hnext hplain.2 hfree.2 hnames
    exact ⟨last, hreads.trans hreads', hlast⟩

/-- A row without deep pieces is not too deep. -/
theorem Shallow.exists_finish (h : Shallow names state) : ∃ e, state.finish = .ok e := by
  have hfold (pieces : List Piece) (depth : Nat) (hdepth : depth ≤ 4)
      (hpieces : ∀ piece ∈ pieces, piece.depth ≤ 4) :
      pieces.foldl (fun depth p => max depth p.depth) depth ≤ 4 := by
    induction pieces generalizing depth with
    | nil => exact hdepth
    | cons piece pieces ih =>
      rw [List.forall_mem_cons] at hpieces
      exact ih _ (Nat.max_le.mpr ⟨hdepth, hpieces.1⟩) hpieces.2
  have hrow : (Piece.ofRow state.group.row.reverse).depth ≤ 5 := by
    have hpieces := hfold (state.group.row.reverse.filterMap id) 0 (Nat.zero_le _) fun piece hpiece =>
      h.depth piece (by simpa using hpiece)
    dsimp only [Piece.ofRow]
    split <;> omega
  have hclose : state.group.close.depth = max 0 (Piece.ofRow state.group.row.reverse).depth := by
    rw [OpenGroup.close, h.alternatives]
    rfl
  have hwhole : state.group.close.depth ≤ maxDepth := by
    rw [hclose, maxDepth]
    omega
  rw [finish, h.outer]
  exact ⟨_, if_pos hwhole⟩

end ParseState

/-- The expression of a template without fragments is well formed. -/
theorem Expr.exists_parse {segments : List Segment}
    (hplain : ∀ segment ∈ segments, segment.PlainlyNamed)
    (hfree : ∀ segment ∈ segments, ¬segment.IsFragment)
    (hnames : ((Segment.parameters segments).map (·.name)).Nodup) :
    ∃ e, Expr.parse (['^'] ++ segments.flatMap (fun segment => '/' :: segment.expression) ++
      ['$']) = .ok e := by
  have hempty : ParseState.Shallow [] {} := ⟨rfl, rfl, rfl, rfl, by simp⟩
  obtain ⟨next, hreads, hnext⟩ :=
    (hempty.pushAll [.look .textStart]).reads_segments hplain hfree (by simpa using hnames)
  have hwhole := ((ParseState.reads_caret {} rfl).trans hreads).trans
    (ParseState.reads_dollar next hnext.flags)
  obtain ⟨e, hfinish⟩ := (hnext.pushAll [.look .textEnd]).exists_finish
  exact ⟨e, bind_eq_ok.mpr ⟨_, hwhole.final (Nat.le_succ _), hfinish⟩⟩

namespace Segment

/-- What a segment without fragments reads as is plain, and takes no more than a group and the
    characters of its element do. -/
theorem ReadsAs.isPlain {element : List Char} {row : List Expr}
    (hreads : (read element).ReadsAs row) (hfree : ¬(read element).IsFragment) :
    (∀ e ∈ row, e.IsPlain) ∧
      (row.map fun e => e.price + 4).sum ≤ 2184 + 132 * element.length := by
  generalize hread : read element = segment at hreads hfree
  cases hreads with
  | fragment text e => exact absurd trivial hfree
  | literal text =>
    obtain rfl := eq_of_read_literal hread
    refine ⟨?_, ?_⟩
    · simp [Expr.IsPlain.literal]
    · simp [Expr.price, Function.comp_def]
      omega
  | capture name kind index =>
    refine ⟨?_, ?_⟩
    · simp [Expr.IsPlain.literal, Expr.IsPlain.capture]
    · simp [Expr.price]

/-- The elements of a text are no longer than the text. -/
theorem sum_length_splitOn_le (sep : Char) (s : List Char) :
    ((s.splitOn sep).map List.length).sum ≤ s.length := by
  induction s with
  | nil => simp
  | cons c s ih =>
    rw [List.splitOn_cons_eq_if_modifyHead]
    split
    · simp only [List.map_cons, List.length_nil, List.sum_cons, List.length_cons]
      omega
    · generalize s.splitOn sep = pieces at ih
      cases pieces with
      | nil => simp
      | cons first pieces =>
        simp only [List.modifyHead_cons, List.map_cons, List.length_cons, List.sum_cons] at ih ⊢
        omega

theorem isPlain_rows {elements : List (List Char)} {rows : List (List Expr)}
    (hreads : List.Forall₂ ReadsAs (elements.map read) rows)
    (hfree : ∀ element ∈ elements, ¬(read element).IsFragment) :
    (∀ e ∈ rows.flatten, e.IsPlain) ∧ (rows.flatten.map fun e => e.price + 4).sum ≤
      2184 * elements.length + 132 * (elements.map List.length).sum := by
  induction elements generalizing rows with
  | nil =>
    cases hreads
    simp
  | cons element elements ih =>
    rw [List.forall_mem_cons] at hfree
    cases hreads with
    | cons hfirst hothers =>
      obtain ⟨hplain, hsum⟩ := hfirst.isPlain hfree.1
      obtain ⟨hplain', hsum'⟩ := ih hothers hfree.2
      rw [List.flatten_cons, List.map_append, List.sum_append, List.map_cons, List.sum_cons,
        List.length_cons]
      exact ⟨List.forall_mem_append.mpr ⟨hplain, hplain'⟩, by omega⟩

end Segment

/-- A character takes a byte at least. -/
theorem length_le_utf8ByteSize (s : List Char) : s.length ≤ (String.ofList s).utf8ByteSize := by
  induction s with
  | nil => exact Nat.zero_le _
  | cons c s ih =>
    have hchar := c.utf8Size_pos
    rw [String.ofList_cons, String.utf8ByteSize_append, String.utf8ByteSize_singleton,
      List.length_cons]
    omega

theorem Template.sum_length_elements_le (template : String) :
    ((elements template.toList).map List.length).sum ≤ template.utf8ByteSize := by
  have hlength : template.toList.length ≤ template.utf8ByteSize := by
    have hlength := length_le_utf8ByteSize template.toList
    rwa [String.ofList_toList] at hlength
  rw [elements.eq_def]
  split
  · rename_i rest heq
    have hrest := Segment.sum_length_splitOn_le '/' rest
    rw [heq, List.length_cons] at hlength
    omega
  · exact (Segment.sum_length_splitOn_le _ _).trans hlength

namespace Pattern

variable {template : String}

/-- Only a template with few segments gets an expression. -/
theorem length_elements_of_draft {text : List Char} {parameters : List Parameter}
    (h : draft template.toList = .ok (text, parameters)) :
    (Template.elements template.toList).length ≤ 32 := by
  rw [draft] at h
  split at h
  · rename_i hroot
    obtain hroot | hroot := hroot <;> rw [hroot] <;> decide
  · simp only at h
    split at h
    · cases h
    · rename_i hfew
      exact Nat.le_of_not_lt hfew

/-- Whatever text a template without fragments has, its expression is accepted. -/
theorem exists_compile_of_draft (hfree : ∀ segment ∈ Template.segments template, ¬segment.IsFragment)
    (hlength : template.utf8ByteSize ≤ 1024) {text : List Char} {parameters : List Parameter}
    (h : draft template.toList = .ok (text, parameters)) :
    ∃ e, Expr.compile maxSize text = .ok e := by
  have hsegments := length_elements_of_draft h
  obtain ⟨htext, hparameters, hplain, hnames⟩ := draft_eq_ok h
  rw [hparameters] at hnames
  obtain ⟨e, hparse⟩ := Expr.exists_parse hplain hfree hnames
  obtain ⟨rows, hreads, rfl⟩ := row_of_parse (fun segment hsegment =>
    ParseState.adds_readsAs (hplain segment hsegment)
      (Segment.confined_of_not_isFragment (hfree segment hsegment))) hparse
  obtain ⟨hrows, hsum⟩ := Segment.isPlain_rows hreads fun element helement =>
    hfree _ (List.mem_map_of_mem helement)
  have hchars := Template.sum_length_elements_le template
  have hfits : (Expr.concat (.look .textStart :: (rows.flatten ++ [.look .textEnd]))).fits maxSize =
      true := by
    refine Expr.fits_concat ?_ ?_
    · rw [List.forall_mem_cons, List.forall_mem_append, List.forall_mem_singleton]
      exact ⟨.look _, hrows, .look _⟩
    · have hanchor (a : Assertion) : (Expr.look a).price = 32 := rfl
      simp only [List.map_cons, List.map_append, List.map_nil, List.sum_cons, List.sum_append,
        List.sum_nil, hanchor, maxSize]
      omega
  rw [← htext] at hparse
  rw [Expr.compile, hparse]
  exact ⟨_, if_pos hfits⟩

/-- The root path has one element, without a colon. -/
theorem elements_of_root (hroot : template.toList = [] ∨ template.toList = ['/']) :
    Template.elements template.toList = [[]] := by
  obtain hroot | hroot := hroot <;> rw [hroot] <;> rfl

theorem exists_draft_of_sound (hfree : ∀ segment ∈ Template.segments template, ¬segment.IsFragment)
    (hsound : Template.Sound template) :
    ∃ text parameters, draft template.toList = .ok (text, parameters) := by
  have hlists : Draft.Lists ⟨['^'], []⟩ [] := rfl
  obtain ⟨final, hfold, -⟩ := Draft.foldlM_addSegment_of_sound hlists
    (fun element helement => hfree _ (List.mem_map_of_mem helement)) hsound.names
  by_cases hroot : template.toList = [] ∨ template.toList = ['/']
  · exact ⟨_, _, if_pos hroot⟩
  · have hfew : ¬Template.maxSegments < (Template.elements template.toList).length :=
      Nat.not_lt.mpr hsound.segments
    rw [draft, if_neg hroot]
    dsimp only
    rw [if_neg hfew, hfold]
    exact ⟨_, _, rfl⟩

/-- The draft of a template that is not too long stops at its first defect. -/
theorem draft_of_firstDefect
    (hfree : ∀ segment ∈ Template.segments template, ¬segment.IsFragment)
    (hlength : template.utf8ByteSize ≤ 1024) {defect : TemplateError}
    (hdefect : Template.FirstDefect template defect) :
    draft template.toList = .error defect := by
  cases hdefect with
  | length hlong => exact absurd hlength (Nat.not_le.mpr hlong)
  | segments _ hsegments =>
    have hroot : ¬(template.toList = [] ∨ template.toList = ['/']) := by
      intro hroot
      rw [elements_of_root hroot] at hsegments
      exact absurd hsegments (by decide)
    have hmany : Template.maxSegments < (Template.elements template.toList).length := hsegments
    rw [draft, if_neg hroot]
    dsimp only
    rw [if_pos hmany]
    rfl
  | @name _ hsegments before after element _ helements hbefore hcapture hname =>
    have hroot : ¬(template.toList = [] ∨ template.toList = ['/']) := by
      intro hroot
      have helement : element ∈ Template.elements template.toList := by simp [helements]
      rw [elements_of_root hroot, List.mem_singleton] at helement
      simp [helement] at hcapture
    have hfew : ¬Template.maxSegments < (Template.elements template.toList).length :=
      Nat.not_lt.mpr hsegments
    have hlists : Draft.Lists ⟨['^'], []⟩ [] := rfl
    have hfree : ∀ other ∈ before ++ element :: after, ¬(Segment.read other).IsFragment := by
      rw [← helements]
      exact fun other hother => hfree _ (List.mem_map_of_mem hother)
    have hfold := Draft.foldlM_addSegment_of_nameDefect hlists hfree hbefore hcapture hname
    rw [draft, if_neg hroot]
    dsimp only
    rw [if_neg hfew, helements, hfold]
    rfl

/-- A sound template without fragments is accepted. -/
theorem ofTemplate_of_sound
    (hfree : ∀ segment ∈ Template.segments template, ¬segment.IsFragment)
    (hsound : Template.Sound template) : ∃ pattern, ofTemplate template = .ok pattern := by
  have hshort : ¬Template.maxLength < template.utf8ByteSize := Nat.not_lt.mpr hsound.length
  obtain ⟨text, parameters, hdraft⟩ := exists_draft_of_sound hfree hsound
  obtain ⟨e, hcompile⟩ := exists_compile_of_draft hfree hsound.length hdraft
  rw [ofTemplate, if_neg hshort]
  simp only [hdraft, bind, Except.bind, hcompile]
  exact ⟨_, rfl⟩

/-- A template without fragments is refused for its first defect. -/
theorem ofTemplate_of_firstDefect
    (hfree : ∀ segment ∈ Template.segments template, ¬segment.IsFragment)
    {defect : TemplateError} (hdefect : Template.FirstDefect template defect) :
    ofTemplate template = .error defect := by
  by_cases hlength : template.utf8ByteSize ≤ 1024
  · have hshort : ¬Template.maxLength < template.utf8ByteSize := Nat.not_lt.mpr hlength
    rw [ofTemplate, if_neg hshort]
    simp only [draft_of_firstDefect hfree hlength hdefect, bind, Except.bind]
  · have hlong : Template.maxLength < template.utf8ByteSize := Nat.not_le.mp hlength
    cases hdefect with
    | length =>
      rw [ofTemplate, if_pos hlong]
      rfl
    | segments hlength' | name hlength' => exact absurd hlength' hlength

/-- Compiling accepts exactly the sound templates among those without fragments, and refuses any
    other one with the words for its first defect. Whatever stands in the template, the engine never
    refuses its expression. -/
theorem accepts_exactly_sound {template mount : String}
    (hfree : ∀ segment ∈ Template.segments (mount ++ template), ¬segment.IsFragment) :
    ((∃ pattern, compile template mount = .ok pattern) ↔ Template.Sound (mount ++ template)) ∧
    (∀ e, compile template mount = .error e ↔
      ∃ defect, Template.FirstDefect (mount ++ template) defect ∧
        e = .malformedTemplate (mount ++ template) defect.message) ∧
    ∀ text parameters, (mount ++ template).utf8ByteSize ≤ 1024 →
      draft (mount ++ template).toList = .ok (text, parameters) →
      ∃ expr, Expr.compile maxSize text = .ok expr := by
  have haccept : Template.Sound (mount ++ template) →
      ∃ pattern, compile template mount = .ok pattern := by
    intro hsound
    obtain ⟨pattern, hok⟩ := ofTemplate_of_sound hfree hsound
    exact ⟨pattern, by rw [compile, hok]⟩
  have hrefuse : ∀ defect, Template.FirstDefect (mount ++ template) defect →
      compile template mount = .error (.malformedTemplate (mount ++ template) defect.message) := by
    intro defect hdefect
    rw [compile, ofTemplate_of_firstDefect hfree hdefect]
  refine ⟨⟨?_, haccept⟩, fun e => ⟨?_, ?_⟩, fun _ _ hlength hdraft =>
    exists_compile_of_draft hfree hlength hdraft⟩
  · rintro ⟨pattern, hok⟩
    refine (Template.sound_or_exists_firstDefect (mount ++ template)).resolve_right ?_
    rintro ⟨defect, hdefect⟩
    rw [hrefuse defect hdefect] at hok
    cases hok
  · intro herror
    obtain hsound | ⟨defect, hdefect⟩ := Template.sound_or_exists_firstDefect (mount ++ template)
    · obtain ⟨pattern, hok⟩ := haccept hsound
      rw [hok] at herror
      cases herror
    · rw [hrefuse defect hdefect] at herror
      cases herror
      exact ⟨defect, hdefect, rfl⟩
  · rintro ⟨defect, hdefect, rfl⟩
    exact hrefuse defect hdefect

/-- Names that differ in the template may be the same once they are sanitised. -/
theorem accepts_exactly_sound_sanitised :
    compile ":user_id" "/:userid/" = .error (.malformedTemplate "/:userid/:user_id"
      "duplicate parameter name 'userid'") := by
  have helements : Template.elements ("/:userid/" ++ ":user_id").toList =
      [":userid".toList] ++ ":user_id".toList :: [] := by decide +kernel
  have hsegments : Template.segments ("/:userid/" ++ ":user_id") =
      [.capture "userid".toList .any, .capture "userid".toList .any] := by decide +kernel
  have hfree : ∀ segment ∈ Template.segments ("/:userid/" ++ ":user_id"), ¬segment.IsFragment := by
    rw [hsegments]
    simp [Segment.IsFragment]
  have hnames : Template.names [":userid".toList] = ["userid".toList] := by decide
  have hsound : Template.SoundNames (Template.names [":userid".toList]) := by
    rw [hnames]
    exact ⟨by decide, by simp, by decide⟩
  have hdefect : Template.NameDefect (Template.names [":userid".toList]) ":user_id".toList
      (.duplicateName "userid") :=
    .duplicate rfl (by decide) (by rw [hnames]; decide)
  exact ((accepts_exactly_sound hfree).2.1 _).mpr ⟨.duplicateName "userid",
    .name (by decide +kernel) (by decide +kernel) helements hsound (by decide) hdefect,
    by decide +kernel⟩

end Pattern

end HttpRouter
