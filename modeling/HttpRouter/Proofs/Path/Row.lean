import HttpRouter.Proofs.Path.Draft

namespace HttpRouter

/-- What a segment reads as, after its slash. -/
inductive Segment.ReadsAs : Segment → List Expr → Prop where
  | literal (text : List Char) :
      ReadsAs (.literal text) (.literal ['/'] :: text.map fun c => .literal [c])
  | fragment (text : List Char) (e : Expr) : ReadsAs (.fragment text) [.literal ['/'], e]
  | capture (name : List Char) (kind : CaptureKind) (index : Nat) :
      ReadsAs (.capture name kind) [.literal ['/'],
        .capture index (some (.ofList name)) (.repeat 1 none false (.one kind.cls))]

/-- Whether a segment that is a fragment is confined to its group. -/
def Segment.Confined : Segment → Prop
  | .fragment text => ParseState.Confined text
  | _ => True

instance : DecidablePred Segment.Confined
  | .literal _ => inferInstanceAs (Decidable True)
  | .fragment text => inferInstanceAs (Decidable (ParseState.Confined text))
  | .capture _ _ => inferInstanceAs (Decidable True)

namespace Expr

/-- A row that begins with an assertion is no choice. -/
theorem branches_concat_look (a : Assertion) (es : List Expr) :
    (concat (.look a :: es)).branches = [concat (.look a :: es)] := by
  have hrow : ∀ l : List Expr, (row (.look a :: l)).branches = [row (.look a :: l)] := by
    intro l
    cases l <;> rfl
  exact hrow (joinLiterals (es.flatMap items))

/-- An expression that is accepted is the one that its text reads as. -/
theorem parse_of_compile {limit : Nat} {text : List Char} {e : Expr}
    (h : compile limit text = .ok e) : parse text = .ok e := by
  rw [compile] at h
  split at h
  · cases h
  · rename_i hparse
    split at h
    · cases h
      exact hparse
    · cases h

/-- One alternative that is no choice stays as it is. -/
theorem alternatives_singleton {e : Expr} (h : e.branches = [e]) : alternatives [e] = e := by
  have hbranches : [e].flatMap branches = [e] := by simp [h]
  rw [alternatives, choose.eq_def]
  simp only [hbranches]

end Expr

namespace ParseState

/-- Outside of all groups, without flags, the row under way is of the given expressions. -/
structure AtTop (exprs : List Expr) (state : ParseState) : Prop where
  flags : state.flags = {}
  outer : state.outer = []
  alternatives : state.group.alternatives = []
  row : state.group.row.reverse.map (Option.map Piece.expr) = exprs.map some

variable {exprs : List Expr} {state : ParseState}

theorem AtTop.pushAll (h : AtTop exprs state) (es : List Expr) :
    AtTop (exprs ++ es) (state.pushAll es) := by
  refine ⟨h.flags, h.outer, h.alternatives, ?_⟩
  simp [ParseState.pushAll, h.row, Function.comp_def]

theorem AtTop.pushCapture (h : AtTop exprs state) (name : List Char) (kind : CaptureKind) :
    AtTop (exprs ++ [.capture (state.captures + 1) (some (.ofList name))
      (.repeat 1 none false (.one kind.cls))]) (state.pushCapture name kind) := by
  refine ⟨h.flags, h.outer, h.alternatives, ?_⟩
  simp [ParseState.pushCapture, h.row]

theorem AtTop.push (h : AtTop exprs state) (captures : Nat) (names : List String) (piece : Piece) :
    AtTop (exprs ++ [piece.expr]) ({ state with captures, names }.push (some piece)) := by
  refine ⟨h.flags, h.outer, h.alternatives, ?_⟩
  simp [ParseState.push, h.row]

/-- A run through the expression of a segment adds a row to the one under way that the relation has
    for the segment. -/
def Adds (R : Segment → List Expr → Prop) (segment : Segment) : Prop :=
  ∀ ⦃exprs : List Expr⦄ ⦃state : ParseState⦄, AtTop exprs state →
    Passes state ('/' :: segment.expression)
      fun next => ∃ row, R segment row ∧ AtTop (exprs ++ row) next

/-- A run through the expression of a confined segment adds to the row what the segment reads as. -/
theorem adds_readsAs {segment : Segment} (hplain : segment.PlainlyNamed)
    (hconfined : segment.Confined) : Adds Segment.ReadsAs segment := by
  intro exprs state h
  have hslash := reads_slash state h.flags
  have htop := h.pushAll [.literal ['/']]
  cases segment with
  | literal text =>
    have hreads := hslash.trans (reads_quote _ htop.flags text)
    rw [pushAll_pushAll] at hreads
    exact .of_reads hreads ⟨_, .literal text, h.pushAll _⟩
  | fragment text =>
    refine hslash.passes ((passes_confined _ htop.flags hconfined).mono ?_)
    rintro next ⟨captures, names, piece, rfl⟩
    have htop := htop.push captures names piece
    rw [List.append_assoc] at htop
    exact ⟨_, .fragment text _, htop⟩
  | capture name kind =>
    refine hslash.passes ((passes_capture _ htop.flags hplain kind).mono ?_)
    rintro next rfl
    have htop := htop.pushCapture name kind
    rw [List.append_assoc] at htop
    exact ⟨_, .capture name kind _, htop⟩

theorem passes_segments {R : Segment → List Expr → Prop} {segments : List Segment}
    (h : AtTop exprs state) (hadds : ∀ segment ∈ segments, Adds R segment) :
    Passes state (segments.flatMap fun segment => '/' :: segment.expression)
      fun next => ∃ rows, List.Forall₂ R segments rows ∧ AtTop (exprs ++ rows.flatten) next := by
  induction segments generalizing exprs state with
  | nil => exact .of_reads (.nil state) ⟨[], .nil, by simpa using h⟩
  | cons segment segments ih =>
    rw [List.forall_mem_cons] at hadds
    rw [List.flatMap_cons]
    refine (hadds.1 h).trans ?_
    rintro next ⟨row, hrow, htop⟩
    refine (ih htop hadds.2).mono ?_
    rintro last ⟨rows, hall, htop⟩
    refine ⟨row :: rows, .cons hrow hall, ?_⟩
    rwa [List.flatten_cons, ← List.append_assoc]

/-- What has been read outside of all groups is the row, if it begins with an assertion. -/
theorem AtTop.finish_eq_ok {a : Assertion} {e : Expr} (h : AtTop (.look a :: exprs) state)
    (hfinish : state.finish = .ok e) : e = .concat (.look a :: exprs) := by
  have hrow : (Piece.ofRow state.group.row.reverse).expr = .concat (.look a :: exprs) := by
    have hpieces : (state.group.row.reverse.filterMap id).map Piece.expr = .look a :: exprs := by
      have hmap := congrArg (List.filterMap id) h.row
      rw [List.filterMap_map, List.filterMap_map] at hmap
      rw [List.map_filterMap]
      simpa [Function.comp_def] using hmap
    rw [← hpieces]
    rfl
  have hclose : state.group.close.expr =
      .alternatives [(Piece.ofRow state.group.row.reverse).expr] := by
    rw [OpenGroup.close, h.alternatives]
    rfl
  rw [← (ParseState.finish_eq_ok hfinish).2, hclose, hrow]
  exact Expr.alternatives_singleton (Expr.branches_concat_look a exprs)

end ParseState

namespace Pattern

/-- The pattern has a row for each of the segments, between the anchors, and lists the parameters of
    the captures first. Their names differ. -/
structure LaidOut (segments : List Segment) (rows : List (List Expr)) (pattern : Pattern) :
    Prop where
  reads : List.Forall₂ Segment.ReadsAs segments rows
  expr : pattern.expr = .concat (.look .textStart :: (rows.flatten ++ [.look .textEnd]))
  parameters : pattern.parameters =
    withGroups (Segment.parameters segments) pattern.expr.captureNames
  names : ((Segment.parameters segments).map (·.name)).Nodup

/-- An accepted expression between the anchors is the row of its segments. -/
theorem row_of_parse {R : Segment → List Expr → Prop} {segments : List Segment} {e : Expr}
    (hadds : ∀ segment ∈ segments, ParseState.Adds R segment)
    (hparse : Expr.parse (['^'] ++ segments.flatMap (fun segment => '/' :: segment.expression) ++
      ['$']) = .ok e) :
    ∃ rows, List.Forall₂ R segments rows ∧
      e = .concat (.look .textStart :: (rows.flatten ++ [.look .textEnd])) := by
  rw [Expr.parse, bind_eq_ok] at hparse
  obtain ⟨final, hrun, hfinish⟩ := hparse
  have hempty : ParseState.AtTop [] {} := ⟨rfl, rfl, rfl, rfl⟩
  have htop := hempty.pushAll [.look .textStart]
  have hsegments := (ParseState.reads_caret {} rfl).passes (ParseState.passes_segments htop hadds)
  have hwhole : ParseState.Passes {} (['^'] ++
      segments.flatMap (fun segment => '/' :: segment.expression) ++ ['$']) fun next =>
      ∃ rows, List.Forall₂ R segments rows ∧
        ParseState.AtTop (.look .textStart :: (rows.flatten ++ [.look .textEnd])) next := by
    refine hsegments.trans ?_
    rintro next ⟨rows, hrows, htop⟩
    exact .of_reads (ParseState.reads_dollar next htop.flags) ⟨rows, hrows, htop.pushAll _⟩
  obtain ⟨rows, hrows, htop⟩ := hwhole.final (Nat.le_succ _) hrun
  exact ⟨rows, hrows, htop.finish_eq_ok hfinish⟩

/-- An accepted template has the expression that its text reads as. Its parameters are those of its
    captures, whose names are plain and differ, and then the other groups of the expression. -/
structure Compiled (segments : List Segment) (pattern : Pattern) : Prop where
  text : pattern.expression.toList =
    ['^'] ++ segments.flatMap (fun segment => '/' :: segment.expression) ++ ['$']
  parse : Expr.parse pattern.expression.toList = .ok pattern.expr
  parameters : pattern.parameters =
    withGroups (Segment.parameters segments) pattern.expr.captureNames
  plain : ∀ segment ∈ segments, segment.PlainlyNamed
  names : ((Segment.parameters segments).map (·.name)).Nodup

theorem compiled_of_compile {template mount : String} {pattern : Pattern}
    (hcompile : compile template mount = .ok pattern) :
    pattern.Compiled (Template.segments (mount ++ template)) := by
  rw [compile] at hcompile
  split at hcompile
  · rename_i hok
    cases hcompile
    rw [ofTemplate] at hok
    split at hok
    · cases hok
    · obtain ⟨⟨text, parameters⟩, hdraft, hok⟩ := bind_eq_ok.mp hok
      obtain ⟨htext, rfl, hplain, hnames⟩ := draft_eq_ok hdraft
      simp only at hok
      split at hok
      · cases hok
      · rename_i e haccepted
        cases hok
        have hparse := Expr.parse_of_compile haccepted
        rw [← String.toList_ofList (l := text)] at hparse
        exact ⟨String.toList_ofList.trans htext, hparse, rfl, hplain, hnames⟩
  · cases hcompile

/-- An accepted template whose fragments are confined has the row of its segments. -/
theorem laidOut_of_compile {template mount : String} {pattern : Pattern}
    (hcompile : compile template mount = .ok pattern)
    (hconfined : ∀ segment ∈ Template.segments (mount ++ template), segment.Confined) :
    ∃ rows, LaidOut (Template.segments (mount ++ template)) rows pattern := by
  have hcompiled := compiled_of_compile hcompile
  have hparse := hcompiled.parse
  rw [hcompiled.text] at hparse
  obtain ⟨rows, hreads, hexpr⟩ := row_of_parse (fun segment hsegment =>
    ParseState.adds_readsAs (hcompiled.plain segment hsegment) (hconfined segment hsegment)) hparse
  exact ⟨rows, hreads, hexpr, hcompiled.parameters, hcompiled.names⟩

end Pattern

end HttpRouter
