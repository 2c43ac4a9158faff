import HttpRouter.Proofs.Expression.Search
import HttpRouter.Proofs.Path.Row

namespace HttpRouter

open HttpRouter.Expr (TakesRow)

variable {text : Array Char}

/-- What a segment that is a capture reads as takes a capture of its name. -/
theorem Segment.ReadsAs.span_of_takesRow {name : List Char} {kind : CaptureKind} {row : List Expr}
    {i j : Nat} {s s' : List Span} (hreads : (Segment.capture name kind).ReadsAs row)
    (htakes : TakesRow text row i s j s') : ∃ span ∈ s', span.name = String.ofList name := by
  obtain _ | _ | ⟨_, _, index⟩ := hreads
  simp only [Expr.takesRow_cons, Expr.takesRow_nil, Expr.takes_named] at htakes
  obtain ⟨k, r, -, l, q, ⟨u, -, rfl⟩, rfl, rfl⟩ := htakes
  exact ⟨_, List.mem_cons_self, rfl⟩

/-- Every capture of a row takes part in a match. -/
theorem Segment.spans_of_takesRow {segments : List Segment} {rows : List (List Expr)} {i j : Nat}
    {s s' : List Span} (hreads : List.Forall₂ Segment.ReadsAs segments rows)
    (htakes : TakesRow text rows.flatten i s j s') {name : List Char} {kind : CaptureKind}
    (hcapture : .capture name kind ∈ segments) : ∃ span ∈ s', span.name = String.ofList name := by
  induction hreads generalizing i s with
  | nil => cases hcapture
  | @cons segment row segments rows hrow hrows ih =>
    rw [List.flatten_cons, Expr.takesRow_append] at htakes
    obtain ⟨k, r, hfirst, hrest⟩ := htakes
    obtain rfl | hlater := List.mem_cons.mp hcapture
    · obtain ⟨span, hspan, hname⟩ := hrow.span_of_takesRow hfirst
      exact ⟨span, hrest.suffix.subset hspan, hname⟩
    · exact ih hrest hlater

namespace Pattern

/-- A parameter of the pattern whose capture took part in a match has a value. -/
theorem get?_isSome_of_captured {pattern : Pattern} {path : String} {params : Params}
    {start : Nat} {thread : Thread} {parameter : Parameter}
    (hsearch : pattern.expr.search path.toList.toArray = some (start, thread))
    (hparams : pattern.params? path = some params) (hmem : parameter ∈ pattern.parameters)
    (hspan : ∃ span ∈ thread.spans, span.name = parameter.name) :
    (params.get? parameter.name).isSome = true := by
  rw [params?, hsearch] at hparams
  cases hparams
  obtain ⟨span, hspan, hname⟩ := hspan
  have hcaptured : (thread.captured? path.toList.toArray parameter.name).isSome = true := by
    rw [Thread.captured?, Option.isSome_map, List.find?_isSome]
    exact ⟨span, hspan, by simpa using hname⟩
  obtain ⟨value, hvalue⟩ := Option.isSome_iff_exists.mp hcaptured
  rw [Params.get?, Assoc.find?, Option.isSome_map, List.find?_isSome]
  refine ⟨(parameter.name, value), List.mem_filterMap.mpr ⟨parameter, hmem, ?_⟩, by simp⟩
  rw [hvalue]
  rfl

/-- When the fragments of a template are confined to their segments, no part of one segment is read
    as a part of another, a match begins and ends where the path does, and every capture of the
    template has a value. -/
theorem anchored_of_compile {template mount : String} {pattern : Pattern}
    (hcompile : compile template mount = .ok pattern)
    (hconfined : ∀ segment ∈ Template.segments (mount ++ template), segment.Confined) :
    (∃ rows, pattern.LaidOut (Template.segments (mount ++ template)) rows) ∧
      ∀ path, pattern.isMatch path = true →
        ∃ thread params, pattern.expr.search path.toList.toArray = some (0, thread) ∧
          thread.place = path.toList.length ∧ pattern.params? path = some params ∧
          ∀ name kind, .capture name kind ∈ Template.segments (mount ++ template) →
            (params.get? (.ofList name)).isSome = true := by
  obtain ⟨rows, hlaid⟩ := laidOut_of_compile hcompile hconfined
  refine ⟨⟨rows, hlaid⟩, fun path hmatch => ?_⟩
  obtain ⟨⟨start, thread⟩, hsearch⟩ := Option.isSome_iff_exists.mp hmatch
  obtain ⟨-, htakes⟩ := Expr.takes_of_search hsearch
  rw [hlaid.expr, Expr.takes_concat, Expr.takesRow_anchored] at htakes
  obtain ⟨rfl, hplace, htakes⟩ := htakes
  obtain ⟨params, hparams⟩ : ∃ params, pattern.params? path = some params := by
    rw [params?, hsearch]
    exact ⟨_, rfl⟩
  refine ⟨thread, params, hsearch, by simpa using hplace, hparams, fun name kind hcapture => ?_⟩
  have hparameter : ⟨.ofList name, kind⟩ ∈ pattern.parameters := by
    rw [hlaid.parameters, withGroups]
    exact List.mem_append_left _ (List.mem_filterMap.mpr ⟨_, hcapture, rfl⟩)
  exact get?_isSome_of_captured hsearch hparams hparameter
    (Segment.spans_of_takesRow hlaid.reads htakes hcapture)

/-- An alternation that stays within its brackets, and a capture behind it. -/
theorem anchored_of_compile_alternation :
    ∃ pattern thread params, compile "regex:a|bc/int:id" "/" = .ok pattern ∧
      pattern.expr.search "/bc/7".toList.toArray = some (0, thread) ∧
      thread.place = "/bc/7".toList.length ∧ pattern.params? "/bc/7" = some params ∧
      (params.get? "id").isSome = true := by
  have hexpr : (compile "regex:a|bc/int:id" "/").toOption.map (·.expr) =
      some (.concat [.look .textStart, .literal ['/'], .alt (.literal ['a']) (.literal ['b', 'c']),
        .literal ['/'],
        .capture 1 (some "id") (.repeat 1 none false (.one CaptureKind.int.cls)),
        .look .textEnd]) := by decide +kernel
  have hsegments : Template.segments ("/" ++ "regex:a|bc/int:id") =
      [.fragment ['a', '|', 'b', 'c'], .capture ['i', 'd'] .int] := by decide +kernel
  have hconfined : ∀ segment ∈ Template.segments ("/" ++ "regex:a|bc/int:id"),
      segment.Confined := by
    rw [hsegments]
    decide
  cases hcompile : compile "regex:a|bc/int:id" "/" with
  | error e => rw [hcompile] at hexpr; cases hexpr
  | ok pattern =>
    rw [hcompile] at hexpr
    have hexpr : pattern.expr = _ := Option.some.inj hexpr
    have hmatch : pattern.isMatch "/bc/7" = true := by
      rw [isMatch, hexpr]
      cbv
    obtain ⟨-, hanchored⟩ := anchored_of_compile hcompile hconfined
    obtain ⟨thread, params, hsearch, hplace, hparams, hvalues⟩ := hanchored "/bc/7" hmatch
    refine ⟨pattern, thread, params, rfl, hsearch, hplace, hparams, ?_⟩
    exact hvalues ['i', 'd'] .int (by rw [hsegments]; simp)

/-- A fragment that closes the group around it takes the end of the path away from the alternative
    before it. -/
theorem not_anchored_unbalanced :
    ∃ pattern start thread, compile "regex:a)|(?:b" "/" = .ok pattern ∧
      pattern.isMatch "/ax" = true ∧
      pattern.expr.search "/ax".toList.toArray = some (start, thread) ∧
      thread.place ≠ "/ax".toList.length := by
  have hexpr : (compile "regex:a)|(?:b" "/").toOption.map (·.expr) =
      some (.alt (.seq (.look .textStart) (.literal ['/', 'a']))
        (.seq (.literal ['b']) (.look .textEnd))) := by decide +kernel
  cases hcompile : compile "regex:a)|(?:b" "/" with
  | error e => rw [hcompile] at hexpr; cases hexpr
  | ok pattern =>
    rw [hcompile] at hexpr
    have hexpr : pattern.expr = _ := Option.some.inj hexpr
    have hmatch : pattern.isMatch "/ax" = true := by
      rw [isMatch, hexpr]
      cbv
    obtain ⟨⟨start, thread⟩, hsearch⟩ := Option.isSome_iff_exists.mp hmatch
    refine ⟨pattern, start, thread, rfl, hmatch, hsearch, ?_⟩
    obtain ⟨hstart, htakes⟩ := Expr.takes_of_search hsearch
    have hunread : ∀ place ≤ "/ax".toList.toArray.size,
        Expr.readsAt "/ax".toList.toArray ['b'] place = false := by decide +kernel
    rw [hexpr] at htakes
    generalize thread.place = place at htakes
    cases htakes with
    | altLeft hleft =>
      simp only [Expr.takes_seq, Expr.takes_look, Expr.takes_literal] at hleft
      obtain ⟨_, _, ⟨hfront, rfl, -⟩, -, rfl, -⟩ := hleft
      have hfront : start = 0 := by simpa [Assertion.holds] using hfront
      rw [hfront]
      decide
    | altRight hright =>
      simp only [Expr.takes_seq, Expr.takes_look, Expr.takes_literal] at hright
      obtain ⟨_, _, ⟨hreads, -⟩, -⟩ := hright
      rw [hunread start hstart] at hreads
      cases hreads

end Pattern

end HttpRouter
