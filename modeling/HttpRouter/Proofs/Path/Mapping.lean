import HttpRouter.Proofs.Expression.Search
import HttpRouter.Proofs.Expression.Spans
import HttpRouter.Proofs.Path.Order

namespace HttpRouter

namespace Params

/-- Parameters whose names differ are a map as they are listed. -/
theorem toMap_eq {params : Params} (hnames : (params.entries.map (·.1)).Nodup) :
    params.toMap = params.entries := by
  have hfold : ∀ entries pairs : List (String × String),
      ((pairs ++ entries).map (·.1)).Nodup →
      entries.foldl (fun pairs entry => Assoc.put entry.1 entry.2 pairs) pairs =
        pairs ++ entries := by
    intro entries
    induction entries with
    | nil => simp
    | cons entry rest ih =>
      obtain ⟨name, value⟩ := entry
      intro pairs hnodup
      have hnew : name ∉ pairs.map (·.1) := by
        rw [List.map_append, List.map_cons] at hnodup
        intro hmem
        exact List.disjoint_of_nodup_append hnodup hmem List.mem_cons_self
      rw [List.foldl_cons]
      dsimp only
      rw [Assoc.put_of_notMem hnew, ih _ (by rwa [List.append_assoc]), List.append_assoc]
      rfl
  exact hfold params.entries [] hnames

end Params

namespace Pattern

/-- The parameters of a path have the names whose captures took part in the match, with the stretches
    that these took last. -/
theorem mem_entries_iff {pattern : Pattern} {path : String} {start : Nat} {thread : Thread}
    {params : Params} (hsearch : pattern.expr.search path.toList.toArray = some (start, thread))
    (hparams : pattern.params? path = some params) {name value : String} :
    (name, value) ∈ params.entries ↔ name ∈ pattern.parameters.map (·.name) ∧
      thread.captured? path.toList.toArray name = some value := by
  rw [params?, hsearch] at hparams
  cases hparams
  rw [List.mem_filterMap]
  constructor
  · rintro ⟨parameter, hparameter, hvalue⟩
    obtain ⟨found, hfound, heq⟩ := Option.map_eq_some_iff.mp hvalue
    cases heq
    exact ⟨List.mem_map_of_mem hparameter, hfound⟩
  · rintro ⟨hname, hvalue⟩
    obtain ⟨parameter, hparameter, rfl⟩ := List.mem_map.mp hname
    exact ⟨parameter, hparameter, by rw [hvalue]; rfl⟩

/-- What a match captured under a name is a stretch of the path. -/
theorem captured?_eq_some_iff {pattern : Pattern} {path : String} {start : Nat} {thread : Thread}
    (hsearch : pattern.expr.search path.toList.toArray = some (start, thread)) {name value : String} :
    thread.captured? path.toList.toArray name = some value ↔
      ∃ span, thread.spans.find? (·.name == name) = some span ∧
        span.start ≤ span.stop ∧ span.stop ≤ path.toList.length ∧
        value.toList = (path.toList.drop span.start).take (span.stop - span.start) := by
  obtain ⟨hstart, htakes⟩ := Expr.takes_of_search hsearch
  have hwithin := htakes.within hstart (by simp)
  rw [Thread.captured?, Option.map_eq_some_iff]
  refine exists_congr fun span => and_congr_right fun hspan => ?_
  obtain ⟨hends, hsize⟩ := hwithin span (List.mem_of_find?_eq_some hspan)
  have htext : (path.toList.toArray.extract span.start span.stop).toList =
      (path.toList.drop span.start).take (span.stop - span.start) := by
    rw [Array.toList_extract, List.extract_eq_take_drop]
  rw [htext]
  refine ⟨?_, ?_⟩
  · rintro rfl
    exact ⟨hends, by simpa using hsize, String.toList_ofList⟩
  · rintro ⟨-, -, hvalue⟩
    rw [← hvalue, String.ofList_toList]

/-- For every template that is accepted, the names of the parameters differ and have every named group
    of the expression among them. For every path that matches, the names of its parameters differ and
    are listed in that order; each is the stretch of the path that the capture of its name took last.
    Looking a name up finds what is listed for it, and nothing exactly if it is not listed, in the list
    and in the map alike, and the map has a pair for each name. -/
theorem params_faithful {template mount : String} {pattern : Pattern}
    (hcompile : compile template mount = .ok pattern) :
    let names := pattern.parameters.map (·.name)
    names.Nodup ∧ (∀ name ∈ pattern.expr.captureNames, name ∈ names) ∧
    ∀ path, pattern.isMatch path = true → ∃ params start thread,
      pattern.params? path = some params ∧
      pattern.expr.search path.toList.toArray = some (start, thread) ∧
      (params.entries.map (·.1)).Nodup ∧ (params.entries.map (·.1)).Sublist names ∧
      (∀ name value, params.get? name = some value ↔ (name, value) ∈ params.entries) ∧
      (∀ name, params.get? name = none ↔ name ∉ params.entries.map (·.1)) ∧
      (∀ name value, (name, value) ∈ params.entries ↔ name ∈ names ∧
        ∃ span, thread.spans.find? (·.name == name) = some span ∧
          span.start ≤ span.stop ∧ span.stop ≤ path.toList.length ∧
          value.toList = (path.toList.drop span.start).take (span.stop - span.start)) ∧
      (params.toMap.map (·.1)).Nodup ∧ params.toMap.length = params.size ∧
      (∀ name, Assoc.find? name params.toMap = params.get? name) ∧
      ∀ name, params.contains name = true ↔ ∃ value, params.get? name = some value := by
  intro names
  have hcompiled := compiled_of_compile hcompile
  have hnames : names.Nodup := hcompiled.nodup_parameters
  refine ⟨hnames, fun name hname => ?_, fun path hmatch => ?_⟩
  · simp only [names, hcompiled.parameters, map_name_withGroups, List.mem_append, List.mem_filter]
    by_cases hdeclared : name ∈ (Segment.parameters (Template.segments (mount ++ template))).map
        (·.name)
    · exact .inl hdeclared
    · exact .inr ⟨hname, decide_eq_true hdeclared⟩
  · obtain ⟨⟨start, thread⟩, hsearch⟩ := Option.isSome_iff_exists.mp hmatch
    obtain ⟨params, hparams⟩ := exists_params_of_search hsearch
    have hsublist := map_entries_sublist hparams
    have hdiffer : (params.entries.map (·.1)).Nodup := hsublist.nodup hnames
    have hmap := Params.toMap_eq hdiffer
    refine ⟨params, start, thread, hparams, hsearch, hdiffer, hsublist,
      fun name value => Assoc.find?_eq_some_iff hdiffer, fun name => Assoc.find?_eq_none_iff,
      fun name value => ?_, ?_, ?_, fun name => ?_, fun name => ?_⟩
    · rw [mem_entries_iff hsearch hparams, captured?_eq_some_iff hsearch]
    · rw [hmap]
      exact hdiffer
    · rw [hmap]
      rfl
    · rw [hmap]
      rfl
    · rw [Params.contains, Option.isSome_iff_exists]

/-- Two groups of one fragment, of which only one takes part in the match. -/
theorem params_faithful_choice :
    ∃ pattern params, compile "regex:(?P<word>[a-z]+)|(?P<year>[0-9]+)" "/int:day/" = .ok pattern ∧
      pattern.parameters.map (·.name) = ["day", "word", "year"] ∧
      pattern.params? "/7/1999" = some params ∧ params.get? "year" = some "1999" ∧
      params.get? "word" = none ∧ Assoc.find? "day" params.toMap = some "7" := by
  let letters : CharClass := .empty ∪ .range 'a' 'z'
  let digits (greedy : Bool) : Expr := .repeat 1 none greedy (.one CaptureKind.int.cls)
  have hrun : (compile "regex:(?P<word>[a-z]+)|(?P<year>[0-9]+)" "/int:day/").toOption.map
      (fun pattern => (pattern.parameters, pattern.expr)) =
      some ([⟨"day", .int⟩, ⟨"word", .fragment⟩, ⟨"year", .fragment⟩],
        .concat [.look .textStart, .literal ['/'], .capture 1 (some "day") (digits false),
          .literal ['/'], .alt (.capture 2 (some "word") (.repeat 1 none true (.one letters)))
            (.capture 3 (some "year") (digits true)), .look .textEnd]) := by
    decide +kernel
  cases hcompile : compile "regex:(?P<word>[a-z]+)|(?P<year>[0-9]+)" "/int:day/" with
  | error e => rw [hcompile] at hrun; cases hrun
  | ok pattern =>
    rw [hcompile] at hrun
    obtain ⟨hparameters, hexpr⟩ := Prod.mk.inj (Option.some.inj hrun)
    have hparams : pattern.params? "/7/1999" = some ⟨[("day", "7"), ("year", "1999")]⟩ := by
      rw [params?, hparameters, hexpr]
      cbv
    have hmatch : pattern.isMatch "/7/1999" = true := by
      rw [params?] at hparams
      rw [isMatch, ← Option.isSome_map, hparams]
      rfl
    obtain ⟨-, -, hpaths⟩ := params_faithful hcompile
    obtain ⟨params, start, thread, hfound, -, -, -, hget, hnone, -, -, -, hmap, -⟩ :=
      hpaths "/7/1999" hmatch
    rw [hparams] at hfound
    cases hfound
    refine ⟨pattern, _, rfl, by rw [hparameters]; rfl, hparams, (hget _ _).mpr (by simp),
      (hnone _).mpr (by simp), ?_⟩
    rw [hmap]
    exact (hget _ _).mpr (by simp)

end Pattern

end HttpRouter
