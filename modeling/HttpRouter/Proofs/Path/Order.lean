import HttpRouter.Proofs.Path.Segments

namespace HttpRouter

namespace Segment

/-- Whether no capture stands behind a fragment that names groups of its own. -/
def CapturesFirst : List Segment → List (List Expr) → Prop
  | segment :: segments, row :: rows =>
    (segment.IsFragment → row.flatMap Expr.captureNames ≠ [] → parameters segments = []) ∧
      CapturesFirst segments rows
  | _, _ => True

section Reading

variable {segments : List Segment} {rows : List (List Expr)}

/-- The captures of a template are among those of its row, in their order. -/
theorem parameters_sublist (hreads : List.Forall₂ ReadsAs segments rows) :
    ((parameters segments).map (·.name)).Sublist (rows.flatten.flatMap Expr.captureNames) := by
  induction hreads with
  | nil => exact .refl _
  | @cons segment row segments rows hrow hrows ih =>
    rw [parameters_cons, List.map_append, List.flatten_cons, List.flatMap_append]
    refine List.Sublist.append ?_ ih
    cases hrow with
    | literal text => exact List.nil_sublist _
    | fragment text e => exact List.nil_sublist _
    | capture name kind index => exact .refl _

/-- Where there are no captures, they stand first. -/
theorem capturesFirst_of_parameters_eq_nil (hreads : List.Forall₂ ReadsAs segments rows)
    (hnone : parameters segments = []) : CapturesFirst segments rows := by
  induction hreads with
  | nil => trivial
  | @cons segment row segments rows _ _ ih =>
    rw [parameters_cons, List.append_eq_nil_iff] at hnone
    exact ⟨fun _ _ => hnone.2, ih hnone.2⟩

/-- The captures of a template come first in its row exactly if no capture stands behind a fragment that
    names groups of its own. -/
theorem starts_iff_capturesFirst (hreads : List.Forall₂ ReadsAs segments rows)
    (hnodup : (rows.flatten.flatMap Expr.captureNames).Nodup) :
    (parameters segments).map (·.name) <+: rows.flatten.flatMap Expr.captureNames ↔
      CapturesFirst segments rows := by
  induction hreads with
  | nil => exact ⟨fun _ => trivial, fun _ => List.prefix_refl _⟩
  | @cons segment row segments rows hrow hrows ih =>
    rw [List.flatten_cons, List.flatMap_append] at hnodup ⊢
    rw [parameters_cons, List.map_append, CapturesFirst]
    have hrest := ih hnodup.of_append_right
    by_cases hfragment : segment.IsFragment
    · rw [hfragment.parameter?_eq_none, Option.toList_none, List.map_nil, List.nil_append]
      by_cases hnames : row.flatMap Expr.captureNames = []
      · rw [hnames, List.nil_append, hrest]
        exact ⟨fun h => ⟨fun _ hne => absurd rfl hne, h⟩, fun h => h.2⟩
      · -- The first group of the fragment is none of the captures behind it.
        have hnone : (parameters segments).map (·.name) <+: row.flatMap Expr.captureNames ++
            rows.flatten.flatMap Expr.captureNames ↔ parameters segments = [] := by
          constructor
          · intro hstarts
            by_contra hsome
            obtain ⟨parameter, others, hparameters⟩ := List.exists_cons_of_ne_nil hsome
            obtain ⟨name, names, hgroups⟩ := List.exists_cons_of_ne_nil hnames
            have hlater : parameter.name ∈ rows.flatten.flatMap Expr.captureNames := by
              refine (parameters_sublist hrows).subset ?_
              rw [hparameters, List.map_cons]
              exact List.mem_cons_self
            rw [hparameters, hgroups, List.map_cons, List.cons_append, List.cons_prefix_cons]
              at hstarts
            rw [hgroups, List.cons_append, List.nodup_cons] at hnodup
            refine hnodup.1 (List.mem_append_right _ ?_)
            rw [← hstarts.1]
            exact hlater
          · intro hnone
            rw [hnone]
            exact List.nil_prefix
        rw [hnone]
        exact ⟨fun h => ⟨fun _ _ => h, capturesFirst_of_parameters_eq_nil hrows h⟩,
          fun h => h.1 hfragment hnames⟩
    · rw [hrow.captureNames_eq hfragment, List.prefix_append_right_inj, hrest]
      exact ⟨fun h => ⟨fun hf => absurd hf hfragment, h⟩, fun h => h.2⟩

end Reading

end Segment

namespace Pattern

/-- The parameters are the captures and then the groups of fragments. -/
theorem map_name_withGroups (parameters : List Parameter) (names : List String) :
    (withGroups parameters names).map (·.name) = parameters.map (·.name) ++
      names.filter fun name => name ∉ parameters.map (·.name) := by
  rw [withGroups, List.map_append, List.map_map]
  congr 1
  have hfilter : ∀ name, (!parameters.any (·.name == name)) =
      decide (name ∉ parameters.map (·.name)) := by
    intro name
    rw [Bool.eq_iff_iff]
    simp
  simp only [hfilter]
  exact List.map_id _

/-- Names with those of others behind them are all of those others exactly if they come first among
    them. -/
theorem append_filter_eq_iff {names others : List String} (hnodup : others.Nodup) :
    names ++ others.filter (fun name => name ∉ names) = others ↔ names <+: others := by
  constructor
  · intro heq
    exact ⟨_, heq⟩
  · rintro ⟨rest, rfl⟩
    have hdisjoint := List.disjoint_of_nodup_append hnodup
    have hnone : names.filter (fun name => name ∉ names) = [] := by
      rw [List.filter_eq_nil_iff]
      intro name hname
      simpa using hname
    have hall : rest.filter (fun name => name ∉ names) = rest := by
      rw [List.filter_eq_self]
      intro name hname
      rw [decide_eq_true_eq]
      exact fun hmem => hdisjoint hmem hname
    rw [List.filter_append, hnone, hall, List.nil_append]

/-- A path that matches has parameters. -/
theorem exists_params_of_search {pattern : Pattern} {path : String} {found : Nat × Thread}
    (hsearch : pattern.expr.search path.toList.toArray = some found) :
    ∃ params, pattern.params? path = some params := by
  rw [params?, hsearch]
  exact ⟨_, rfl⟩

/-- The parameters of a path are listed in the order of the pattern. -/
theorem map_entries_sublist {pattern : Pattern} {path : String} {params : Params}
    (hparams : pattern.params? path = some params) :
    (params.entries.map (·.1)).Sublist (pattern.parameters.map (·.name)) := by
  obtain ⟨⟨start, thread⟩, -, rfl⟩ := Option.map_eq_some_iff.mp hparams
  dsimp only
  induction pattern.parameters with
  | nil => exact .refl _
  | cons parameter rest ih =>
    rw [List.map_cons, List.filterMap_cons]
    cases thread.captured? path.toList.toArray parameter.name with
    | none => exact ih.cons _
    | some value => exact ih.cons_cons _

/-- The parameters of an accepted template differ in their names. -/
theorem Compiled.nodup_parameters {segments : List Segment} {pattern : Pattern}
    (hcompiled : pattern.Compiled segments) : (pattern.parameters.map (·.name)).Nodup := by
  obtain ⟨opened, -, hnodup, hsublist⟩ := Expr.captureNames_of_parse hcompiled.parse
  rw [hcompiled.parameters, map_name_withGroups]
  refine hcompiled.names.append ((hsublist.nodup hnodup).filter _) ?_
  intro name hdeclared hother
  exact of_decide_eq_true (List.mem_filter.mp hother).2 hdeclared

/-- The names of the parameters of a pattern differ from each other: first come those of the captures of
    the template, then the other groups of its expression, in the order in which these open. So all of
    them stand in the order in which they open exactly if the captures open before the groups of
    fragments; for a template whose fragments are confined, if no capture stands behind a fragment that
    names groups. The parameters of a path are listed in the order of the pattern. -/
theorem parameters_order {template mount : String} {pattern : Pattern}
    (hcompile : compile template mount = .ok pattern) :
    let segments := Template.segments (mount ++ template)
    let declared := (Segment.parameters segments).map (·.name)
    let groups := pattern.expr.captureNames
    let names := pattern.parameters.map (·.name)
    (∃ opened, Expr.openedNames pattern.expression.toList = .ok opened ∧ opened.Nodup ∧
      groups.Sublist opened) ∧
    names.Nodup ∧ names = declared ++ groups.filter (fun name => name ∉ declared) ∧
    (names = groups ↔ declared <+: groups) ∧
    ((∀ segment ∈ segments, segment.Confined) → ∃ rows, pattern.LaidOut segments rows ∧
      (names = groups ↔ Segment.CapturesFirst segments rows)) ∧
    ∀ path params, pattern.params? path = some params →
      (params.entries.map (·.1)).Sublist names := by
  intro segments declared groups names
  have hcompiled := compiled_of_compile hcompile
  obtain ⟨opened, hopened, hnodup, hsublist⟩ := Expr.captureNames_of_parse hcompiled.parse
  have hgroups : groups.Nodup := hsublist.nodup hnodup
  have hnames : names = declared ++ groups.filter (fun name => name ∉ declared) := by
    simp only [names, hcompiled.parameters]
    exact map_name_withGroups _ _
  have horder : names = groups ↔ declared <+: groups := by
    rw [hnames]
    exact append_filter_eq_iff hgroups
  refine ⟨⟨opened, hopened, hnodup, hsublist⟩, hcompiled.nodup_parameters, hnames, horder, ?_, ?_⟩
  · intro hconfined
    obtain ⟨rows, hlaid⟩ := laidOut_of_compile hcompile hconfined
    have hrow : groups = rows.flatten.flatMap Expr.captureNames := by
      simp only [groups, hlaid.expr, Expr.captureNames_concat]
      simp [Expr.captureNames]
    rw [hrow] at hgroups
    refine ⟨rows, hlaid, ?_⟩
    rw [horder, hrow]
    exact Segment.starts_iff_capturesFirst hlaid.reads hgroups
  · intro path params hparams
    exact map_entries_sublist hparams

/-- A capture before a fragment that names a group: both are listed as they open. -/
theorem parameters_order_capture_first :
    ∃ pattern, compile "regex:(?P<year>[0-9]+)" "/int:day/" = .ok pattern ∧
      pattern.parameters.map (·.name) = pattern.expr.captureNames ∧
      (pattern.parameters.map (·.name)).Nodup := by
  have hnames : (compile "regex:(?P<year>[0-9]+)" "/int:day/").toOption.map
      (·.expr.captureNames) = some ["day", "year"] := by decide +kernel
  have hsegments : Template.segments ("/int:day/" ++ "regex:(?P<year>[0-9]+)") =
      [.capture "day".toList .int, .fragment "(?P<year>[0-9]+)".toList] := by decide +kernel
  cases hcompile : compile "regex:(?P<year>[0-9]+)" "/int:day/" with
  | error e => rw [hcompile] at hnames; cases hnames
  | ok pattern =>
    rw [hcompile] at hnames
    have hgroups : pattern.expr.captureNames = ["day", "year"] := Option.some.inj hnames
    have horder := parameters_order hcompile
    dsimp only at horder
    obtain ⟨-, hnodup, -, hiff, -⟩ := horder
    refine ⟨pattern, rfl, hiff.mpr ?_, hnodup⟩
    rw [hsegments, hgroups]
    exact ⟨["year"], rfl⟩

/-- A capture behind a fragment that names a group is listed before the group, although it opens after
    it. -/
theorem parameters_out_of_order :
    ∃ pattern, compile "/regex:(?P<year>[0-9]+)/int:day" "" = .ok pattern ∧
      Expr.openedNames pattern.expression.toList = .ok ["year", "day"] ∧
      pattern.parameters.map (·.name) = ["day", "year"] ∧
      pattern.params? "/1999/7" = some ⟨[("day", "7"), ("year", "1999")]⟩ := by
  let digits (greedy : Bool) : Expr := .repeat 1 none greedy (.one CaptureKind.int.cls)
  have hrun : (compile "/regex:(?P<year>[0-9]+)/int:day" "").toOption.map (fun pattern =>
      ((Expr.openedNames pattern.expression.toList).toOption, pattern.parameters, pattern.expr)) =
      some (some ["year", "day"], [⟨"day", .int⟩, ⟨"year", .fragment⟩],
        .concat [.look .textStart, .literal ['/'], .capture 1 (some "year") (digits true),
          .literal ['/'], .capture 2 (some "day") (digits false), .look .textEnd]) := by
    decide +kernel
  cases hcompile : compile "/regex:(?P<year>[0-9]+)/int:day" "" with
  | error e => rw [hcompile] at hrun; cases hrun
  | ok pattern =>
    rw [hcompile] at hrun
    obtain ⟨hopened, hrest⟩ := Prod.mk.inj (Option.some.inj hrun)
    obtain ⟨hparameters, hexpr⟩ := Prod.mk.inj hrest
    refine ⟨pattern, rfl, ?_, ?_, ?_⟩
    · cases hnames : Expr.openedNames pattern.expression.toList with
      | error e => rw [hnames] at hopened; cases hopened
      | ok names => rw [hnames] at hopened; exact congrArg Except.ok (Option.some.inj hopened)
    · rw [hparameters]
      rfl
    · rw [params?, hparameters, hexpr]
      cbv

end Pattern

end HttpRouter
