import HttpRouter.Proofs.Router.Record

namespace HttpRouter

variable {World : Type}

/-- Whether a route matches a path and takes a method. Only then is its guard looked at. -/
def Route.isCandidate (route : Route World) (path : String) (method : Http.Method) : Bool :=
  route.pattern.isMatch path && route.options.accepts method

/-- A pattern matches a path exactly when it yields parameters of it. -/
theorem Pattern.isMatch_eq_isSome (pattern : Pattern) (path : String) :
    pattern.isMatch path = (pattern.params? path).isSome := by
  simp [Pattern.isMatch, Pattern.params?]

/-- A candidate yields parameters of the path and takes the method. -/
theorem Route.exists_params_of_candidate {route : Route World} {path : String} {method : Http.Method}
    (hcandidate : route.isCandidate path method = true) :
    ∃ params, route.pattern.params? path = some params ∧ route.options.accepts method = true := by
  rw [isCandidate, Bool.and_eq_true, Pattern.isMatch_eq_isSome] at hcandidate
  obtain ⟨params, hparams⟩ := Option.isSome_iff_exists.mp hcandidate.1
  exact ⟨params, hparams, hcandidate.2⟩

/-- Whether a guard that looks at the current user lets a request pass. -/
def Guard.admits : Guard World → Bool → Bool
  | authenticated, present => present
  | anonymous, present => !present
  | custom _, _ => false

/-- The events of leaving a route behind: none if it does not match the path, and else that it does
    not take the method or that its guard refuses the request. -/
def Route.passingEvents (path : String) (method : Http.Method) (route : Route World) : List Event :=
  if route.pattern.isMatch path then
    if route.options.accepts method then [.guardRefused route.pattern.template]
    else [.verbRejected route.pattern.template method.name]
  else []

theorem Route.passingEvents_of_candidate {path : String} {method : Http.Method} {route : Route World}
    (hcandidate : route.isCandidate path method = true) :
    route.passingEvents path method = [.guardRefused route.pattern.template] := by
  rw [Route.isCandidate, Bool.and_eq_true] at hcandidate
  rw [Route.passingEvents, if_pos hcandidate.1, if_pos hcandidate.2]

theorem Route.passingEvents_of_not_candidate {path : String} {method : Http.Method}
    {route : Route World} (hcandidate : route.isCandidate path method = false) :
    route.passingEvents path method =
      if route.pattern.isMatch path then [.verbRejected route.pattern.template method.name]
      else [] := by
  cases hmatch : route.pattern.isMatch path with
  | false => simp [Route.passingEvents, hmatch]
  | true =>
    have haccepts : route.options.accepts method = false := by
      simpa [Route.isCandidate, hmatch] using hcandidate
    simp [Route.passingEvents, hmatch, haccepts]

/-- How a guard comes to its verdict, with the calls that this takes and what is known of the user
    before and after. Only a guard that looks at the user has the user looked up, and only once. -/
inductive Guard.Judged (index : Nat) :
    Option (Guard World) → Router.Presence → List Consultation → Router.Presence → Bool → Prop
  | absent (presence : Router.Presence) : Judged index none presence [] presence true
  | known (guard : Guard World) (present : Bool) (hneeds : guard.needsUser = true) :
      Judged index (some guard) (some present) [] (some present) (guard.admits present)
  | lookedUp (guard : Guard World) (user : Option User) (hneeds : guard.needsUser = true) :
      Judged index (some guard) none [.lookup (.ok (.answered user))] (some user.isSome)
        (guard.admits user.isSome)
  | predicate (f : Call World Bool) (presence : Router.Presence) (verdict : Bool) :
      Judged index (some (.custom f)) presence [.predicate index (.ok verdict)] presence verdict

/-- How a guard can fail to come to a verdict, with the calls made until then and the panic or the
    error that comes of it. -/
inductive Guard.Stuck (budget index : Nat) :
    Option (Guard World) → Router.Presence → List Consultation → Except Panic RouterError → Prop
  | timedOut (guard : Guard World) (hneeds : guard.needsUser = true) :
      Stuck budget index (some guard) none [.lookup (.ok .never)] (.ok (.guardTimeout budget))
  | lookupPanicked (guard : Guard World) (panic : Panic) (hneeds : guard.needsUser = true) :
      Stuck budget index (some guard) none [.lookup (.error panic)] (.error panic)
  | predicatePanicked (f : Call World Bool) (presence : Router.Presence) (panic : Panic) :
      Stuck budget index (some (.custom f)) presence [.predicate index (.error panic)]
        (.error panic)

/-- How routes are tried in order from an index on, given what is known of the user: how many of
    them are left behind, the calls made, and what the search ends in. -/
inductive Router.Scan (router : Router World) (path : String) (method : Http.Method) :
    Nat → List (Route World) → Router.Presence → Nat → List Consultation → Outcome World → Prop
  | exhausted (index : Nat) (presence : Router.Presence) :
      Scan router path method index [] presence 0 [] (.ok (.ok .default))
  | passedOver {index reached : Nat} {route : Route World} {rest : List (Route World)}
      {presence : Router.Presence} {calls : List Consultation} {outcome : Outcome World}
      (hcandidate : route.isCandidate path method = false)
      (hrest : Scan router path method (index + 1) rest presence reached calls outcome) :
      Scan router path method index (route :: rest) presence (reached + 1) calls outcome
  | accepted {index : Nat} {route : Route World} {rest : List (Route World)}
      {presence known : Router.Presence} {calls : List Consultation} {params : Params}
      (hcandidate : route.isCandidate path method = true)
      (hparams : route.pattern.params? path = some params)
      (hjudged : Guard.Judged index route.options.guard presence calls known true) :
      Scan router path method index (route :: rest) presence 0 calls
        (.ok (.ok (.matched index route params)))
  | redirected {index : Nat} {route : Route World} {rest : List (Route World)}
      {presence known : Router.Presence} {calls : List Consultation} {target : String}
      (hcandidate : route.isCandidate path method = true)
      (hjudged : Guard.Judged index route.options.guard presence calls known false)
      (hfallback : route.options.fallback = some target) :
      Scan router path method index (route :: rest) presence 0 calls
        (.ok (.ok (.redirect (router.redirectLocation target))))
  | refused {index reached : Nat} {route : Route World} {rest : List (Route World)}
      {presence known : Router.Presence} {calls later : List Consultation}
      {outcome : Outcome World}
      (hcandidate : route.isCandidate path method = true)
      (hjudged : Guard.Judged index route.options.guard presence calls known false)
      (hfallback : route.options.fallback = none)
      (hrest : Scan router path method (index + 1) rest known reached later outcome) :
      Scan router path method index (route :: rest) presence (reached + 1) (calls ++ later) outcome
  | failed {index : Nat} {route : Route World} {rest : List (Route World)}
      {presence : Router.Presence} {calls : List Consultation} {halt : Except Panic RouterError}
      (hcandidate : route.isCandidate path method = true)
      (hstuck : Guard.Stuck router.settings.lookupBudget index route.options.guard presence calls
        halt) :
      Scan router path method index (route :: rest) presence 0 calls (halt.map .error)

namespace Router

/-- What judging a candidate route gives: what is then known of the user, and the verdict. -/
abbrev Judgement := Presence × Verdict

/-- Judges a candidate route: the user is looked up if need be, and the guard gives its verdict. -/
def judge (router : Router World) (request : Http.Request) (options : RouteOptions World)
    (presence : Presence) (world : World) : Run World (Except RouterError Judgement) :=
  let lookup := router.lookUp request options presence world
  match lookup.outcome with
  | .error panic => ⟨.error panic, lookup.events, lookup.world⟩
  | .ok (.error e) => ⟨.ok (.error e), lookup.events, lookup.world⟩
  | .ok (.ok known) =>
    match options.evaluate (known.getD false) lookup.world with
    | (.error panic, world) => ⟨.error panic, [], world⟩
    | (.ok verdict, world) => ⟨.ok (.ok (known, verdict)), [], world⟩

/-- A route that is no candidate takes no part in the search, but for an event. -/
theorem search_passedOver (router : Router World) (request : Http.Request) (path : String)
    (index : Nat) (route : Route World) (rest : List (Route World)) (presence : Presence)
    (world : World) (hcandidate : route.isCandidate path request.method = false) :
    router.search request path index (route :: rest) presence world =
      (router.search request path (index + 1) rest presence world).after
        (if route.pattern.isMatch path then
          [.verbRejected route.pattern.template request.method.name] else []) := by
  rw [search]
  cases hparams : route.pattern.params? path with
  | none =>
    have hmatch : route.pattern.isMatch path = false := by
      simp [Pattern.isMatch_eq_isSome, hparams]
    simp [hmatch, Run.after]
  | some params =>
    have hmatch : route.pattern.isMatch path = true := by
      simp [Pattern.isMatch_eq_isSome, hparams]
    have haccepts : route.options.accepts request.method = false := by
      simpa [Route.isCandidate, hmatch] using hcandidate
    simp [hmatch, haccepts]

/-- A candidate route is judged, and its verdict settles the request or lets the search go on. -/
theorem search_candidate (router : Router World) (request : Http.Request) (path : String)
    (index : Nat) (route : Route World) (rest : List (Route World)) (presence : Presence)
    (world : World) (params : Params) (hparams : route.pattern.params? path = some params)
    (haccepts : route.options.accepts request.method = true) :
    router.search request path index (route :: rest) presence world =
      let judged := router.judge request route.options presence world
      match judged.outcome with
      | .error panic => ⟨.error panic, judged.events, judged.world⟩
      | .ok (.error e) => ⟨.ok (.error e), judged.events, judged.world⟩
      | .ok (.ok (_, .accepted)) =>
        ⟨.ok (.ok (.matched index route params)),
          [.routeMatched index route.pattern.template path], judged.world⟩
      | .ok (.ok (_, .rejected (some target))) =>
        ⟨.ok (.ok (.redirect (router.redirectLocation target))),
          [.guardRedirected route.pattern.template (router.redirectLocation target)], judged.world⟩
      | .ok (.ok (known, .rejected none)) =>
        (router.search request path (index + 1) rest known judged.world).after
          [.guardRefused route.pattern.template] := by
  rw [search]
  simp only [hparams, haccepts, Bool.not_true, Bool.false_eq_true, if_false, judge]
  cases hlookup : (router.lookUp request route.options presence world).outcome with
  | error panic => rfl
  | ok answer =>
    cases answer with
    | error e => rfl
    | ok known =>
      simp only
      rcases route.options.evaluate (known.getD false)
        (router.lookUp request route.options presence world).world with ⟨_ | verdict, world'⟩
      · rfl
      · rcases verdict with _ | _ | target <;> rfl

/-- The verdict that a guard comes to, when it lets the request pass or not. -/
def verdictOf (options : RouteOptions World) (passes : Bool) : Verdict :=
  if passes then .accepted else .rejected options.fallback

/-- A guard that looks at the user comes to its verdict without a call of its own. -/
theorem evaluate_of_needsUser {options : RouteOptions World} {guard : Guard World}
    (hguard : options.guard = some guard) (hneeds : guard.needsUser = true) (present : Bool)
    (world : World) :
    options.evaluate present world = (.ok (verdictOf options (guard.admits present)), world) := by
  cases guard with
  | authenticated =>
    cases present <;> simp [RouteOptions.evaluate, hguard, Guard.check, Call.answering, verdictOf,
      Guard.admits]
  | anonymous =>
    cases present <;> simp [RouteOptions.evaluate, hguard, Guard.check, Call.answering, verdictOf,
      Guard.admits]
  | custom predicate => cases hneeds

/-- The same with notes. -/
theorem evaluate_recorded_of_needsUser {options : RouteOptions World} {guard : Guard World}
    (hguard : options.guard = some guard) (hneeds : guard.needsUser = true) (index : Nat)
    (present : Bool) (world : Recorded World) :
    (options.recorded index).evaluate present world =
      (.ok (verdictOf options (guard.admits present)), world) := by
  have hrecorded : (options.recorded index).guard = some (guard.recorded index) := by
    simp [RouteOptions.recorded, hguard]
  rw [evaluate_of_needsUser hrecorded (by simpa using hneeds)]
  cases guard <;> rfl

/-- How judging a candidate route ends: in a verdict, or stuck. Noting its calls changes neither. -/
def Judges (router : Router World) (request : Http.Request) (index : Nat)
    (options : RouteOptions World) (presence : Presence) (world : World)
    (record : List Consultation) : Prop :=
  ∃ calls world', (∃ known passes, Guard.Judged index options.guard presence calls known passes ∧
      router.judge request options presence world =
        ⟨.ok (.ok (known, verdictOf options passes)), [], world'⟩ ∧
      router.recorded.judge request (options.recorded index) presence (world, record) =
        ⟨.ok (.ok (known, verdictOf options passes)), [], (world', record ++ calls)⟩) ∨
    ∃ halt events, Guard.Stuck router.settings.lookupBudget index options.guard presence calls halt ∧
      router.judge request options presence world = ⟨halt.map .error, events, world'⟩ ∧
      router.recorded.judge request (options.recorded index) presence (world, record) =
        ⟨halt.map .error, events, (world', record ++ calls)⟩

section Judging

variable (router : Router World) (request : Http.Request) (index : Nat)
  (options : RouteOptions World) (presence : Presence) (world : World) (record : List Consultation)

private theorem judges_of_unguarded (hguard : options.guard = none) :
    Judges router request index options presence world record := by
  have hjudged : Guard.Judged index options.guard presence [] presence true := by
    rw [hguard]
    exact .absent presence
  refine ⟨[], world, .inl ⟨presence, true, hjudged, ?_, ?_⟩⟩
  · simp [judge, lookUp, RouteOptions.evaluate, hguard, Call.answering, verdictOf]
  · simp [judge, lookUp, RouteOptions.evaluate, RouteOptions.recorded, hguard, Call.answering,
      verdictOf]

private theorem judges_of_custom {predicate : Call World Bool}
    (hguard : options.guard = some (.custom predicate)) :
    Judges router request index options presence world record := by
  rcases hanswer : predicate world with ⟨panic | verdict, world'⟩
  · have hstuck : Guard.Stuck router.settings.lookupBudget index options.guard presence
        [.predicate index (.error panic)] (.error panic) := by
      rw [hguard]
      exact .predicatePanicked predicate presence panic
    refine ⟨_, world', .inr ⟨.error panic, [], hstuck, ?_, ?_⟩⟩
    · simp [judge, lookUp, RouteOptions.evaluate, hguard, Guard.check, Guard.needsUser, hanswer,
        Except.map]
    · simp [judge, lookUp, RouteOptions.evaluate, RouteOptions.recorded, hguard, Guard.recorded,
        Guard.check, Guard.needsUser, Call.noted, hanswer, Except.map]
  · have hjudged : Guard.Judged index options.guard presence [.predicate index (.ok verdict)]
        presence verdict := by
      rw [hguard]
      exact .predicate predicate presence verdict
    refine ⟨_, world', .inl ⟨presence, verdict, hjudged, ?_, ?_⟩⟩
    · cases verdict <;> simp [judge, lookUp, RouteOptions.evaluate, hguard, Guard.check,
        Guard.needsUser, hanswer, verdictOf]
    · cases verdict <;> simp [judge, lookUp, RouteOptions.evaluate, RouteOptions.recorded, hguard,
        Guard.recorded, Guard.check, Guard.needsUser, Call.noted, hanswer, verdictOf]

private theorem judges_of_known {guard : Guard World} {present : Bool}
    (hguard : options.guard = some guard) (hneeds : guard.needsUser = true)
    (hpresence : presence = some present) :
    Judges router request index options presence world record := by
  have hjudged : Guard.Judged index options.guard presence [] presence (guard.admits present) := by
    rw [hguard, hpresence]
    exact .known guard present hneeds
  refine ⟨[], world, .inl ⟨presence, guard.admits present, hjudged, ?_, ?_⟩⟩
  · simp [judge, lookUp, hpresence, evaluate_of_needsUser hguard hneeds]
  · simp [judge, lookUp, hpresence, evaluate_recorded_of_needsUser hguard hneeds]

private theorem judges_of_unknown {guard : Guard World} (hguard : options.guard = some guard)
    (hneeds : guard.needsUser = true) (hpresence : presence = none) :
    Judges router request index options presence world record := by
  subst hpresence
  rcases hanswer : router.authenticator request world with ⟨panic | ⟨user⟩ | _, world'⟩
  · have hstuck : Guard.Stuck router.settings.lookupBudget index options.guard none
        [.lookup (.error panic)] (.error panic) := by
      rw [hguard]
      exact .lookupPanicked guard panic hneeds
    refine ⟨_, world', .inr ⟨.error panic, [], hstuck, ?_, ?_⟩⟩
    · simp [judge, lookUp, hguard, hneeds, hanswer, Except.map]
    · simp [judge, lookUp, recorded, hguard, hneeds, Call.noted, hanswer, Except.map]
  · have hjudged : Guard.Judged index options.guard none [.lookup (.ok (.answered user))]
        (some user.isSome) (guard.admits user.isSome) := by
      rw [hguard]
      exact .lookedUp guard user hneeds
    refine ⟨_, world', .inl ⟨some user.isSome, guard.admits user.isSome, hjudged, ?_, ?_⟩⟩
    · simp [judge, lookUp, hguard, hneeds, hanswer, evaluate_of_needsUser hguard hneeds]
    · simp [judge, lookUp, recorded, hguard, hneeds, Call.noted, hanswer,
        evaluate_recorded_of_needsUser hguard hneeds]
  · have hstuck : Guard.Stuck router.settings.lookupBudget index options.guard none
        [.lookup (.ok .never)] (.ok (.guardTimeout router.settings.lookupBudget)) := by
      rw [hguard]
      exact .timedOut guard hneeds
    refine ⟨_, world', .inr ⟨.ok (.guardTimeout router.settings.lookupBudget),
      [.lookupTimedOut router.settings.lookupBudget], hstuck, ?_, ?_⟩⟩
    · simp [judge, lookUp, hguard, hneeds, hanswer, Except.map]
    · simp [judge, lookUp, recorded, hguard, hneeds, Call.noted, hanswer, Except.map]

/-- Judging a candidate ends in a verdict or gets stuck. -/
theorem judges : Judges router request index options presence world record := by
  cases hguard : options.guard with
  | none => exact judges_of_unguarded router request index options presence world record hguard
  | some guard =>
    cases hneeds : guard.needsUser with
    | false =>
      cases guard with
      | authenticated => cases hneeds
      | anonymous => cases hneeds
      | custom predicate =>
        exact judges_of_custom router request index options presence world record hguard
    | true =>
      cases hpresence : presence with
      | none => exact judges_of_unknown router request index options none world record hguard hneeds rfl
      | some present =>
        exact judges_of_known router request index options _ world record hguard hneeds rfl

end Judging

/-- Routes behind the one that ends a search may be replaced by any others. -/
def IgnoresLater (router : Router World) (request : Http.Request) (path : String) (index : Nat)
    (routes : List (Route World)) (presence : Presence) (world : World) (reached : Nat) : Prop :=
  reached < routes.length → ∀ later,
    router.search request path index (routes.take (reached + 1) ++ later) presence world =
      router.search request path index routes presence world

/-- The event that closes a search, by the route it ends at, the index of that route and what the
    search ends in. A panic is told elsewhere. -/
inductive Closes (path : String) (index : Nat) :
    Option (Route World) → Outcome World → List Event → Prop
  | matched (route : Route World) (params : Params) :
      Closes path index (some route) (.ok (.ok (.matched index route params)))
        [.routeMatched index route.pattern.template path]
  | redirected (route : Route World) (location : String) :
      Closes path index (some route) (.ok (.ok (.redirect location)))
        [.guardRedirected route.pattern.template location]
  | exhausted : Closes path index none (.ok (.ok .default)) [.nothingMatched path]
  | timedOut (route : Route World) (budget : Nat) :
      Closes path index (some route) (.ok (.error (.guardTimeout budget))) [.lookupTimedOut budget]
  | panicked (route : Route World) (panic : Panic) : Closes path index (some route) (.error panic) []

/-- A search tells of the routes it leaves behind, in their order, and then how it ends. -/
def Tells (path : String) (method : Http.Method) (index : Nat) (routes : List (Route World))
    (reached : Nat) (run : Run World (Except RouterError (Resolution World))) : Prop :=
  ∃ closing, Closes path (index + reached) routes[reached]? run.outcome closing ∧
    run.events = (routes.take reached).flatMap (·.passingEvents path method) ++ closing

/-- A search that leaves the first route behind tells of it before anything else. -/
theorem Tells.after {path : String} {method : Http.Method} {index reached : Nat}
    {routes : List (Route World)} {run : Run World (Except RouterError (Resolution World))}
    (h : Tells path method (index + 1) routes reached run) (route : Route World) :
    Tells path method index (route :: routes) (reached + 1)
      (run.after (route.passingEvents path method)) := by
  obtain ⟨closing, hcloses, hevents⟩ := h
  rw [Nat.add_right_comm, Nat.add_assoc] at hcloses
  refine ⟨closing, hcloses, ?_⟩
  rw [List.take_succ_cons, List.flatMap_cons, List.append_assoc, ← hevents]
  rfl

/-- A lookup comes to an answer, panics or is given up, and only the last of these is told. -/
theorem lookUp_cases (router : Router World) (request : Http.Request) (options : RouteOptions World)
    (presence : Presence) (world : World) :
    ∃ world', (∃ known, router.lookUp request options presence world =
        ⟨.ok (.ok known), [], world'⟩) ∨
      (∃ panic, router.lookUp request options presence world = ⟨.error panic, [], world'⟩) ∨
      ∃ budget, router.lookUp request options presence world =
        ⟨.ok (.error (.guardTimeout budget)), [.lookupTimedOut budget], world'⟩ := by
  unfold lookUp
  split
  · split
    · exact ⟨_, .inl ⟨_, rfl⟩⟩
    · exact ⟨_, .inr (.inr ⟨_, rfl⟩)⟩
    · exact ⟨_, .inr (.inl ⟨_, rfl⟩)⟩
  · exact ⟨_, .inl ⟨_, rfl⟩⟩

/-- Judging a candidate without coming to a verdict tells of a lookup that does not answer, and of
    nothing else. -/
theorem closes_of_judge {router : Router World} {request : Http.Request} {route : Route World}
    {presence : Presence} {world world' : World} {halt : Except Panic RouterError}
    {events : List Event}
    (hjudge : router.judge request route.options presence world =
      ⟨halt.map .error, events, world'⟩) (path : String) (index : Nat) :
    Closes path index (some route) (halt.map .error) events := by
  unfold judge at hjudge
  obtain ⟨before, ⟨known, hlookup⟩ | ⟨panic, hlookup⟩ | ⟨budget, hlookup⟩⟩ :=
    router.lookUp_cases request route.options presence world
  · rw [hlookup] at hjudge
    dsimp only at hjudge
    split at hjudge
    · cases halt <;> cases hjudge
      exact .panicked route _
    · cases halt <;> cases hjudge
  · rw [hlookup] at hjudge
    cases halt <;> cases hjudge
    exact .panicked route panic
  · rw [hlookup] at hjudge
    cases halt <;> cases hjudge
    exact .timedOut route budget

/-- Every search is a scan, whatever foreign code answers, and tells how it goes. The notes of its
    calls change nothing, and neither do the routes it does not come to. -/
theorem search_scan (router : Router World) (request : Http.Request) (path : String)
    (routes : List (Route World)) (index : Nat) (presence : Presence) (world : World)
    (record : List Consultation) :
    ∃ reached calls, router.Scan path request.method index routes presence reached calls
        (router.search request path index routes presence world).outcome ∧
      Echoes (router.search request path index routes presence world)
        (router.recorded.search request path index (Route.recordedFrom index routes) presence
          (world, record)) record calls ∧
      router.IgnoresLater request path index routes presence world reached ∧
      Tells path request.method index routes reached
        (router.search request path index routes presence world) := by
  induction routes generalizing index presence world record with
  | nil =>
    refine ⟨0, [], .exhausted index presence, ?_, ?_, ?_⟩
    · exact ⟨rfl, rfl, by simp [search]⟩
    · intro hreached
      cases hreached
    · exact ⟨_, .exhausted, rfl⟩
  | cons route rest ih =>
    rw [Route.recordedFrom_cons]
    cases hcandidate : route.isCandidate path request.method with
    | false =>
      have hnoted : (route.recorded index).isCandidate path request.method = false := hcandidate
      obtain ⟨reached, calls, hscan, hechoes, hlater, htells⟩ :=
        ih (index + 1) presence world record
      rw [search_passedOver _ _ _ _ _ _ _ _ hcandidate, search_passedOver _ _ _ _ _ _ _ _ hnoted]
      refine ⟨reached + 1, calls, .passedOver hcandidate hscan, hechoes.after _, ?_, ?_⟩
      · intro hreached later
        rw [List.take_succ_cons, List.cons_append, search_passedOver _ _ _ _ _ _ _ _ hcandidate,
          search_passedOver _ _ _ _ _ _ _ _ hcandidate, hlater (by simpa using hreached) later]
      · rw [← Route.passingEvents_of_not_candidate hcandidate]
        exact htells.after route
    | true =>
      obtain ⟨params, hparams, haccepts⟩ := route.exists_params_of_candidate hcandidate
      have hsearch := fun rest => search_candidate router request path index route rest presence world
        params hparams haccepts
      rw [search_candidate router.recorded request path index (route.recorded index) _ presence _ params
        hparams haccepts]
      simp only [IgnoresLater, List.take_succ_cons, List.cons_append, hsearch]
      obtain ⟨calls, world', ⟨known, passes, hjudged, hplain, hnoted⟩ | ⟨halt, events, hstuck, hplain,
        hnoted⟩⟩ := judges router request index route.options presence world record
      · rw [hplain, Route.options_recorded, hnoted]
        cases passes with
        | true =>
          refine ⟨0, calls, .accepted hcandidate hparams hjudged, ?_, fun _ _ => rfl, ?_⟩
          · exact ⟨rfl, rfl, rfl⟩
          · exact ⟨_, .matched route params, rfl⟩
        | false =>
          cases hfallback : route.options.fallback with
          | some target =>
            simp only [verdictOf, hfallback, Bool.false_eq_true, if_false]
            refine ⟨0, calls, .redirected hcandidate hjudged hfallback, ?_, fun _ _ => trivial, ?_⟩
            · exact ⟨rfl, rfl, rfl⟩
            · exact ⟨_, .redirected route _, rfl⟩
          | none =>
            simp only [verdictOf, hfallback, Bool.false_eq_true, if_false]
            obtain ⟨reached, later, hscan, hechoes, hlater, htells⟩ :=
              ih (index + 1) known world' (record ++ calls)
            refine ⟨reached + 1, calls ++ later, .refused hcandidate hjudged hfallback hscan, ?_, ?_,
              ?_⟩
            · have hafter := hechoes.after [.guardRefused route.pattern.template]
              exact ⟨hafter.outcome, hafter.events, by simpa using hafter.world⟩
            · intro hreached later
              rw [hlater (by simpa using hreached) later]
            · rw [← Route.passingEvents_of_candidate hcandidate]
              exact htells.after route
      · rw [hplain, Route.options_recorded, hnoted]
        have hcloses := closes_of_judge hplain path index
        refine ⟨0, calls, ?_, ?_, ?_, ?_⟩
        · cases halt <;> exact .failed hcandidate hstuck
        · cases halt <;> exact ⟨rfl, rfl, rfl⟩
        · cases halt <;> simp [Except.map]
        · cases halt <;> exact ⟨_, hcloses, rfl⟩

end Router

end HttpRouter
