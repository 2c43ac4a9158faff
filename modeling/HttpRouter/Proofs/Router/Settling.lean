import HttpRouter.Proofs.Router.Scan
import Mathlib.Data.Nat.Basic
import Mathlib.Order.Bounds.Defs

namespace HttpRouter

namespace Consultation

/-- The route whose predicate is called. -/
def predicate? : Consultation → Option Nat
  | predicate index _ => some index
  | _ => none

/-- The answer of the lookup. -/
def lookup? : Consultation → Option (Except Panic Lookup)
  | lookup answer => some answer
  | _ => none

/-- Whether there is a current user, if the lookup came to an answer. -/
def presence? : Consultation → Option Bool
  | lookup (.ok (.answered user)) => some user.isSome
  | _ => none

/-- The verdict of the predicate of a route, if it is the one that is called and it answers. -/
def verdict? (index : Nat) : Consultation → Option Bool
  | predicate i (.ok verdict) => if i = index then some verdict else none
  | _ => none

end Consultation

variable {World : Type}

/-- Whether there is a current user, by the first lookup of a record that came to an answer. -/
def Router.presenceIn (record : List Consultation) : Router.Presence :=
  record.findSome? (·.presence?)

/-- Whether the guard of a route lets the request pass, by the answers in a record. No guard lets
    every request pass. There is no verdict if foreign code was not asked. -/
def RouteOptions.verdictIn (options : RouteOptions World) (record : List Consultation) (index : Nat) :
    Option Bool :=
  match options.guard with
  | none => some true
  | some .authenticated => Router.presenceIn record
  | some .anonymous => (Router.presenceIn record).map (!·)
  | some (.custom _) => record.findSome? (·.verdict? index)

/-- Whether a route settles a request: it is a candidate whose guard lets the request pass, or
    refuses it and names a place to go to. -/
def Route.Decisive (route : Route World) (record : List Consultation) (path : String)
    (method : Http.Method) (index : Nat) : Prop :=
  route.isCandidate path method = true ∧
    (route.options.verdictIn record index = some true ∨
      route.options.verdictIn record index = some false ∧ route.options.fallback.isSome = true)

/-- Whether a route lets a search go on: it is no candidate, or its guard refuses the request
    without naming a place to go to. -/
def Route.PassedOver (route : Route World) (record : List Consultation) (path : String)
    (method : Http.Method) (index : Nat) : Prop :=
  route.isCandidate path method = true →
    route.options.verdictIn record index = some false ∧ route.options.fallback = none

/-- Whether judging a route calls a predicate. -/
def Route.callsPredicate (route : Route World) (path : String) (method : Http.Method) : Bool :=
  route.isCandidate path method && route.options.guard.any fun guard => !guard.needsUser

/-- The routes that call a predicate, by their indices from a given one on. -/
def Route.predicatesFrom (path : String) (method : Http.Method) (index : Nat)
    (routes : List (Route World)) : List Nat :=
  ((routes.zipIdx index).filter fun (route, _) => route.callsPredicate path method).map (·.2)

/-- How a candidate route ends a search, by the answers in a record. -/
inductive Route.Ends (router : Router World) (record : List Consultation) (path : String)
    (index : Nat) (route : Route World) : Outcome World → Prop
  | accepted (params : Params) (hparams : route.pattern.params? path = some params)
      (hverdict : route.options.verdictIn record index = some true) :
      Ends router record path index route (.ok (.ok (.matched index route params)))
  | redirected (target : String) (hfallback : route.options.fallback = some target)
      (hverdict : route.options.verdictIn record index = some false) :
      Ends router record path index route
        (.ok (.ok (.redirect (router.redirectLocation target))))
  | timedOut (hneeds : route.options.guard.any (·.needsUser) = true)
      (hlookup : Consultation.lookup (.ok .never) ∈ record) :
      Ends router record path index route
        (.ok (.error (.guardTimeout router.settings.lookupBudget)))
  | lookupPanicked (panic : Panic) (hlookup : Consultation.lookup (.error panic) ∈ record) :
      Ends router record path index route (.error panic)
  | predicatePanicked (panic : Panic)
      (hpredicate : Consultation.predicate index (.error panic) ∈ record) :
      Ends router record path index route (.error panic)

theorem Route.predicatesFrom_cons (path : String) (method : Http.Method) (index : Nat)
    (route : Route World) (rest : List (Route World)) :
    Route.predicatesFrom path method index (route :: rest) =
      (if route.callsPredicate path method then [index] else []) ++
        Route.predicatesFrom path method (index + 1) rest := by
  cases hcalls : route.callsPredicate path method with
  | false => simp [Route.predicatesFrom, List.zipIdx_cons, hcalls]
  | true => simp [Route.predicatesFrom, List.zipIdx_cons, hcalls]

/-- A route that is passed over is not decisive. -/
theorem Route.PassedOver.not_decisive {route : Route World} {record : List Consultation}
    {path : String} {method : Http.Method} {index : Nat}
    (h : route.PassedOver record path method index) : ¬route.Decisive record path method index := by
  rintro ⟨hcandidate, hverdict⟩
  obtain ⟨hrefused, hfallback⟩ := h hcandidate
  rw [hrefused, hfallback] at hverdict
  simp at hverdict

namespace Router

/-- What a search knows when it comes to the route of an index: whether there is a current user, by
    the record so far, in which only earlier routes have called their predicates. -/
structure Knows (record : List Consultation) (presence : Presence) (index : Nat) : Prop where
  presence : presenceIn record = presence
  earlier : ∀ i answer, Consultation.predicate i answer ∈ record → i < index

theorem Knows.start : Knows [] none 0 :=
  ⟨rfl, by simp⟩

theorem Knows.next {record : List Consultation} {presence : Presence} {index : Nat}
    (h : Knows record presence index) : Knows record presence (index + 1) :=
  ⟨h.presence, fun i answer hmem => Nat.lt_succ_of_lt (h.earlier i answer hmem)⟩

theorem presenceIn_concat (record : List Consultation) (consultation : Consultation) :
    presenceIn (record ++ [consultation]) = (presenceIn record).or consultation.presence? := by
  rw [presenceIn, List.findSome?_append, List.findSome?_singleton]
  rfl

/-- What the record tells of the user stays so while notes are added. -/
theorem presenceIn_append {record : List Consultation} {present : Bool}
    (h : presenceIn record = some present) (later : List Consultation) :
    presenceIn (record ++ later) = some present := by
  rw [presenceIn, List.findSome?_append]
  rw [presenceIn] at h
  rw [h, Option.some_or]

/-- The verdict of a predicate that has not been called before is the one that is noted next. -/
theorem Knows.findSome?_verdict {record : List Consultation} {presence : Presence} {index : Nat}
    (h : Knows record presence index) (verdict : Bool) (later : List Consultation) :
    (record ++ .predicate index (.ok verdict) :: later).findSome? (·.verdict? index) =
      some verdict := by
  have hnone : record.findSome? (·.verdict? index) = none := by
    rw [List.findSome?_eq_none_iff]
    intro consultation hmem
    cases consultation with
    | lookup answer => rfl
    | handler i => rfl
    | predicate i answer =>
      have hlt := h.earlier i answer hmem
      cases answer with
      | error panic => rfl
      | ok verdict => simp [Consultation.verdict?, Nat.ne_of_lt hlt]
  rw [List.findSome?_append, hnone]
  simp [Consultation.verdict?]

/-- A guard that looks at the user judges by what the record tells of the user. -/
theorem verdictIn_of_needsUser {options : RouteOptions World} {guard : Guard World}
    {record : List Consultation} {present : Bool} (hguard : options.guard = some guard)
    (hneeds : guard.needsUser = true) (hpresent : presenceIn record = some present) (index : Nat) :
    options.verdictIn record index = some (guard.admits present) := by
  cases guard with
  | authenticated => simp [RouteOptions.verdictIn, hguard, hpresent, Guard.admits]
  | anonymous => simp [RouteOptions.verdictIn, hguard, hpresent, Guard.admits]
  | custom predicate => cases hneeds

/-- Once a guard has come to a verdict, the record tells it from then on. -/
theorem Knows.judged {record : List Consultation} {presence known : Presence} {index : Nat}
    {options : RouteOptions World} {calls : List Consultation} {passes : Bool}
    (h : Knows record presence index)
    (hjudged : Guard.Judged index options.guard presence calls known passes) :
    Knows (record ++ calls) known (index + 1) ∧
      ∀ later, options.verdictIn (record ++ calls ++ later) index = some passes := by
  generalize hguard : options.guard = guarded at hjudged
  cases hjudged with
  | absent presence =>
    refine ⟨by simpa using h.next, fun later => ?_⟩
    simp [RouteOptions.verdictIn, hguard]
  | known guard present hneeds =>
    refine ⟨by simpa using h.next, fun later => ?_⟩
    refine verdictIn_of_needsUser hguard hneeds ?_ index
    exact presenceIn_append (by simpa using h.presence) later
  | lookedUp guard user hneeds =>
    have hpresence : presenceIn (record ++ [.lookup (.ok (.answered user))]) = some user.isSome := by
      rw [presenceIn_concat, h.presence]
      rfl
    refine ⟨⟨hpresence, ?_⟩, fun later => ?_⟩
    · intro i answer hmem
      have hmem : Consultation.predicate i answer ∈ record := by simpa using hmem
      exact h.next.earlier i answer hmem
    · exact verdictIn_of_needsUser hguard hneeds (presenceIn_append hpresence later) index
  | predicate f =>
    refine ⟨⟨?_, ?_⟩, fun later => ?_⟩
    · rw [presenceIn_concat, h.presence]
      exact Option.or_none
    · intro i answer hmem
      rw [List.mem_append, List.mem_singleton] at hmem
      obtain hmem | hmem := hmem
      · exact h.next.earlier i answer hmem
      · cases hmem
        exact Nat.lt_succ_self index
    · simp only [RouteOptions.verdictIn, hguard, List.append_assoc, List.singleton_append]
      exact h.findSome?_verdict passes later

/-- How far a search comes, how it ends there and which predicates it calls, by its record. -/
structure Stops (router : Router World) (path : String) (method : Http.Method)
    (record : List Consultation) (index : Nat) (routes : List (Route World)) (reached : Nat)
    (calls : List Consultation) (outcome : Outcome World) : Prop where
  passed : ∀ j route, j < reached → routes[j]? = some route →
    route.PassedOver record path method (index + j)
  ended : reached = routes.length ∧ outcome = .ok (.ok .default) ∨
    ∃ route, routes[reached]? = some route ∧ route.isCandidate path method = true ∧
      route.Ends router record path (index + reached) outcome
  predicates : calls.filterMap (·.predicate?) =
    Route.predicatesFrom path method index (routes.take (reached + 1))

/-- A search that stops behind the first route stops as the search from the second route does. -/
theorem Stops.cons {router : Router World} {path : String} {method : Http.Method}
    {record calls later : List Consultation} {index reached : Nat} {route : Route World}
    {rest : List (Route World)} {outcome : Outcome World}
    (h : Stops router path method record (index + 1) rest reached later outcome)
    (hpassed : route.PassedOver record path method index)
    (hcalls : calls.filterMap (·.predicate?) =
      if route.callsPredicate path method then [index] else []) :
    Stops router path method record index (route :: rest) (reached + 1) (calls ++ later) outcome := by
  refine ⟨?_, ?_, ?_⟩
  · intro j other hj hother
    cases j with
    | zero =>
      cases hother
      exact hpassed
    | succ j =>
      have hlater := h.passed j other (by omega) (by simpa using hother)
      rwa [Nat.add_right_comm] at hlater
  · obtain ⟨hall, houtcome⟩ | ⟨other, hother, hcandidate, hends⟩ := h.ended
    · exact .inl ⟨by simp [hall], houtcome⟩
    · refine .inr ⟨other, by simpa using hother, hcandidate, ?_⟩
      rwa [Nat.add_right_comm] at hends
  · rw [List.filterMap_append, hcalls, h.predicates, List.take_succ_cons, Route.predicatesFrom_cons]

/-- A search that ends at the first route stops there. -/
theorem Stops.here {router : Router World} {path : String} {method : Http.Method}
    {record calls : List Consultation} {index : Nat} {route : Route World}
    {rest : List (Route World)} {outcome : Outcome World}
    (hcandidate : route.isCandidate path method = true)
    (hends : route.Ends router record path index outcome)
    (hcalls : calls.filterMap (·.predicate?) =
      if route.callsPredicate path method then [index] else []) :
    Stops router path method record index (route :: rest) 0 calls outcome := by
  refine ⟨fun j other hj _ => absurd hj (Nat.not_lt_zero j), .inr ⟨route, rfl, hcandidate, hends⟩, ?_⟩
  rw [hcalls, List.take_succ_cons, Route.predicatesFrom_cons]
  simp [Route.predicatesFrom]

/-- Judging a candidate calls the predicate of its guard, if that is one, and no other. -/
theorem judged_predicates {index : Nat} {route : Route World} {path : String} {method : Http.Method}
    {presence known : Presence} {calls : List Consultation} {passes : Bool}
    (hcandidate : route.isCandidate path method = true)
    (hjudged : Guard.Judged index route.options.guard presence calls known passes) :
    calls.filterMap (·.predicate?) = if route.callsPredicate path method then [index] else [] := by
  rw [Route.callsPredicate, hcandidate]
  cases hguard : route.options.guard <;> rw [hguard] at hjudged <;>
    cases hjudged <;> simp_all [Consultation.predicate?, Guard.needsUser]

/-- A guard that gets stuck has called its predicate, if it is one, and no other. -/
theorem stuck_predicates {budget index : Nat} {route : Route World} {path : String}
    {method : Http.Method} {presence : Presence} {calls : List Consultation}
    {halt : Except Panic RouterError} (hcandidate : route.isCandidate path method = true)
    (hstuck : Guard.Stuck budget index route.options.guard presence calls halt) :
    calls.filterMap (·.predicate?) = if route.callsPredicate path method then [index] else [] := by
  rw [Route.callsPredicate, hcandidate]
  cases hguard : route.options.guard <;> rw [hguard] at hstuck <;>
    cases hstuck <;> simp_all [Consultation.predicate?, Guard.needsUser]

/-- A guard that gets stuck ends the search, and the record tells why. -/
theorem stuck_ends {router : Router World} {index : Nat} {route : Route World} {path : String}
    {presence : Presence} {record calls : List Consultation} {halt : Except Panic RouterError}
    (hstuck : Guard.Stuck router.settings.lookupBudget index route.options.guard presence calls halt) :
    route.Ends router (record ++ calls) path index (halt.map .error) := by
  generalize hguard : route.options.guard = guarded at hstuck
  cases hstuck with
  | timedOut guard hneeds => exact .timedOut (by simpa [hguard] using hneeds) (by simp)
  | lookupPanicked guard panic hneeds => exact .lookupPanicked panic (by simp)
  | predicatePanicked f presence panic => exact .predicatePanicked panic (by simp)

/-- The record of a scan tells where it stops and why. -/
theorem Scan.stops {router : Router World} {path : String} {method : Http.Method} {index : Nat}
    {routes : List (Route World)} {presence : Presence} {reached : Nat} {calls : List Consultation}
    {outcome : Outcome World}
    (h : router.Scan path method index routes presence reached calls outcome)
    {record : List Consultation} (hknows : Knows record presence index) :
    Stops router path method (record ++ calls) index routes reached calls outcome := by
  induction h generalizing record with
  | exhausted index presence =>
    refine ⟨fun j route hj _ => absurd hj (Nat.not_lt_zero j), .inl ⟨rfl, rfl⟩, ?_⟩
    simp [Route.predicatesFrom]
  | passedOver hcandidate hrest ih =>
    refine @Stops.cons _ _ _ _ _ [] _ _ _ _ _ _ (ih hknows.next) ?_ ?_
    · intro htrue
      rw [hcandidate] at htrue
      cases htrue
    · simp [Route.callsPredicate, hcandidate]
  | accepted hcandidate hparams hjudged =>
    have hverdict := (hknows.judged hjudged).2 []
    rw [List.append_nil] at hverdict
    exact .here hcandidate (.accepted _ hparams hverdict) (judged_predicates hcandidate hjudged)
  | redirected hcandidate hjudged hfallback =>
    have hverdict := (hknows.judged hjudged).2 []
    rw [List.append_nil] at hverdict
    exact .here hcandidate (.redirected _ hfallback hverdict) (judged_predicates hcandidate hjudged)
  | refused hcandidate hjudged hfallback hrest ih =>
    obtain ⟨hnext, hverdict⟩ := hknows.judged hjudged
    have hstops := ih hnext
    rw [List.append_assoc] at hstops
    refine hstops.cons (fun _ => ⟨?_, hfallback⟩) (judged_predicates hcandidate hjudged)
    rw [← List.append_assoc]
    exact hverdict _
  | failed hcandidate hstuck =>
    exact .here hcandidate (stuck_ends hstuck) (stuck_predicates hcandidate hstuck)

/-- The record of resolving a request holds the calls that the search over all routes notes. -/
theorem resolveRecord_eq {router : Router World} {request : Http.Request} {world : World}
    {calls : List Consultation}
    (hechoes : Echoes
      (router.search request (router.normalizePath request.uri) 0 router.routes none world)
      (router.recorded.search request (router.normalizePath request.uri) 0
        (Route.recordedFrom 0 router.routes) none (world, [])) [] calls) :
    router.resolveRecord request world = calls := by
  rw [resolveRecord, resolve, normalizePath_recorded]
  exact congrArg Prod.snd hechoes.world

/-- Resolving a request is a scan of all routes, and its record holds the calls of that scan. -/
theorem resolve_scan (router : Router World) (request : Http.Request) (world : World) :
    ∃ reached, router.Scan (router.normalizePath request.uri) request.method 0 router.routes none
        reached (router.resolveRecord request world) (router.resolve request world).outcome ∧
      Echoes (router.resolve request world) (router.recorded.resolve request (world, [])) []
        (router.resolveRecord request world) ∧
      router.IgnoresLater request (router.normalizePath request.uri) 0 router.routes none world
        reached := by
  obtain ⟨reached, calls, hscan, hechoes, hlater, -⟩ := router.search_scan request
    (router.normalizePath request.uri) router.routes 0 none world []
  rw [resolveRecord_eq hechoes]
  refine ⟨reached, hscan, ?_, hlater⟩
  rw [resolve, resolve, normalizePath_recorded]
  exact hechoes

/-- The record of resolving a request tells where the search stops and why. -/
theorem resolve_stops (router : Router World) (request : Http.Request) (world : World) :
    ∃ reached, router.Stops (router.normalizePath request.uri) request.method
      (router.resolveRecord request world) 0 router.routes reached
      (router.resolveRecord request world) (router.resolve request world).outcome := by
  obtain ⟨reached, hscan, -, -⟩ := router.resolve_scan request world
  exact ⟨reached, by simpa using hscan.stops Knows.start⟩

/-- Whether the route of an index settles a request, by the record of resolving it. -/
def DecisiveAt (router : Router World) (request : Http.Request) (world : World) (index : Nat) : Prop :=
  ∃ route, router.routes[index]? = some route ∧
    route.Decisive (router.resolveRecord request world) (router.normalizePath request.uri)
      request.method index

/-- Where no route is passed over before the one that is decisive, that one is the first of its
    kind. -/
theorem Stops.isLeast {router : Router World} {request : Http.Request} {world : World} {reached : Nat}
    {outcome : Outcome World}
    (h : router.Stops (router.normalizePath request.uri) request.method
      (router.resolveRecord request world) 0 router.routes reached
      (router.resolveRecord request world) outcome)
    (hdecisive : router.DecisiveAt request world reached) :
    IsLeast {i | router.DecisiveAt request world i} reached := by
  refine ⟨hdecisive, ?_⟩
  rintro i ⟨route, hroute, hroute'⟩
  by_contra hlt
  have hpassed := h.passed i route (by omega) hroute
  rw [Nat.zero_add] at hpassed
  exact hpassed.not_decisive hroute'

/-- When no predicate panics and the lookup, if it is made, comes to an answer, a request is settled
    at the first decisive route: it is handed over to that route with the parameters of its path, or
    sent where that route says. The default handler takes it only if no route is decisive. The
    predicates called are those of the candidates up to the settling route, once each, in order. -/
theorem resolve_first_decisive (router : Router World) (request : Http.Request) (world : World)
    (hpredicates : ∀ index panic,
      Consultation.predicate index (.error panic) ∉ router.resolveRecord request world)
    (hlookup : ∀ answer, Consultation.lookup answer ∈ router.resolveRecord request world →
      ∃ user, answer = .ok (.answered user)) :
    let path := router.normalizePath request.uri
    let record := router.resolveRecord request world
    (∃ index route, router.routes[index]? = some route ∧
      IsLeast {i | router.DecisiveAt request world i} index ∧
      (∀ i (earlier : Route World), i < index → router.routes[i]? = some earlier →
        earlier.PassedOver record path request.method i) ∧
      record.filterMap (·.predicate?) =
        Route.predicatesFrom path request.method 0 (router.routes.take (index + 1)) ∧
      (route.options.verdictIn record index = some true ∧ (∃ params,
          route.pattern.params? path = some params ∧
          (router.resolve request world).outcome = .ok (.ok (.matched index route params))) ∨
        route.options.verdictIn record index = some false ∧ ∃ target,
          route.options.fallback = some target ∧ (router.resolve request world).outcome =
            .ok (.ok (.redirect (router.redirectLocation target))))) ∨
    (∀ index, ¬router.DecisiveAt request world index) ∧
      (∀ i (route : Route World), router.routes[i]? = some route →
        route.PassedOver record path request.method i) ∧
      record.filterMap (·.predicate?) =
        Route.predicatesFrom path request.method 0 router.routes ∧
      (router.resolve request world).outcome = .ok (.ok .default) := by
  intro path record
  obtain ⟨reached, hstops⟩ := router.resolve_stops request world
  have hpassed : ∀ i (earlier : Route World), i < reached → router.routes[i]? = some earlier →
      earlier.PassedOver record path request.method i := by
    intro i earlier hi hearlier
    simpa using hstops.passed i earlier hi hearlier
  obtain ⟨hall, houtcome⟩ | ⟨route, hroute, hcandidate, hends⟩ := hstops.ended
  · right
    have hpassed : ∀ i (route : Route World), router.routes[i]? = some route →
        route.PassedOver record path request.method i := by
      intro i route hroute
      refine hpassed i route ?_ hroute
      have hlt := (List.getElem?_eq_some_iff.mp hroute).1
      omega
    refine ⟨?_, hpassed, ?_, houtcome⟩
    · rintro index ⟨route, hroute, hdecisive⟩
      exact (hpassed index route hroute).not_decisive hdecisive
    · have hpredicates := hstops.predicates
      rwa [List.take_of_length_le (by omega)] at hpredicates
  · left
    rw [Nat.zero_add] at hends
    generalize houtcome : (router.resolve request world).outcome = outcome at hends
    cases hends with
    | accepted params hparams hverdict =>
      have hleast := hstops.isLeast ⟨route, hroute, hcandidate, .inl hverdict⟩
      exact ⟨reached, route, hroute, hleast, hpassed, hstops.predicates,
        .inl ⟨hverdict, params, hparams, rfl⟩⟩
    | redirected target hfallback hverdict =>
      have hleast := hstops.isLeast
        ⟨route, hroute, hcandidate, .inr ⟨hverdict, by simp [hfallback]⟩⟩
      exact ⟨reached, route, hroute, hleast, hpassed, hstops.predicates,
        .inr ⟨hverdict, target, hfallback, rfl⟩⟩
    | timedOut hneeds hmem =>
      obtain ⟨user, hanswer⟩ := hlookup _ hmem
      cases hanswer
    | lookupPanicked panic hmem =>
      obtain ⟨user, hanswer⟩ := hlookup _ hmem
      cases hanswer
    | predicatePanicked panic hmem => exact absurd hmem (hpredicates _ _)

end Router

/-- The pattern of the root path. -/
def Pattern.root : Pattern :=
  ⟨"/", "^/$", .seq (.look .textStart) (.seq (.literal ['/']) (.look .textEnd)), []⟩

theorem Pattern.params?_root : Pattern.root.params? "/" = some ⟨[]⟩ := by
  cbv

/-- A predicate that refuses its first call, lets the second one pass, and so on in turn. -/
def Guard.everyOther : Guard Nat :=
  .custom fun calls => (.ok (calls % 2 == 1), calls + 1)

/-- A route to the root path that knows no page. -/
def Route.toRoot (options : RouteOptions Nat) : Route Nat :=
  { pattern := .root, handler := .notFound, options }

/-- Four routes to the root path: the first and the last one take every other request, the second
    one takes another method, and the third one is for users. -/
def Router.fourDoors : Router Nat :=
  { routes := [.toRoot { guard := some .everyOther }, .toRoot { method := some .post },
      .toRoot { guard := some .authenticated }, .toRoot { guard := some .everyOther }]
    default := .notFound }

theorem Router.resolve_first_decisive_fourDoors :
    Router.fourDoors.resolveRecord { uri := "/" } 0 = [.predicate 0 (.ok false),
      .lookup (.ok (.answered none)), .predicate 3 (.ok true)] ∧
    IsLeast {i | Router.fourDoors.DecisiveAt { uri := "/" } 0 i} 3 := by
  have hpath : Router.fourDoors.normalizePath "/" = "/" := by decide +kernel
  have hrecord : Router.fourDoors.resolveRecord { uri := "/" } 0 = [.predicate 0 (.ok false),
      .lookup (.ok (.answered none)), .predicate 3 (.ok true)] := by
    rw [Router.resolveRecord, Router.resolve]
    simp only [Router.normalizePath_recorded, hpath]
    simp only [Router.search, Router.recorded, Router.fourDoors, Route.toRoot,
      Route.recordedFrom_cons, Route.recordedFrom_nil, Route.pattern_recorded, Pattern.params?_root]
    rfl
  have houtcome : (Router.fourDoors.resolve { uri := "/" } 0).outcome =
      .ok (.ok (.matched 3 (.toRoot { guard := some .everyOther }) ⟨[]⟩)) := by
    rw [Router.resolve]
    simp only [hpath]
    simp only [Router.search, Router.fourDoors, Route.toRoot, Pattern.params?_root]
    rfl
  have hsettled := Router.resolve_first_decisive Router.fourDoors { uri := "/" } 0
    (by rw [hrecord]; simp) (by rw [hrecord]; simp)
  refine ⟨hrecord, ?_⟩
  simp only [houtcome] at hsettled
  obtain ⟨index, route, -, hleast, -, -, ⟨-, params, -, hmatched⟩ | ⟨-, target, -, hredirect⟩⟩ |
    ⟨-, -, -, hdefault⟩ := hsettled
  · cases hmatched
    exact hleast
  · cases hredirect
  · cases hdefault

end HttpRouter
