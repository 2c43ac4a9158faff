import HttpRouter.Proofs.Router.Settling
import Mathlib.Tactic.ByContra

namespace HttpRouter

variable {World : Type}

/-- Whether the guard of a route looks at the current user. -/
def Route.asksUser (route : Route World) : Bool :=
  route.options.guard.any (·.needsUser)

/-- A route that looks at the user adds no predicate to those that are called before it. -/
theorem Route.predicatesFrom_concat_of_asksUser (path : String) (method : Http.Method) (index : Nat)
    (routes : List (Route World)) {route : Route World} (hasks : route.asksUser = true) :
    Route.predicatesFrom path method index (routes ++ [route]) =
      Route.predicatesFrom path method index routes := by
  have hquiet : route.callsPredicate path method = false := by
    cases hguard : route.options.guard with
    | none => simp [Route.callsPredicate, hguard]
    | some guard =>
      have hneeds : guard.needsUser = true := by simpa [Route.asksUser, hguard] using hasks
      simp [Route.callsPredicate, hguard, hneeds]
  induction routes generalizing index with
  | nil => simp [Route.predicatesFrom, hquiet]
  | cons other rest ih =>
    rw [List.cons_append, Route.predicatesFrom_cons, Route.predicatesFrom_cons, ih]

namespace Router

/-- How often the user may still be looked up. -/
def lookupsLeft (presence : Presence) : Nat :=
  if presence.isSome then 0 else 1

/-- A guard that comes to a verdict keeps to the lookups that are left. -/
theorem judged_lookups {index : Nat} {guard : Option (Guard World)} {presence known : Presence}
    {calls : List Consultation} {passes : Bool}
    (h : Guard.Judged index guard presence calls known passes) :
    (calls.filterMap (·.lookup?)).length + lookupsLeft known ≤ lookupsLeft presence := by
  cases h <;> simp [Consultation.lookup?, lookupsLeft]

/-- A guard that gets stuck keeps to the lookups that are left. -/
theorem stuck_lookups {budget index : Nat} {guard : Option (Guard World)} {presence : Presence}
    {calls : List Consultation} {halt : Except Panic RouterError}
    (h : Guard.Stuck budget index guard presence calls halt) :
    (calls.filterMap (·.lookup?)).length ≤ lookupsLeft presence := by
  cases h <;> simp [Consultation.lookup?, lookupsLeft]

/-- A scan keeps to the lookups that are left. -/
theorem Scan.lookups_le {router : Router World} {path : String} {method : Http.Method} {index : Nat}
    {routes : List (Route World)} {presence : Presence} {reached : Nat} {calls : List Consultation}
    {outcome : Outcome World}
    (h : router.Scan path method index routes presence reached calls outcome) :
    (calls.filterMap (·.lookup?)).length ≤ lookupsLeft presence := by
  induction h with
  | exhausted index presence => exact Nat.zero_le _
  | passedOver hcandidate hrest ih => exact ih
  | accepted hcandidate hparams hjudged =>
    have hcalls := judged_lookups hjudged
    omega
  | redirected hcandidate hjudged hfallback =>
    have hcalls := judged_lookups hjudged
    omega
  | refused hcandidate hjudged hfallback hrest ih =>
    have hcalls := judged_lookups hjudged
    rw [List.filterMap_append, List.length_append]
    omega
  | failed hcandidate hstuck => exact stuck_lookups hstuck

/-- A guard that comes to a verdict knows the user if it looks at the user, and had the user looked
    up if that was not known before. -/
theorem judged_asks {index : Nat} {guard : Option (Guard World)} {known : Presence}
    {calls : List Consultation} {passes : Bool}
    (h : Guard.Judged index guard none calls known passes) :
    if guard.any (·.needsUser) then ∃ answer, .lookup answer ∈ calls
    else known = none ∧ ∀ answer, .lookup answer ∉ calls := by
  cases h with
  | absent => simp
  | lookedUp guard user hneeds => simp [hneeds]
  | predicate f => simp [Guard.needsUser]

/-- A guard that gets stuck had the user looked up exactly if it looks at the user. -/
theorem stuck_asks {budget index : Nat} {guard : Option (Guard World)}
    {calls : List Consultation} {halt : Except Panic RouterError}
    (h : Guard.Stuck budget index guard none calls halt) :
    (∃ answer, .lookup answer ∈ calls) ↔ guard.any (·.needsUser) = true := by
  cases h with
  | timedOut guard hneeds => simp [hneeds]
  | lookupPanicked guard panic hneeds => simp [hneeds]
  | predicatePanicked f => simp [Guard.needsUser]

/-- Whether a candidate that looks at the user is among the first routes, up to a position. -/
def AsksWithin (path : String) (method : Http.Method) (routes : List (Route World))
    (reached : Nat) : Prop :=
  ∃ position route, position ≤ reached ∧ routes[position]? = some route ∧
    route.isCandidate path method = true ∧ route.asksUser = true

theorem asksWithin_zero {path : String} {method : Http.Method} {route : Route World}
    {rest : List (Route World)} (hcandidate : route.isCandidate path method = true) :
    AsksWithin path method (route :: rest) 0 ↔ route.asksUser = true := by
  constructor
  · rintro ⟨position, other, hposition, hother, -, hasks⟩
    obtain rfl : position = 0 := by omega
    cases hother
    exact hasks
  · intro hasks
    exact ⟨0, route, Nat.le_refl 0, rfl, hcandidate, hasks⟩

theorem asksWithin_succ {path : String} {method : Http.Method} {route : Route World}
    {rest : List (Route World)} {reached : Nat} :
    AsksWithin path method (route :: rest) (reached + 1) ↔
      route.isCandidate path method = true ∧ route.asksUser = true ∨
        AsksWithin path method rest reached := by
  constructor
  · rintro ⟨position, other, hposition, hother, hcandidate, hasks⟩
    cases position with
    | zero =>
      cases hother
      exact .inl ⟨hcandidate, hasks⟩
    | succ position =>
      exact .inr ⟨position, other, by omega, by simpa using hother, hcandidate, hasks⟩
  · rintro (⟨hcandidate, hasks⟩ | ⟨position, other, hposition, hother, hcandidate, hasks⟩)
    · exact ⟨0, route, Nat.zero_le _, rfl, hcandidate, hasks⟩
    · exact ⟨position + 1, other, by omega, by simpa using hother, hcandidate, hasks⟩

/-- A scan that starts without knowing the user has the user looked up exactly if it comes to a
    candidate that looks at the user. -/
theorem Scan.asks_iff {router : Router World} {path : String} {method : Http.Method} {index : Nat}
    {routes : List (Route World)} {presence : Presence} {reached : Nat} {calls : List Consultation}
    {outcome : Outcome World}
    (h : router.Scan path method index routes presence reached calls outcome)
    (hpresence : presence = none) :
    (∃ answer, .lookup answer ∈ calls) ↔ AsksWithin path method routes reached := by
  have hjudged : ∀ {index : Nat} {route : Route World} {known : Presence}
      {calls : List Consultation} {passes : Bool},
      Guard.Judged index route.options.guard none calls known passes →
        ((∃ answer, .lookup answer ∈ calls) ↔ route.asksUser = true) := by
    intro index route known calls passes hjudged
    have hasks := judged_asks hjudged
    cases huser : route.options.guard.any (·.needsUser) with
    | true => simpa [huser, Route.asksUser] using hasks
    | false => simpa [huser, Route.asksUser] using (by simpa [huser] using hasks : _ ∧ _).2
  induction h with
  | exhausted index presence => simp [AsksWithin]
  | passedOver hcandidate hrest ih =>
    rw [asksWithin_succ, hcandidate]
    simpa using ih hpresence
  | accepted hcandidate hparams hverdict =>
    subst hpresence
    rw [asksWithin_zero hcandidate]
    exact hjudged hverdict
  | redirected hcandidate hverdict hfallback =>
    subst hpresence
    rw [asksWithin_zero hcandidate]
    exact hjudged hverdict
  | refused hcandidate hverdict hfallback hrest ih =>
    subst hpresence
    have hasks := judged_asks hverdict
    have hiff := hjudged hverdict
    rw [asksWithin_succ]
    simp only [List.mem_append, exists_or]
    rw [hiff]
    split at hasks
    · rename_i huser
      simp [hcandidate, Route.asksUser, huser]
    · have hlater := ih hasks.1
      simp [hcandidate, hlater]
  | failed hcandidate hstuck =>
    subst hpresence
    rw [asksWithin_zero hcandidate]
    exact stuck_asks hstuck

/-- A guard that comes to a verdict had every lookup answered. -/
theorem judged_not_never {index : Nat} {guard : Option (Guard World)} {presence known : Presence}
    {calls : List Consultation} {passes : Bool}
    (h : Guard.Judged index guard presence calls known passes) : .lookup (.ok .never) ∉ calls := by
  cases h <;> simp

/-- A guard that gets stuck over a lookup without an answer looks at the user, and the search ends
    in that error. -/
theorem stuck_never {budget index : Nat} {guard : Option (Guard World)} {presence : Presence}
    {calls : List Consultation} {halt : Except Panic RouterError}
    (h : Guard.Stuck budget index guard presence calls halt) (hnever : .lookup (.ok .never) ∈ calls) :
    guard.any (·.needsUser) = true ∧ halt = .ok (.guardTimeout budget) ∧
      calls.getLast? = some (.lookup (.ok .never)) := by
  cases h with
  | timedOut guard hneeds => exact ⟨hneeds, rfl, rfl⟩
  | lookupPanicked guard panic hneeds => simp at hnever
  | predicatePanicked f => simp at hnever

/-- A lookup without an answer ends the search at the route that asked, as the last call of all. -/
theorem Scan.never {router : Router World} {path : String} {method : Http.Method} {index : Nat}
    {routes : List (Route World)} {presence : Presence} {reached : Nat} {calls : List Consultation}
    {outcome : Outcome World}
    (h : router.Scan path method index routes presence reached calls outcome)
    (hnever : .lookup (.ok .never) ∈ calls) :
    (∃ route, routes[reached]? = some route ∧ route.isCandidate path method = true ∧
        route.asksUser = true) ∧
      outcome = .ok (.error (.guardTimeout router.settings.lookupBudget)) ∧
      calls.getLast? = some (.lookup (.ok .never)) := by
  induction h with
  | exhausted index presence => cases hnever
  | passedOver hcandidate hrest ih => simpa using ih hnever
  | accepted hcandidate hparams hjudged => exact absurd hnever (judged_not_never hjudged)
  | redirected hcandidate hjudged hfallback => exact absurd hnever (judged_not_never hjudged)
  | refused hcandidate hjudged hfallback hrest ih =>
    obtain hcalls | hlater := List.mem_append.mp hnever
    · exact absurd hcalls (judged_not_never hjudged)
    · obtain ⟨hroute, houtcome, hlast⟩ := ih hlater
      refine ⟨by simpa using hroute, houtcome, ?_⟩
      rw [List.getLast?_append, hlast, Option.some_or]
  | failed hcandidate hstuck =>
    obtain ⟨hasks, hhalt, hlast⟩ := stuck_never hstuck hnever
    exact ⟨⟨_, rfl, hcandidate, hasks⟩, by rw [hhalt]; rfl, hlast⟩

/-- Judging a candidate calls no handler. -/
theorem judged_no_handler {index : Nat} {guard : Option (Guard World)} {presence known : Presence}
    {calls : List Consultation} {passes : Bool}
    (h : Guard.Judged index guard presence calls known passes) (i : Option Nat) :
    .handler i ∉ calls := by
  cases h <;> simp

/-- A guard that gets stuck calls no handler. -/
theorem stuck_no_handler {budget index : Nat} {guard : Option (Guard World)} {presence : Presence}
    {calls : List Consultation} {halt : Except Panic RouterError}
    (h : Guard.Stuck budget index guard presence calls halt) (i : Option Nat) :
    .handler i ∉ calls := by
  cases h <;> simp

/-- No handler is called during a scan. -/
theorem Scan.no_handler {router : Router World} {path : String} {method : Http.Method} {index : Nat}
    {routes : List (Route World)} {presence : Presence} {reached : Nat} {calls : List Consultation}
    {outcome : Outcome World}
    (h : router.Scan path method index routes presence reached calls outcome) (i : Option Nat) :
    .handler i ∉ calls := by
  induction h with
  | exhausted index presence => exact List.not_mem_nil
  | passedOver hcandidate hrest ih => exact ih
  | accepted hcandidate hparams hjudged => exact judged_no_handler hjudged i
  | redirected hcandidate hjudged hfallback => exact judged_no_handler hjudged i
  | refused hcandidate hjudged hfallback hrest ih =>
    rw [List.mem_append]
    exact not_or.mpr ⟨judged_no_handler hjudged i, ih⟩
  | failed hcandidate hstuck => exact stuck_no_handler hstuck i

/-- Where a record holds at most one lookup, all lookups in it have the same answer. -/
theorem lookup_unique {record : List Consultation} {a b : Except Panic Lookup}
    (hlookups : (record.filterMap (·.lookup?)).length ≤ 1) (ha : .lookup a ∈ record)
    (hb : .lookup b ∈ record) : a = b := by
  have ha : a ∈ record.filterMap (·.lookup?) := List.mem_filterMap.mpr ⟨_, ha, rfl⟩
  have hb : b ∈ record.filterMap (·.lookup?) := List.mem_filterMap.mpr ⟨_, hb, rfl⟩
  generalize record.filterMap (·.lookup?) = answers at hlookups ha hb
  obtain _ | ⟨answer, _ | ⟨other, answers⟩⟩ := answers
  · cases ha
  · rw [List.mem_singleton] at ha hb
    rw [ha, hb]
  · simp at hlookups

/-- The only lookup of a record tells whether there is a current user. -/
theorem presenceIn_of_mem {record : List Consultation} {user : Option User}
    (hlookups : (record.filterMap (·.lookup?)).length ≤ 1)
    (hmem : .lookup (.ok (.answered user)) ∈ record) : presenceIn record = some user.isSome := by
  cases hpresence : presenceIn record with
  | none =>
    have hnone := List.findSome?_eq_none_iff.mp hpresence _ hmem
    cases hnone
  | some present =>
    obtain ⟨consultation, hconsultation, hsome⟩ := List.exists_of_findSome?_eq_some hpresence
    cases consultation with
    | predicate index answer => cases hsome
    | handler index => cases hsome
    | lookup answer =>
      obtain rfl := lookup_unique hlookups hmem hconsultation
      exact hsome.symm

/-- A search looks at no other routes than those it is given. -/
theorem search_withRoutes (router : Router World) (request : Http.Request) (path : String)
    (others routes : List (Route World)) (index : Nat) (presence : Presence) (world : World) :
    ({ router with routes := others } : Router World).search request path index routes presence world =
      router.search request path index routes presence world := by
  induction routes generalizing index presence world with
  | nil => rfl
  | cons route rest ih =>
    simp only [search, ih]
    rfl

theorem normalizePath_withRoutes (router : Router World) (others : List (Route World))
    (uri : String) :
    ({ router with routes := others } : Router World).normalizePath uri =
      router.normalizePath uri := by
  simp only [normalizePath]

/-- A request whose resolving fails is answered as a failure of the server, and no handler is
    called. -/
theorem dispatch_of_error (router : Router World) (request : Http.Request) (world : World)
    {e : RouterError} (herror : (router.resolve request world).outcome = .ok (.error e)) :
    router.dispatchRecord request world = router.resolveRecord request world ∧
      (router.dispatch request world).1.value = router.failureResponse { message := e.message } := by
  obtain ⟨reached, -, hechoes, -⟩ := router.resolve_scan request world
  have hnoted : (router.recorded.resolve request (world, [])).outcome = .ok (.error e) := by
    rw [hechoes.outcome, herror]
    rfl
  constructor
  · simp [dispatchRecord, dispatch, serve, hnoted, resolveRecord]
  · simp [dispatch, serve, herror]

/-- A search does not give a request to a route that it leaves behind. -/
theorem Stops.not_matched {router : Router World} {path : String} {method : Http.Method}
    {record calls : List Consultation} {routes : List (Route World)} {reached index : Nat}
    {outcome : Outcome World} {taken : Route World} {params : Params}
    (h : router.Stops path method record 0 routes reached calls outcome) (hindex : index < reached) :
    outcome ≠ .ok (.ok (.matched index taken params)) := by
  rintro rfl
  obtain ⟨-, houtcome⟩ | ⟨other, -, -, hends⟩ := h.ended
  · cases houtcome
  · rw [Nat.zero_add] at hends
    cases hends
    exact Nat.lt_irrefl _ hindex

/-- Whether the search comes to the route of an index: no route before it settles the request. -/
def ComesTo (router : Router World) (request : Http.Request) (world : World) (index : Nat)
    (route : Route World) : Prop :=
  router.routes[index]? = some route ∧
    route.isCandidate (router.normalizePath request.uri) request.method = true ∧
    ∀ i < index, ¬router.DecisiveAt request world i

/-- What the verdict of a guard means for the outcome: the route takes the request, or sends the
    client where it says, or has no part in the outcome. -/
structure FollowsVerdict (router : Router World) (request : Http.Request) (world : World)
    (index : Nat) (route : Route World) (passes : Bool) : Prop where
  accepted : passes = true → ∃ params,
    route.pattern.params? (router.normalizePath request.uri) = some params ∧
      (router.resolve request world).outcome = .ok (.ok (.matched index route params))
  redirected : passes = false → ∀ target, route.options.fallback = some target →
    (router.resolve request world).outcome =
      .ok (.ok (.redirect (router.redirectLocation target)))
  refused : passes = false → route.options.fallback = none → ∀ taken params,
    (router.resolve request world).outcome ≠ .ok (.ok (.matched index taken params))

/-- What becomes of a request whose lookup comes to no answer: the search ends with the lookup,
    routes and predicates after it play no part, and the request is answered as a failure of the
    server. -/
structure TimesOut (router : Router World) (request : Http.Request) (world : World) : Prop where
  outcome : (router.resolve request world).outcome =
    .ok (.error (.guardTimeout router.settings.lookupBudget))
  last : (router.resolveRecord request world).getLast? = some (.lookup (.ok .never))
  stops : ∃ index route, router.ComesTo request world index route ∧ route.asksUser = true ∧
    (router.resolveRecord request world).filterMap (·.predicate?) =
      Route.predicatesFrom (router.normalizePath request.uri) request.method 0
        (router.routes.take index) ∧
    ∀ later, ({ router with routes := router.routes.take (index + 1) ++ later } :
      Router World).resolve request world = router.resolve request world
  handlers : ∀ index, .handler index ∉ router.dispatchRecord request world
  calls : router.dispatchRecord request world = router.resolveRecord request world
  status : (router.dispatch request world).1.value.status = 500

section Discipline

variable (router : Router World) (request : Http.Request) (world : World)

theorem lookups_le_one :
    ((router.resolveRecord request world).filterMap (·.lookup?)).length ≤ 1 := by
  obtain ⟨reached, hscan, -, -⟩ := router.resolve_scan request world
  exact hscan.lookups_le

/-- Without a panic, a candidate that the search comes to is either left behind or ends the search,
    or the search has ended before for want of an answer. -/
theorem comesTo_cases
    (hpredicates : ∀ index panic,
      Consultation.predicate index (.error panic) ∉ router.resolveRecord request world)
    (hlookup : ∀ panic, Consultation.lookup (.error panic) ∉ router.resolveRecord request world)
    {index : Nat} {route : Route World} (hcomes : router.ComesTo request world index route)
    {reached : Nat}
    (hstops : router.Stops (router.normalizePath request.uri) request.method
      (router.resolveRecord request world) 0 router.routes reached
      (router.resolveRecord request world) (router.resolve request world).outcome) :
    index ≤ reached ∨ .lookup (.ok .never) ∈ router.resolveRecord request world := by
  obtain ⟨hroute, -, hbefore⟩ := hcomes
  by_contra! hlate
  obtain ⟨hlate, hanswered⟩ := hlate
  have hbound := (List.getElem?_eq_some_iff.mp hroute).1
  obtain ⟨hall, -⟩ | ⟨other, hother, hcandidate, hends⟩ := hstops.ended
  · omega
  · rw [Nat.zero_add] at hends
    have hundecided := hbefore reached hlate
    generalize (router.resolve request world).outcome = outcome at hends
    cases hends with
    | accepted params hparams hverdict =>
      exact hundecided ⟨other, hother, hcandidate, .inl hverdict⟩
    | redirected target hfallback hverdict =>
      exact hundecided ⟨other, hother, hcandidate, .inr ⟨hverdict, by simp [hfallback]⟩⟩
    | timedOut hneeds hnever => exact hanswered hnever
    | lookupPanicked panic hmem => exact hlookup panic hmem
    | predicatePanicked panic hmem => exact hpredicates _ _ hmem

/-- Without a panic, the user is looked up exactly if the search comes to a candidate that looks at
    the user. -/
theorem lookup_iff
    (hpredicates : ∀ index panic,
      Consultation.predicate index (.error panic) ∉ router.resolveRecord request world)
    (hlookup : ∀ panic, Consultation.lookup (.error panic) ∉ router.resolveRecord request world) :
    (∃ answer, .lookup answer ∈ router.resolveRecord request world) ↔
      ∃ index route, router.ComesTo request world index route ∧ route.asksUser = true := by
  obtain ⟨reached, hscan, -, -⟩ := router.resolve_scan request world
  have hstops := hscan.stops Knows.start
  rw [List.nil_append] at hstops
  rw [hscan.asks_iff rfl]
  constructor
  · rintro ⟨index, route, hindex, hroute, hcandidate, hasks⟩
    refine ⟨index, route, ⟨hroute, hcandidate, ?_⟩, hasks⟩
    rintro i hi ⟨earlier, hearlier, hdecisive⟩
    have hpassed := hstops.passed i earlier (by omega) hearlier
    rw [Nat.zero_add] at hpassed
    exact hpassed.not_decisive hdecisive
  · rintro ⟨index, route, hcomes, hasks⟩
    obtain hindex | hnever := comesTo_cases router request world hpredicates hlookup hcomes hstops
    · exact ⟨index, route, hindex, hcomes.1, hcomes.2.1, hasks⟩
    · exact (hscan.asks_iff rfl).mp ⟨_, hnever⟩

/-- Without a panic, the one answer of the lookup is what every guard that looks at the user judges
    by. -/
theorem followsVerdict_of_answered
    (hpredicates : ∀ index panic,
      Consultation.predicate index (.error panic) ∉ router.resolveRecord request world)
    (hlookup : ∀ panic, Consultation.lookup (.error panic) ∉ router.resolveRecord request world)
    {user : Option User}
    (hanswered : .lookup (.ok (.answered user)) ∈ router.resolveRecord request world)
    {index : Nat} {route : Route World} {guard : Guard World}
    (hcomes : router.ComesTo request world index route)
    (hguard : route.options.guard = some guard) (hneeds : guard.needsUser = true) :
    router.FollowsVerdict request world index route (guard.admits user.isSome) := by
  obtain ⟨reached, hstops⟩ := router.resolve_stops request world
  have hlookups := router.lookups_le_one request world
  have hnever : .lookup (.ok .never) ∉ router.resolveRecord request world := by
    intro hnever
    cases lookup_unique hlookups hanswered hnever
  have hverdict := verdictIn_of_needsUser hguard hneeds (presenceIn_of_mem hlookups hanswered) index
  have hindex : index ≤ reached := by
    obtain hindex | hmem := comesTo_cases router request world hpredicates hlookup hcomes hstops
    · exact hindex
    · exact absurd hmem hnever
  generalize guard.admits user.isSome = passes at hverdict
  obtain ⟨hroute, hcandidate, -⟩ := hcomes
  obtain hlt | rfl := Nat.lt_or_eq_of_le hindex
  · have hpassed := hstops.passed index route hlt hroute hcandidate
    rw [Nat.zero_add, hverdict] at hpassed
    obtain ⟨hrefused, hfallback⟩ := hpassed
    cases hrefused
    refine ⟨by simp, by simp [hfallback], fun _ _ taken params hmatched => ?_⟩
    exact hstops.not_matched (by omega) hmatched
  · obtain ⟨hall, -⟩ | ⟨other, hother, -, hends⟩ := hstops.ended
    · have hbound := (List.getElem?_eq_some_iff.mp hroute).1
      omega
    · rw [hroute] at hother
      cases hother
      rw [Nat.zero_add] at hends
      generalize houtcome : (router.resolve request world).outcome = outcome at hends
      cases hends with
      | accepted params hparams haccepted =>
        rw [hverdict] at haccepted
        cases haccepted
        exact ⟨fun _ => ⟨params, hparams, houtcome⟩, by simp, by simp⟩
      | redirected target hfallback hrefused =>
        rw [hverdict] at hrefused
        cases hrefused
        refine ⟨by simp, fun _ other hother => ?_, by simp [hfallback]⟩
        rw [hfallback] at hother
        cases hother
        exact houtcome
      | timedOut _ hmem => exact absurd hmem hnever
      | lookupPanicked panic hmem => exact absurd hmem (hlookup panic)
      | predicatePanicked panic hmem => exact absurd hmem (hpredicates _ panic)

/-- A lookup without an answer makes the request time out. -/
theorem timesOut_of_never
    (hnever : .lookup (.ok .never) ∈ router.resolveRecord request world) :
    router.TimesOut request world := by
  obtain ⟨index, hscan, -, hlater⟩ := router.resolve_scan request world
  have hstops := hscan.stops Knows.start
  rw [List.nil_append] at hstops
  obtain ⟨⟨route, hroute, hcandidate, hasks⟩, houtcome, hlast⟩ := hscan.never hnever
  obtain ⟨hcalls, hresponse⟩ := router.dispatch_of_error request world houtcome
  refine ⟨houtcome, hlast, ⟨index, route, ⟨hroute, hcandidate, ?_⟩, hasks, ?_, ?_⟩, ?_, hcalls, ?_⟩
  · rintro i hi ⟨earlier, hearlier, hdecisive⟩
    have hpassed := hstops.passed i earlier hi hearlier
    rw [Nat.zero_add] at hpassed
    exact hpassed.not_decisive hdecisive
  · rw [hstops.predicates, List.take_add_one, hroute]
    exact Route.predicatesFrom_concat_of_asksUser _ _ _ _ hasks
  · intro later
    rw [resolve, search_withRoutes, normalizePath_withRoutes]
    exact hlater (List.getElem?_eq_some_iff.mp hroute).1 later
  · intro i
    rw [hcalls]
    exact hscan.no_handler i
  · rw [hresponse]
    rfl

/-- When neither a predicate nor the lookup panics, the user is looked up at most once, and exactly
    if the search comes to a candidate that looks at the user. Every such guard that the search
    comes to judges by that one answer. Without an answer the request times out. -/
theorem resolve_looks_up_once
    (hpredicates : ∀ index panic,
      Consultation.predicate index (.error panic) ∉ router.resolveRecord request world)
    (hlookup : ∀ panic, Consultation.lookup (.error panic) ∉ router.resolveRecord request world) :
    ((router.resolveRecord request world).filterMap (·.lookup?)).length ≤ 1 ∧
    ((∃ answer, .lookup answer ∈ router.resolveRecord request world) ↔
      ∃ index route, router.ComesTo request world index route ∧ route.asksUser = true) ∧
    (∀ user, .lookup (.ok (.answered user)) ∈ router.resolveRecord request world →
      ∀ index route guard, router.ComesTo request world index route →
        route.options.guard = some guard → guard.needsUser = true →
        router.FollowsVerdict request world index route (guard.admits user.isSome)) ∧
    (.lookup (.ok .never) ∈ router.resolveRecord request world →
      router.TimesOut request world) := by
  refine ⟨router.lookups_le_one request world, router.lookup_iff request world hpredicates hlookup,
    ?_, router.timesOut_of_never request world⟩
  intro user hanswered index route guard hcomes hguard hneeds
  exact router.followsVerdict_of_answered request world hpredicates hlookup hanswered hcomes hguard
    hneeds

end Discipline

/-- A router that has no answer to who the user is, with a page for everyone without a user behind
    one for a predicate to give. -/
def silent : Router Nat :=
  { routes := [.toRoot { guard := some .everyOther }, .toRoot { guard := some .anonymous },
      .toRoot {}]
    default := .notFound
    authenticator := fun _ => Call.answering .never }

theorem resolve_looks_up_once_silent :
    silent.resolveRecord { uri := "/" } 0 =
      [.predicate 0 (.ok false), .lookup (.ok .never)] ∧
    silent.TimesOut { uri := "/" } 0 := by
  have hpath : silent.normalizePath "/" = "/" := by decide +kernel
  have hrecord : silent.resolveRecord { uri := "/" } 0 =
      [.predicate 0 (.ok false), .lookup (.ok .never)] := by
    rw [resolveRecord, resolve]
    simp only [normalizePath_recorded, hpath]
    simp only [search, recorded, silent, Route.toRoot, Route.recordedFrom_cons,
      Route.recordedFrom_nil, Route.pattern_recorded, Pattern.params?_root]
    rfl
  have hdiscipline := resolve_looks_up_once silent { uri := "/" } 0 (by rw [hrecord]; simp)
    (by rw [hrecord]; simp)
  exact ⟨hrecord, hdiscipline.2.2.2 (by rw [hrecord]; simp)⟩

end Router

end HttpRouter
