import HttpRouter.Proofs.Router.Telling

namespace HttpRouter

variable {World : Type}

/-- When a route takes a request: its pattern and its options. -/
def Route.conditions (route : Route World) : Pattern × RouteOptions World :=
  (route.pattern, route.options)

/-- What judging a guard comes to, with the calls that this takes: what is then known of the user and
    whether the request passes, or what the guard gets stuck over. -/
inductive Guard.Comes (budget index : Nat) (guard : Option (Guard World)) (presence : Router.Presence)
    (calls : List Consultation) : Except (Except Panic RouterError) (Router.Presence × Bool) → Prop
  | verdict {known : Router.Presence} {passes : Bool}
      (hjudged : Judged index guard presence calls known passes) :
      Comes budget index guard presence calls (.ok (known, passes))
  | stuck {halt : Except Panic RouterError} (hstuck : Stuck budget index guard presence calls halt) :
      Comes budget index guard presence calls (.error halt)

/-- The answers of foreign code decide what judging a guard comes to. -/
theorem Guard.Comes.unique {budget index : Nat} {guard : Option (Guard World)}
    {presence : Router.Presence} {calls calls' later later' : List Consultation}
    {result result' : Except (Except Panic RouterError) (Router.Presence × Bool)}
    (h : Comes budget index guard presence calls result)
    (h' : Comes budget index guard presence calls' result')
    (hrecord : calls ++ later = calls' ++ later') : calls = calls' ∧ result = result' := by
  rcases h with ⟨hjudged⟩ | ⟨hstuck⟩
  · rcases h' with ⟨hjudged'⟩ | ⟨hstuck'⟩
    · cases hjudged <;> cases hjudged' <;> simp_all [Guard.needsUser]
    · cases hjudged <;> cases hstuck' <;> simp_all [Guard.needsUser]
  · rcases h' with ⟨hjudged'⟩ | ⟨hstuck'⟩
    · cases hstuck <;> cases hjudged' <;> simp_all [Guard.needsUser]
    · cases hstuck <;> cases hstuck' <;> simp_all [Guard.needsUser]

/-- Two outcomes that differ at most in the route that takes the request, which has one index. -/
inductive Outcome.Agrees : Outcome World → Outcome World → Prop
  | matched (index : Nat) (route other : Route World) (params : Params) :
      Agrees (.ok (.ok (.matched index route params))) (.ok (.ok (.matched index other params)))
  | redirect (location : String) :
      Agrees (.ok (.ok (.redirect location))) (.ok (.ok (.redirect location)))
  | default : Agrees (.ok (.ok .default)) (.ok (.ok .default))
  | failed (e : RouterError) : Agrees (.ok (.error e)) (.ok (.error e))
  | panicked (panic : Panic) : Agrees (.error panic) (.error panic)

namespace Router

/-- How a scan goes on at a candidate, by what judging its guard comes to: the further calls, how many
    routes are left behind, and what the scan ends in. -/
inductive GoesOn (router : Router World) (path : String) (method : Http.Method) (index : Nat)
    (route : Route World) (rest : List (Route World)) :
    Except (Except Panic RouterError) (Presence × Bool) → List Consultation → Nat → Outcome World →
      Prop
  | accepted (known : Presence) {params : Params}
      (hparams : route.pattern.params? path = some params) :
      GoesOn router path method index route rest (.ok (known, true)) [] 0
        (.ok (.ok (.matched index route params)))
  | redirected (known : Presence) {target : String}
      (hfallback : route.options.fallback = some target) :
      GoesOn router path method index route rest (.ok (known, false)) [] 0
        (.ok (.ok (.redirect (router.redirectLocation target))))
  | refused {known : Presence} {later : List Consultation} {reached : Nat} {outcome : Outcome World}
      (hfallback : route.options.fallback = none)
      (hrest : router.Scan path method (index + 1) rest known reached later outcome) :
      GoesOn router path method index route rest (.ok (known, false)) later (reached + 1) outcome
  | failed (halt : Except Panic RouterError) :
      GoesOn router path method index route rest (.error halt) [] 0 (halt.map .error)

section Scanning

variable {router other : Router World} {path : String} {method : Http.Method}

theorem redirectLocation_of_settings (hsettings : router.settings = other.settings) :
    router.redirectLocation = other.redirectLocation := by
  funext target
  rw [redirectLocation, redirectLocation, hsettings]

/-- A scan leaves a route behind that is no candidate. -/
theorem Scan.of_not_candidate {index reached : Nat} {route : Route World} {rest : List (Route World)}
    {presence : Presence} {calls : List Consultation} {outcome : Outcome World}
    (h : router.Scan path method index (route :: rest) presence reached calls outcome)
    (hcandidate : route.isCandidate path method = false) :
    ∃ behind, reached = behind + 1 ∧
      router.Scan path method (index + 1) rest presence behind calls outcome := by
  cases h with
  | passedOver _ hrest => exact ⟨_, rfl, hrest⟩
  | _ => simp_all

/-- A scan goes on at a candidate by what judging its guard comes to. -/
theorem Scan.of_candidate {index reached : Nat} {route : Route World} {rest : List (Route World)}
    {presence : Presence} {calls : List Consultation} {outcome : Outcome World}
    (h : router.Scan path method index (route :: rest) presence reached calls outcome)
    (hcandidate : route.isCandidate path method = true) :
    ∃ own later result, calls = own ++ later ∧
      Guard.Comes router.settings.lookupBudget index route.options.guard presence own result ∧
      router.GoesOn path method index route rest result later reached outcome := by
  cases h with
  | passedOver hno _ =>
    rw [hcandidate] at hno
    cases hno
  | accepted _ hparams hjudged =>
    exact ⟨_, [], _, (List.append_nil _).symm, .verdict hjudged, .accepted _ hparams⟩
  | redirected _ hjudged hfallback =>
    exact ⟨_, [], _, (List.append_nil _).symm, .verdict hjudged, .redirected _ hfallback⟩
  | refused _ hjudged hfallback hrest => exact ⟨_, _, _, rfl, .verdict hjudged, .refused hfallback hrest⟩
  | failed _ hstuck => exact ⟨_, [], _, (List.append_nil _).symm, .stuck hstuck, .failed _⟩

/-- Two scans of routes with the same conditions that make the same calls come equally far and end in
    the same. -/
theorem Scan.determined (hsettings : router.settings = other.settings)
    {routes others : List (Route World)} {index reached reached' : Nat} {presence : Presence}
    {calls : List Consultation} {outcome outcome' : Outcome World}
    (hconditions : routes.map (·.conditions) = others.map (·.conditions))
    (h : router.Scan path method index routes presence reached calls outcome)
    (h' : other.Scan path method index others presence reached' calls outcome') :
    reached = reached' ∧ Outcome.Agrees outcome outcome' := by
  induction routes generalizing others index reached reached' presence calls outcome outcome' with
  | nil =>
    obtain rfl := List.map_eq_nil_iff.mp hconditions.symm
    cases h
    cases h'
    exact ⟨rfl, .default⟩
  | cons route rest ih =>
    obtain ⟨twin, others, rfl, hroute, hothers⟩ := List.map_eq_cons_iff.mp hconditions.symm
    obtain ⟨hpattern, hoptions⟩ := Prod.mk.inj hroute
    have htwin : twin.isCandidate path method = route.isCandidate path method := by
      rw [Route.isCandidate, hpattern, hoptions, Route.isCandidate]
    cases hcandidate : route.isCandidate path method with
    | false =>
      obtain ⟨behind, rfl, hrest⟩ := h.of_not_candidate hcandidate
      obtain ⟨behind', rfl, hrest'⟩ := h'.of_not_candidate (htwin.trans hcandidate)
      obtain ⟨rfl, hagrees⟩ := ih hothers.symm hrest hrest'
      exact ⟨rfl, hagrees⟩
    | true =>
      obtain ⟨own, later, result, rfl, hcomes, hgoes⟩ := h.of_candidate hcandidate
      obtain ⟨own', later', result', hcalls, hcomes', hgoes'⟩ :=
        h'.of_candidate (htwin.trans hcandidate)
      rw [← hsettings, hoptions] at hcomes'
      obtain ⟨rfl, rfl⟩ := hcomes.unique hcomes' hcalls
      obtain rfl := List.append_cancel_left hcalls
      cases hgoes with
      | accepted known hparams =>
        cases hgoes' with
        | accepted _ hparams' =>
          rw [hpattern, hparams] at hparams'
          cases hparams'
          exact ⟨rfl, .matched index route twin _⟩
      | redirected known hfallback =>
        cases hgoes' with
        | redirected _ hfallback' =>
          rw [hoptions, hfallback] at hfallback'
          cases hfallback'
          rw [redirectLocation_of_settings hsettings]
          exact ⟨rfl, .redirect _⟩
        | refused hfallback' _ =>
          rw [hoptions, hfallback] at hfallback'
          cases hfallback'
      | refused hfallback hrest =>
        cases hgoes' with
        | redirected _ hfallback' =>
          rw [hoptions, hfallback] at hfallback'
          cases hfallback'
        | refused _ hrest' =>
          obtain ⟨rfl, hagrees⟩ := ih hothers.symm hrest hrest'
          exact ⟨rfl, hagrees⟩
      | failed halt =>
        cases hgoes'
        cases halt with
        | error panic => exact ⟨rfl, .panicked panic⟩
        | ok e => exact ⟨rfl, .failed e⟩

end Scanning

/-- The event that closes a search is that of any search which agrees with it. -/
theorem Closes.unique {path : String} {index : Nat} {settling settling' : Option (Route World)}
    {outcome outcome' : Outcome World} {closing closing' : List Event}
    (h : Closes path index settling outcome closing)
    (h' : Closes path index settling' outcome' closing')
    (hsettling : settling.map (·.conditions) = settling'.map (·.conditions))
    (hagrees : Outcome.Agrees outcome outcome') : closing = closing' := by
  have htemplate : ∀ {route route' : Route World}, settling = some route → settling' = some route' →
      route.pattern.template = route'.pattern.template := by
    rintro route route' rfl rfl
    have hconditions := Option.some.inj hsettling
    rw [(Prod.mk.inj hconditions).1]
  cases hagrees with
  | matched =>
    cases h
    cases h'
    rw [htemplate rfl rfl]
  | redirect =>
    cases h
    cases h'
    rw [htemplate rfl rfl]
  | default =>
    cases h
    cases h'
    rfl
  | failed =>
    cases h
    cases h'
    rfl
  | panicked =>
    cases h
    cases h'
    rfl

/-- What leaving routes behind tells follows from their conditions. -/
theorem flatMap_passingEvents (path : String) (method : Http.Method) {routes others : List (Route World)}
    (hconditions : routes.map (·.conditions) = others.map (·.conditions)) :
    routes.flatMap (·.passingEvents path method) = others.flatMap (·.passingEvents path method) := by
  have hfactor : ∀ routes : List (Route World), routes.flatMap (·.passingEvents path method) =
      (routes.map (·.conditions)).flatMap fun (pattern, options) =>
        Route.passingEvents path method { pattern, options, handler := .notFound } := by
    intro routes
    rw [List.flatMap_map]
    rfl
  rw [hfactor, hfactor, hconditions]

/-- Two runs on one request with the same settings and the same conditions of the routes, in which
    foreign code gives the same answers until the request is resolved. -/
structure Replays (router other : Router World) (request : Http.Request) (world world' : World) :
    Prop where
  settings : router.settings = other.settings
  conditions : router.routes.map (·.conditions) = other.routes.map (·.conditions)
  record : router.resolveRecord request world = other.resolveRecord request world'

/-- Runs with one record come to the same and tell the same. -/
theorem Replays.resolve_agrees {router other : Router World} {request : Http.Request}
    {world world' : World} (h : Replays router other request world world') :
    Outcome.Agrees (router.resolve request world).outcome (other.resolve request world').outcome ∧
      (router.resolve request world).events = (other.resolve request world').events := by
  obtain ⟨reached, hscan, closing, hcloses, hevents⟩ := router.resolve_tells request world
  obtain ⟨reached', hscan', closing', hcloses', hevents'⟩ := other.resolve_tells request world'
  have hpath : other.normalizePath request.uri = router.normalizePath request.uri := by
    rw [normalizePath, normalizePath, h.settings]
  rw [hpath, ← h.record] at hscan'
  rw [hpath] at hcloses' hevents'
  obtain ⟨rfl, hagrees⟩ := hscan.determined h.settings h.conditions hscan'
  refine ⟨hagrees, ?_⟩
  have hsettling := congrArg (·[reached]?) h.conditions
  simp only [List.getElem?_map] at hsettling
  have hpassed := congrArg (List.take reached) h.conditions
  rw [← List.map_take, ← List.map_take] at hpassed
  rw [hevents, hevents', hcloses.unique hcloses' hsettling hagrees, flatMap_passingEvents _ _ hpassed]

end Router

end HttpRouter
