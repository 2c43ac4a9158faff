import HttpRouter.Proofs.LastWrite
import HttpRouter.Proofs.Router.Settling

namespace HttpRouter

variable {World : Type}

namespace Router

/-- A change to a sealed router: other settings, or another way to look up the current user. -/
inductive Change (World : Type) where
  | settings (settings : Settings)
  | authenticator (authenticator : Authenticator World)

/-- The settings that a change brings, if it brings any. -/
def Change.settings? : Change World → Option Settings
  | .settings latest => some latest
  | .authenticator _ => none

/-- The router after a change. -/
def change (router : Router World) : Change World → Router World
  | .settings settings => router.withSettings settings
  | .authenticator authenticator => router.withAuthenticator authenticator

/-- The router after changes, one after the other. -/
def changeAll (router : Router World) (changes : List (Change World)) : Router World :=
  changes.foldl change router

/-- The settings after changes: the last ones that a change brings, or those there were. -/
def lastSettings (router : Router World) (changes : List (Change World)) : Settings :=
  (changes.filterMap (·.settings?)).getLast?.getD router.settings

theorem settings_changeAll (router : Router World) (changes : List (Change World)) :
    (router.changeAll changes).settings = router.lastSettings changes := by
  refine foldl_lastWrite change settings (·.settings?) (fun router change => ?_) changes router
  cases change <;> rfl

/-- Changes leave the routes as they are. -/
theorem routes_changeAll (router : Router World) (changes : List (Change World)) :
    (router.changeAll changes).routes = router.routes := by
  refine foldl_unwritten change routes (fun change _ router => ?_) router
  cases change <;> rfl

/-- What a target says before its query and its fragment. -/
def beforeQuery (target : String) : List Char :=
  target.toList.takeWhile fun c => c ≠ '?' && c ≠ '#'

/-- A path with a slash in front, which is put there if there is none. -/
def rooted : List Char → String
  | '/' :: rest => .ofList ('/' :: rest)
  | path => .ofList ('/' :: path)

/-- Whether a target is empty or starts with a slash, before its query and its fragment. -/
def IsRooted (target : String) : Prop :=
  beforeQuery target = [] ∨ ∃ rest, beforeQuery target = '/' :: rest

/-- The place a client is sent to, under a base path if it is a path of the site. -/
def place (base location : String) : String :=
  if isLocal location then base ++ location else location

theorem normalizePath_eq (router : Router World) (uri : String) :
    router.normalizePath uri =
      rooted (stripMount router.settings.basePath.toList (beforeQuery uri)) := by
  simp only [normalizePath, beforeQuery]
  generalize stripMount router.settings.basePath.toList _ = path
  unfold rooted
  split <;> simp_all

theorem redirectLocation_eq (router : Router World) (target : String) :
    router.redirectLocation target = place router.settings.basePath target := rfl

@[simp] theorem place_empty (location : String) : place "" location = location := by
  simp [place]

theorem afterFront?_append (front rest : List Char) :
    afterFront? front (front ++ rest) = some rest := by
  induction front with
  | nil => rfl
  | cons c front ih => simpa [afterFront?] using ih

theorem eq_append_of_afterFront? {front s rest : List Char} (h : afterFront? front s = some rest) :
    s = front ++ rest := by
  induction front generalizing s with
  | nil => simpa [afterFront?] using h
  | cons c front ih =>
    cases s with
    | nil => simp [afterFront?] at h
    | cons d s =>
      by_cases hc : c = d
      · rw [afterFront?, if_pos hc] at h
        rw [ih h, hc, List.cons_append]
      · rw [afterFront?, if_neg hc] at h
        cases h

/-- The base path is taken off a path that ends there or goes on with a slash. -/
theorem stripMount_append (base : List Char) {rest : List Char}
    (hrest : rest = [] ∨ ∃ tail, rest = '/' :: tail) : stripMount base (base ++ rest) = rest := by
  unfold stripMount
  split
  · rfl
  · rw [afterFront?_append]
    obtain rfl | ⟨tail, rfl⟩ := hrest
    · rfl
    · rfl

/-- A path that is neither the base path nor below it stays as it is. -/
theorem stripMount_of_outside {base path : List Char} (hbase : path ≠ base)
    (hbelow : ¬base ++ ['/'] <+: path) : stripMount base path = path := by
  unfold stripMount
  split
  · rfl
  · split
    · rename_i hfront
      exact absurd (by simpa using eq_append_of_afterFront? hfront) hbase
    · rename_i rest hfront
      refine absurd ⟨rest, ?_⟩ hbelow
      rw [eq_append_of_afterFront? hfront, List.append_assoc, List.singleton_append]
    · rfl

theorem beforeQuery_append {base : String} (hbase : ∀ c ∈ base.toList, c ≠ '?' ∧ c ≠ '#')
    (target : String) : beforeQuery (base ++ target) = base.toList ++ beforeQuery target := by
  unfold beforeQuery
  rw [String.toList_append]
  apply List.takeWhile_append_of_pos
  intro c hc
  simpa using hbase c hc

end Router

/-- The resolution with the place it sends a client to put under a base path. -/
def Resolution.under (base : String) : Resolution World → Resolution World
  | matched index route params => matched index route params
  | redirect location => redirect (Router.place base location)
  | default => default

/-- The event with the place a client is sent to put under a base path. -/
def Event.under (base : String) : Event → Event
  | guardRedirected template location => guardRedirected template (Router.place base location)
  | event => event

/-- A run of resolving with the places it sends clients to put under a base path. -/
def Run.under (base : String) (run : Run World (Except RouterError (Resolution World))) :
    Run World (Except RouterError (Resolution World)) :=
  { outcome := run.outcome.map (Except.map (Resolution.under base))
    events := run.events.map (Event.under base)
    world := run.world }

theorem Run.under_after (base : String) (events : List Event)
    (run : Run World (Except RouterError (Resolution World))) :
    (run.after events).under base = (run.under base).after (events.map (Event.under base)) := by
  simp [Run.under, Run.after]

@[simp] theorem Run.under_empty (run : Run World (Except RouterError (Resolution World))) :
    run.under "" = run := by
  have hevent : Event.under "" = id := by
    funext event
    cases event <;> simp [Event.under]
  have hresolution : (Resolution.under "" : Resolution World → Resolution World) = id := by
    funext resolution
    cases resolution <;> simp [Resolution.under]
  have houtcome : Except.map (ε := RouterError) (id : Resolution World → _) = id := by
    funext outcome
    cases outcome <;> rfl
  have hwhole : Except.map (ε := Panic) (id : Except RouterError (Resolution World) → _) = id := by
    funext outcome
    cases outcome <;> rfl
  simp [Run.under, hevent, hresolution, houtcome, hwhole]

namespace Router

/-- Two routers with the same routes that wait for a lookup equally long, and two requests of one
    method for which their lookups of the user answer alike. -/
structure Alike (router other : Router World) (request counterpart : Http.Request) : Prop where
  routes : router.routes = other.routes
  budget : router.settings.lookupBudget = other.settings.lookupBudget
  method : request.method = counterpart.method
  answers : ∀ world, router.authenticator request world = other.authenticator counterpart world

section Counterparts

variable {router other : Router World} {request counterpart : Http.Request}

/-- Routers that are alike are alike when their calls are noted. -/
theorem Alike.recorded (h : Alike router other request counterpart) :
    Alike router.recorded other.recorded request counterpart where
  routes := congrArg (Route.recordedFrom 0) h.routes
  budget := h.budget
  method := h.method
  answers := by
    rintro ⟨world, record⟩
    simp [Router.recorded, Call.noted, h.answers]

theorem Alike.lookUp_eq (h : Alike router other request counterpart) (options : RouteOptions World)
    (presence : Presence) (world : World) :
    router.lookUp request options presence world = other.lookUp counterpart options presence world := by
  unfold lookUp
  rw [h.answers, h.budget]

theorem Alike.judge_eq (h : Alike router other request counterpart) (options : RouteOptions World)
    (presence : Presence) (world : World) :
    router.judge request options presence world = other.judge counterpart options presence world := by
  unfold judge
  rw [h.lookUp_eq]

/-- Judging a candidate tells of no place that a client is sent to. -/
theorem judge_map_under (router : Router World) (request : Http.Request)
    (options : RouteOptions World) (presence : Presence) (world : World) (base : String) :
    (router.judge request options presence world).events.map (Event.under base) =
      (router.judge request options presence world).events := by
  have hlookup : (router.lookUp request options presence world).events.map (Event.under base) =
      (router.lookUp request options presence world).events := by
    unfold lookUp
    split
    · split <;> rfl
    · rfl
  unfold judge
  dsimp only
  split
  · exact hlookup
  · exact hlookup
  · split <;> rfl

/-- Routers that are alike search alike, up to where they put the places they send clients to. -/
theorem Alike.search_eq (h : Alike router other request counterpart) {base : String}
    (hplace : ∀ target, router.redirectLocation target = place base (other.redirectLocation target))
    (path : String) (routes : List (Route World)) (index : Nat) (presence : Presence)
    (world : World) :
    router.search request path index routes presence world =
      (other.search counterpart path index routes presence world).under base := by
  induction routes generalizing index presence world with
  | nil => rfl
  | cons route rest ih =>
    cases hcandidate : route.isCandidate path request.method with
    | false =>
      have hother : route.isCandidate path counterpart.method = false := by rwa [← h.method]
      rw [search_passedOver _ _ _ _ _ _ _ _ hcandidate, search_passedOver _ _ _ _ _ _ _ _ hother,
        Run.under_after, ih, h.method]
      split <;> rfl
    | true =>
      obtain ⟨params, hparams, haccepts⟩ := route.exists_params_of_candidate hcandidate
      have hother : route.options.accepts counterpart.method = true := by rwa [← h.method]
      rw [search_candidate router request path index route rest presence world params hparams haccepts,
        search_candidate other counterpart path index route rest presence world params hparams hother,
        h.judge_eq]
      simp only [hplace]
      -- Only the verdict of the guard decides how the search goes on, and it is the same for both.
      have hevents := judge_map_under other counterpart route.options presence world base
      generalize other.judge counterpart route.options presence world = judged at hevents
      obtain ⟨outcome, events, world'⟩ := judged
      have hquiet : events.map (Event.under base) = events := hevents
      cases outcome with
      | error panic => simp [Run.under, hquiet, Except.map]
      | ok answer =>
        cases answer with
        | error e => simp [Run.under, hquiet, Except.map]
        | ok judgement =>
          obtain ⟨known, verdict⟩ := judgement
          cases verdict with
          | accepted => rfl
          | rejected fallback =>
            cases fallback with
            | some target => rfl
            | none =>
              simp only [Run.under_after, ih]
              rfl

/-- A router resolves a request as another one resolves its counterpart, but that it puts the places
    it sends clients to under a base path. Both make the same calls and get the same answers. -/
structure ResolvesUnder (base : String) (router other : Router World)
    (request counterpart : Http.Request) (world : World) : Prop where
  run : router.resolve request world = (other.resolve counterpart world).under base
  record : router.resolveRecord request world = other.resolveRecord counterpart world

/-- Routers that are alike resolve alike what is the same path to both of them. -/
theorem Alike.resolvesUnder (h : Alike router other request counterpart) {base : String}
    (hplace : ∀ target, router.redirectLocation target = place base (other.redirectLocation target))
    (hpath : router.normalizePath request.uri = other.normalizePath counterpart.uri) (world : World) :
    ResolvesUnder base router other request counterpart world := by
  have hresolve : ∀ {State : Type} {first second : Router State} (state : State),
      Alike first second request counterpart →
      (∀ target, first.redirectLocation target = place base (second.redirectLocation target)) →
      first.normalizePath request.uri = second.normalizePath counterpart.uri →
      first.resolve request state = (second.resolve counterpart state).under base := by
    intro State first second state halike hfirst hsame
    unfold resolve
    rw [hsame, halike.search_eq hfirst, halike.routes]
  refine ⟨hresolve world h hplace hpath, ?_⟩
  have hrecorded : router.recorded.normalizePath request.uri =
      other.recorded.normalizePath counterpart.uri := by
    rw [normalizePath_recorded, normalizePath_recorded, hpath]
  unfold resolveRecord
  rw [hresolve (world, []) h.recorded hplace hrecorded]
  rfl

/-- A router without a base path puts no place under one. -/
theorem redirectLocation_eq_place (hbare : other.settings.basePath = "") (target : String) :
    router.redirectLocation target =
      place router.settings.basePath (other.redirectLocation target) := by
  rw [redirectLocation_eq, redirectLocation_eq, hbare, place_empty]

/-- Without a base path a target is taken as it is. -/
theorem normalizePath_of_bare (hbare : other.settings.basePath = "") (target : String) :
    other.normalizePath target = rooted (beforeQuery target) := by
  rw [normalizePath_eq, hbare]
  rfl

end Counterparts

/-- A router with any changes made to it resolves a target below its base path as a router with the
    same routes and no base path resolves the rest of the target. What follows the path of a target
    does not matter, and a target outside of the base path is taken as it is. -/
theorem resolve_mounted (router : Router World) (changes : List (Change World)) (world : World)
    (hbase : ∀ c ∈ (router.lastSettings changes).basePath.toList, c ≠ '?' ∧ c ≠ '#') :
    let mounted := router.changeAll changes
    let base := (router.lastSettings changes).basePath
    mounted.routes = router.routes ∧
    (∀ (bare : Router World) (request below : Http.Request), bare.settings.basePath = "" →
      Alike mounted bare request below → request.uri = base ++ below.uri → IsRooted below.uri →
      ResolvesUnder base mounted bare request below world) ∧
    (∀ request other : Http.Request, Alike mounted mounted request other →
      beforeQuery request.uri = beforeQuery other.uri →
      mounted.resolve request world = mounted.resolve other world ∧
        mounted.resolveRecord request world = mounted.resolveRecord other world) ∧
    (∀ (bare : Router World) (request : Http.Request), bare.settings.basePath = "" →
      Alike mounted bare request request → beforeQuery request.uri ≠ base.toList →
      ¬base.toList ++ ['/'] <+: beforeQuery request.uri →
      mounted.normalizePath request.uri = rooted (beforeQuery request.uri) ∧
        ResolvesUnder base mounted bare request request world) := by
  intro mounted base
  have hsettings : mounted.settings.basePath = base := by rw [settings_changeAll]
  refine ⟨routes_changeAll router changes, ?_, ?_, ?_⟩
  · intro bare request below hbare halike huri hrooted
    have hpath : mounted.normalizePath request.uri = bare.normalizePath below.uri := by
      rw [normalizePath_of_bare hbare, normalizePath_eq, hsettings, huri, beforeQuery_append hbase,
        stripMount_append _ hrooted]
    rw [← hsettings]
    exact halike.resolvesUnder (redirectLocation_eq_place hbare) hpath world
  · intro request other halike hpath
    have hsame := halike.resolvesUnder (fun target => (place_empty _).symm)
      (by rw [normalizePath_eq, normalizePath_eq, hpath]) world
    exact ⟨by simpa using hsame.run, hsame.record⟩
  · intro bare request hbare halike hne hbelow
    have hpath : mounted.normalizePath request.uri = rooted (beforeQuery request.uri) := by
      rw [normalizePath_eq, hsettings, stripMount_of_outside hne hbelow]
    have hsame := halike.resolvesUnder (redirectLocation_eq_place hbare)
      (hpath.trans (normalizePath_of_bare hbare _).symm) world
    rw [hsettings] at hsame
    exact ⟨hpath, hsame⟩

/-- A router without users, whose only page is at the root path and for users only, sends everyone
    from there to the place that its route names. -/
theorem resolve_refused {router : Router Nat} {options : RouteOptions Nat}
    {uri target location : String}
    (hroutes : router.routes = [.toRoot options]) (hnobody : router.authenticator = .anonymous)
    (haccepts : options.accepts .get = true) (hguard : options.guard = some .authenticated)
    (hfallback : options.fallback = some target) (hpath : router.normalizePath uri = "/")
    (hlocation : router.redirectLocation target = location) (world : Nat) :
    (router.resolve { uri } world).outcome = .ok (.ok (.redirect location)) := by
  have hjudged : router.judge { uri } options none world =
      ⟨.ok (.ok (some false, .rejected (some target))), [], world⟩ := by
    simp [judge, lookUp, hnobody, hguard, hfallback, Guard.needsUser, Authenticator.anonymous,
      Call.answering, RouteOptions.evaluate, Guard.check]
  rw [resolve, hroutes]
  simp only [hpath]
  rw [search_candidate _ { uri } _ _ (.toRoot options) _ _ _ ⟨[]⟩ Pattern.params?_root haccepts]
  simp only [Route.toRoot, hjudged, hlocation]

/-- A router that sends everyone without a user from the root path to a page for logging in. -/
def lobby : Router Nat :=
  { routes := [.toRoot { guard := some .authenticated, fallback := some "/login" }]
    default := .notFound }

/-- The settings of a router that is mounted at a path, written with a slash at the end. -/
def appSettings : Settings := { mount := " app/" }

theorem resolve_mounted_lobby :
    (lobby.lastSettings [.settings appSettings, .authenticator .anonymous]).basePath = "/app" ∧
    ResolvesUnder "/app" (lobby.changeAll [.settings appSettings, .authenticator .anonymous]) lobby
      { uri := "/app?tab=1" } { uri := "?tab=1" } 0 ∧
    (lobby.resolve { uri := "?tab=1" } 0).outcome = .ok (.ok (.redirect "/login")) := by
  have hbase : (lobby.lastSettings [.settings appSettings, .authenticator .anonymous]).basePath =
      "/app" := by decide +kernel
  have hmounted := resolve_mounted lobby [.settings appSettings, .authenticator .anonymous] 0
    (by rw [hbase]; simp)
  rw [hbase] at hmounted
  have halike : Alike (lobby.changeAll [.settings appSettings, .authenticator .anonymous]) lobby
      { uri := "/app?tab=1" } { uri := "?tab=1" } := ⟨rfl, rfl, rfl, fun _ => rfl⟩
  have hpath : lobby.normalizePath "?tab=1" = "/" := by decide +kernel
  have hredirect : (lobby.resolve { uri := "?tab=1" } 0).outcome = .ok (.ok (.redirect "/login")) :=
    resolve_refused rfl rfl rfl rfl rfl hpath (by decide +kernel) 0
  exact ⟨hbase, hmounted.2.1 lobby _ _ (by decide +kernel) halike (by decide +kernel)
    (.inl (by decide +kernel)), hredirect⟩

end Router

end HttpRouter
