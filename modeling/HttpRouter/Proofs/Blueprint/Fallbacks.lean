import HttpRouter.Proofs.Blueprint.Accounting
import HttpRouter.Proofs.Router.Redirecting

namespace HttpRouter

variable {World : Type}

namespace Http

/-- A text can be sent if both of its parts can. -/
theorem isHeaderValue_append (a b : String) :
    isHeaderValue (a ++ b) = (isHeaderValue a && isHeaderValue b) := by
  simp [isHeaderValue, String.toList_append, List.all_append]

/-- A redirection has the status of one, and the place to go to if that can be sent. -/
theorem Response.temporaryRedirect_value (location : String) :
    (Response.temporaryRedirect location).value.status = 302 ∧
      (Response.temporaryRedirect location).value.headers.entries =
        if isHeaderValue location = true then [("location", location)] else [] := by
  unfold temporaryRedirect withLocation
  by_cases hvalue : isHeaderValue location = true
  · rw [if_pos hvalue, if_pos hvalue]
    exact ⟨rfl, rfl⟩
  · rw [if_neg hvalue, if_neg hvalue]
    exact ⟨rfl, rfl⟩

end Http

namespace Router

/-- A place that can be sent can still be sent under a base path, if it is not put there or the base
    path can be sent as well. -/
theorem isHeaderValue_place {base target : String} (htarget : Http.isHeaderValue target = true) :
    Http.isHeaderValue (place base target) = true ↔
      (isLocal target = true → Http.isHeaderValue base = true) := by
  unfold place
  by_cases hlocal : isLocal target = true
  · rw [if_pos hlocal, Http.isHeaderValue_append, htarget, Bool.and_true]
    exact ⟨fun hbase _ => hbase, fun hbase => hbase hlocal⟩
  · rw [if_neg hlocal]
    exact ⟨fun _ h => absurd h hlocal, fun _ => htarget⟩

end Router

/-- A declaration that adds a route adds one whose guard names a place that can be sent. -/
theorem FlatDeclaration.fallback_of_route? {declaration : FlatDeclaration World} {route : Route World}
    (hroute : declaration.route? = some route) :
    route.options.fallback.all Http.isHeaderValue = true := by
  cases declaration with
  | route declaration => exact (declaration.registers_of_route? hroute).fallback
  | fallback action controllers => cases hroute

namespace Blueprint

/-- The table that declaring ends with names no place that cannot be sent. -/
theorem declareAll_fallbacks (controllers : Controllers World) (declarations : Declarations World)
    {route : Route World}
    (hroute : route ∈
      (({ controllers } : Blueprint World).declareAll declarations).value.table.routes) :
    route.options.fallback.all Http.isHeaderValue = true := by
  rw [declareAll_value] at hroute
  have hflat : route ∈ (declarations.flat [] controllers).filterMap (·.route?) := hroute
  obtain ⟨declaration, -, hroute⟩ := List.mem_filterMap.mp hflat
  exact FlatDeclaration.fallback_of_route? hroute

/-- A router that is built has the routes of the table, and its default handler or the one that knows
    no page. -/
theorem build_value {blueprint : Blueprint World} {built : Logged (Router World)}
    (hbuild : blueprint.build = .ok built) :
    built.value.routes = blueprint.table.routes ∧
      built.value.default = blueprint.table.default.getD .notFound := by
  unfold build toTable at hbuild
  cases herrors : blueprint.errors with
  | nil =>
    rw [herrors] at hbuild
    cases hbuild
    exact ⟨rfl, rfl⟩
  | cons e rest =>
    rw [herrors] at hbuild
    cases hbuild

/-- A client whom a guard of a built router refuses is answered with a redirection, whatever settings
    the router was given. The place was named at declaration and can be sent; the response holds the
    whole of it under the base path, unless the base path is in front of it and cannot be sent. -/
theorem built_redirect_sent (controllers : Controllers World) (declarations : Declarations World)
    (built : Logged (Router World)) (changes : List (Router.Change World)) (request : Http.Request)
    (world : World) (location : String)
    (hbuild : (({ controllers } : Blueprint World).declareAll declarations).value.build = .ok built)
    (hredirect : ((built.value.changeAll changes).resolve request world).outcome =
      .ok (.ok (.redirect location))) :
    let base := (built.value.lastSettings changes).basePath
    let response := ((built.value.changeAll changes).dispatch request world).1.value
    response.status = 302 ∧ ∃ target, Http.isHeaderValue target = true ∧
      location = Router.place base target ∧
      ((Router.isLocal target = true → Http.isHeaderValue base = true) →
        response.headers.entries = [("location", location)]) ∧
      (¬(Router.isLocal target = true → Http.isHeaderValue base = true) →
        response.headers.entries = []) := by
  intro base response
  have hresponse : response = (Http.Response.temporaryRedirect location).value := by
    have hserved := Router.serve_of_redirect hredirect
    simp only [response]
    rw [Router.dispatch_value, hserved]
    rfl
  obtain ⟨hstatus, hentries⟩ := Http.Response.temporaryRedirect_value location
  obtain ⟨route, hroute, target, hfallback, hlocation⟩ :=
    Router.exists_fallback_of_resolve hredirect
  rw [Router.routes_changeAll, (build_value hbuild).1] at hroute
  have htarget := declareAll_fallbacks controllers declarations hroute
  rw [hfallback, Option.all_some] at htarget
  rw [Router.settings_changeAll] at hlocation
  have hsent : Http.isHeaderValue location = true ↔
      (Router.isLocal target = true → Http.isHeaderValue base = true) := by
    rw [hlocation]
    exact Router.isHeaderValue_place htarget
  rw [hresponse, hentries]
  refine ⟨hstatus, target, htarget, hlocation, ?_, ?_⟩
  · intro hbase
    rw [if_pos (hsent.mpr hbase)]
  · intro hbase
    rw [if_neg (fun hvalue => hbase (hsent.mp hvalue))]

/-- Options for users only, who log in first. -/
def membersOnly : RouteOptions Nat :=
  { method := some .get, guard := some .authenticated, fallback := some "/login" }

/-- A single page, for users only. -/
def memberTree : Declarations Nat :=
  .declare (.add "/" (.handler .notFound) membersOnly) .done

/-- The router for that page. -/
def memberRouter : Router Nat := { routes := [.toRoot membersOnly], default := .notFound }

theorem build_memberTree :
    ∃ events, (({ } : Blueprint Nat).declareAll memberTree).value.build =
      .ok ⟨memberRouter, events⟩ :=
  ⟨_, rfl⟩

theorem built_redirect_sent_member :
    ((memberRouter.changeAll [.settings { mount := "app" }]).resolve { uri := "/app" } 0).outcome =
        .ok (.ok (.redirect "/app/login")) ∧
      ((memberRouter.changeAll [.settings { mount := "app" }]).dispatch
        { uri := "/app" } 0).1.value.headers.entries = [("location", "/app/login")] := by
  have hredirect : ((memberRouter.changeAll [.settings { mount := "app" }]).resolve
      { uri := "/app" } 0).outcome = .ok (.ok (.redirect "/app/login")) :=
    Router.resolve_refused rfl rfl rfl rfl rfl (by decide +kernel) (by decide +kernel) 0
  have hbase : (memberRouter.lastSettings [.settings { mount := "app" }]).basePath = "/app" := by
    decide +kernel
  obtain ⟨events, hbuild⟩ := build_memberTree
  have hsent := built_redirect_sent .empty memberTree ⟨memberRouter, events⟩
    [.settings { mount := "app" }] { uri := "/app" } 0 "/app/login" hbuild hredirect
  dsimp only at hsent
  rw [hbase] at hsent
  obtain ⟨hstatus, target, htarget, hlocation, hsent, hdropped⟩ := hsent
  exact ⟨hredirect, hsent fun _ => by decide⟩

/-- A base path with a line end in it cannot be sent, and takes the place behind it along. -/
theorem built_redirect_dropped :
    (∃ events, (({ } : Blueprint Nat).declareAll memberTree).value.build =
        .ok ⟨memberRouter, events⟩) ∧
      ((memberRouter.changeAll [.settings { mount := "/a\nb" }]).resolve { uri := "/" } 0).outcome =
        .ok (.ok (.redirect "/a\nb/login")) ∧
      ((memberRouter.changeAll [.settings { mount := "/a\nb" }]).dispatch
        { uri := "/" } 0).1.value.headers.entries = [] := by
  have hredirect : ((memberRouter.changeAll [.settings { mount := "/a\nb" }]).resolve
      { uri := "/" } 0).outcome = .ok (.ok (.redirect "/a\nb/login")) :=
    Router.resolve_refused rfl rfl rfl rfl rfl (by decide +kernel) (by decide +kernel) 0
  refine ⟨build_memberTree, hredirect, ?_⟩
  rw [Router.dispatch_value, Router.serve_of_redirect hredirect]
  exact (Http.Response.temporaryRedirect_value "/a\nb/login").2

end Blueprint

end HttpRouter
