import HttpRouter.Proofs.Router.Answering
import HttpRouter.Proofs.Router.Mounting
import HttpRouter.Proofs.Settings.BasePath

namespace HttpRouter

variable {World : Type}

/-- A base path that is not empty is a slash with something behind it. -/
theorem Settings.basePath_cases (settings : Settings) :
    settings.basePath = "" ∨ ∃ c rest, settings.basePath.toList = '/' :: c :: rest := by
  refine settings.rooted_basePath.imp_right fun hslash => ?_
  obtain ⟨rest, hbase⟩ := List.head?_eq_some_iff.mp hslash
  cases rest with
  | nil => exact absurd (by rw [hbase]; rfl) settings.openEnd_basePath
  | cons c rest => exact ⟨c, rest, hbase⟩

namespace Router

/-- A place on the site begins with a slash that no other one follows. -/
theorem isLocal_iff (target : String) :
    isLocal target = true ↔ ∃ rest, target.toList = '/' :: rest ∧ ¬['/'] <+: rest := by
  unfold isLocal
  split
  · rename_i rest htarget
    rw [htarget]
    simp
  · rename_i rest hdouble htarget
    have hrest : ¬['/'] <+: rest := by
      rintro ⟨tail, rfl⟩
      exact hdouble tail rfl
    simpa [htarget] using hrest
  · rename_i hsingle
    simp only [Bool.false_eq_true, false_iff, not_exists, not_and]
    intro rest htarget
    exact absurd htarget (hsingle rest)

/-- Whether a base path begins with two slashes, as the address of another site does. -/
def LeadsAway (base : String) : Prop :=
  ['/', '/'] <+: base.toList

/-- Whether a path holds nothing that a query or a fragment begins with. -/
def Uncut (path : String) : Prop :=
  ∀ c ∈ path.toList, c ≠ '?' ∧ c ≠ '#'

instance : DecidablePred LeadsAway :=
  fun base => inferInstanceAs (Decidable (['/', '/'] <+: base.toList))

instance : DecidablePred Uncut :=
  fun path => inferInstanceAs (Decidable (∀ c ∈ path.toList, c ≠ '?' ∧ c ≠ '#'))

section Placing

variable {base target : String}

/-- Under a base path, a place on the site stays on it unless the base path leads away. -/
theorem isLocal_place (hbase : base = "" ∨ ∃ c rest, base.toList = '/' :: c :: rest)
    (hlocal : isLocal target = true) : isLocal (place base target) = true ↔ ¬LeadsAway base := by
  rw [place, if_pos hlocal]
  obtain rfl | ⟨c, rest, hbase⟩ := hbase
  · simpa [LeadsAway] using hlocal
  · have hplace : (base ++ target).toList = '/' :: c :: (rest ++ target.toList) := by
      rw [String.toList_append, hbase]
      rfl
    rw [isLocal_iff, hplace, LeadsAway, hbase]
    simp [List.cons_prefix_cons]

/-- A base path that a question mark or a number sign cuts short hides whatever is put under it. -/
theorem beforeQuery_append_of_cut (hcut : ¬Uncut base) (target : String) :
    beforeQuery (base ++ target) = beforeQuery base := by
  unfold beforeQuery
  rw [String.toList_append]
  have hshort : (base.toList.takeWhile fun c => c ≠ '?' && c ≠ '#').length ≠ base.toList.length := by
    intro hlength
    have hwhole := List.takeWhile_eq_self_iff.mp
      ((List.takeWhile_prefix _).eq_of_length hlength)
    refine hcut fun c hc => ?_
    simpa using hwhole c hc
  rw [List.takeWhile_append, if_neg hshort]

/-- The part of a base path before the character that cuts it short does not lie under it. -/
theorem stripMount_of_cut (hcut : ¬Uncut base) :
    stripMount base.toList (beforeQuery base) = beforeQuery base := by
  have hprefix : beforeQuery base <+: base.toList := List.takeWhile_prefix _
  have hne : beforeQuery base ≠ base.toList := by
    intro heq
    refine hcut fun c hc => ?_
    have hwhole := List.takeWhile_eq_self_iff.mp heq c hc
    simpa using hwhole
  refine stripMount_of_outside hne ?_
  intro hbelow
  have hle := (hbelow.trans hprefix).length_le
  rw [List.length_append, List.length_singleton] at hle
  omega

end Placing

/-- Resolving sends a client to the place that a route of the table names, which is put under the base
    path if it is on the site. -/
theorem exists_fallback_of_resolve {router : Router World} {request : Http.Request} {world : World}
    {location : String}
    (hredirect : (router.resolve request world).outcome = .ok (.ok (.redirect location))) :
    ∃ route ∈ router.routes, ∃ target, route.options.fallback = some target ∧
      location = place router.settings.basePath target := by
  obtain ⟨reached, hstops⟩ := router.resolve_stops request world
  obtain ⟨-, hdefault⟩ | ⟨route, hroute, -, hends⟩ := hstops.ended
  · rw [hredirect] at hdefault
    cases hdefault
  · rw [hredirect] at hends
    cases hends with
    | redirected target hfallback hverdict =>
      exact ⟨route, List.mem_of_getElem? hroute, target, hfallback, rfl⟩

/-- The place that resolving leads to is the one that the client is sent to. -/
theorem serve_of_redirect {router : Router World} {request : Http.Request} {world : World}
    {location : String}
    (hredirect : (router.resolve request world).outcome = .ok (.ok (.redirect location))) :
    (router.serve request world).outcome =
      .ok (Http.Response.temporaryRedirect location).value := by
  unfold serve
  simp only [hredirect]

/-- A handler that replies with a place has the client sent there, under the base path if the place is
    on the site. -/
theorem handle_of_redirect {router : Router World} {handler : Handler World} {context : Context}
    {world after : World} {target : String}
    (hreply : handler context world = (.ok (.ok (.redirect target)), after)) :
    (router.handle handler context world).outcome =
      .ok (Http.Response.temporaryRedirect (place router.settings.basePath target)).value := by
  unfold handle
  rw [hreply]
  rfl

/-- A place on the site resolves, under a base path that is not cut short, to the path it names. -/
theorem normalizePath_place (router : Router World) {target : String}
    (hlocal : isLocal target = true) :
    router.normalizePath (place router.settings.basePath target) =
      .ofList (beforeQuery
        (if Uncut router.settings.basePath then target else router.settings.basePath)) := by
  obtain ⟨rest, htarget, -⟩ := (isLocal_iff target).mp hlocal
  have hrooted : ∃ tail, beforeQuery target = '/' :: tail := by
    refine ⟨rest.takeWhile fun c => c ≠ '?' && c ≠ '#', ?_⟩
    simp [beforeQuery, htarget]
  rw [normalizePath_eq, place, if_pos hlocal]
  by_cases huncut : Uncut router.settings.basePath
  · rw [if_pos huncut, beforeQuery_append huncut, stripMount_append _ (.inr hrooted)]
    obtain ⟨tail, htail⟩ := hrooted
    rw [htail]
    rfl
  · rw [if_neg huncut, beforeQuery_append_of_cut huncut, stripMount_of_cut huncut]
    obtain hempty | ⟨c, rest, hbase⟩ := router.settings.basePath_cases
    · exact absurd (by simp [Uncut, hempty]) huncut
    · have hbase : ∃ tail, beforeQuery router.settings.basePath = '/' :: tail := by
        refine ⟨(c :: rest).takeWhile fun c => c ≠ '?' && c ≠ '#', ?_⟩
        rw [beforeQuery, hbase, List.takeWhile_cons_of_pos (by decide)]
      obtain ⟨tail, htail⟩ := hbase
      rw [htail]
      rfl

/-- Wherever a router sends a client, it is to a place that a guard or a handler named, and a place on
    the site is put under the base path. It stays on the site exactly if the base path does not lead
    away. Resolving it gives its own path back if the base path is not cut short, and otherwise the
    part of the base path that is left, whatever the place was. -/
theorem redirect_returns (router : Router World) :
    let base := router.settings.basePath
    (∀ request world location,
      (router.resolve request world).outcome = .ok (.ok (.redirect location)) →
        (router.serve request world).outcome =
            .ok (Http.Response.temporaryRedirect location).value ∧
          ∃ route ∈ router.routes, ∃ target, route.options.fallback = some target ∧
            location = router.redirectLocation target) ∧
    (∀ (handler : Handler World) context world after target,
      handler context world = (.ok (.ok (.redirect target)), after) →
        (router.handle handler context world).outcome =
          .ok (Http.Response.temporaryRedirect (router.redirectLocation target)).value) ∧
    ∀ target, isLocal target = true →
      (isLocal (router.redirectLocation target) = true ↔ ¬LeadsAway base) ∧
      (Uncut base → router.normalizePath (router.redirectLocation target) =
        .ofList (beforeQuery target)) ∧
      (¬Uncut base → router.normalizePath (router.redirectLocation target) =
        .ofList (beforeQuery base)) := by
  intro base
  refine ⟨?_, ?_, ?_⟩
  · intro request world location hredirect
    exact ⟨serve_of_redirect hredirect, exists_fallback_of_resolve hredirect⟩
  · intro handler context world after target hreply
    exact handle_of_redirect hreply
  · intro target hlocal
    have hpath := router.normalizePath_place hlocal
    refine ⟨isLocal_place router.settings.basePath_cases hlocal, ?_, ?_⟩
    · intro huncut
      rw [redirectLocation_eq, hpath, if_pos huncut]
    · intro hcut
      rw [redirectLocation_eq, hpath, if_neg hcut]

/-- A base path with two slashes in front takes the client to another site, and one with a question
    mark in it never comes back to the place that was meant. -/
theorem redirect_strays :
    ((lobby.withSettings { mount := "//other" }).resolve { uri := "//other/" } 0).outcome =
        .ok (.ok (.redirect "//other/login")) ∧
      isLocal "/login" = true ∧ isLocal "//other/login" = false ∧
      ((lobby.withSettings { mount := "/app?v1" }).resolve { uri := "/" } 0).outcome =
        .ok (.ok (.redirect "/app?v1/login")) ∧
      (lobby.withSettings { mount := "/app?v1" }).normalizePath "/app?v1/login" = "/app" := by
  refine ⟨?_, rfl, rfl, ?_, by decide +kernel⟩
  · exact resolve_refused rfl rfl rfl rfl rfl (by decide +kernel) (by decide +kernel) 0
  · exact resolve_refused rfl rfl rfl rfl rfl (by decide +kernel) (by decide +kernel) 0

end Router

end HttpRouter
