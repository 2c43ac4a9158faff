import HttpRouter.Proofs.Router.Redirecting

namespace HttpRouter.Router

variable {World : Type}

/-- Whether the path of a target is the base path or goes on below it. -/
def LiesUnder (base target : String) : Prop :=
  base ≠ "" ∧ (beforeQuery target = base.toList ∨ base.toList ++ ['/'] <+: beforeQuery target)

instance (base target : String) : Decidable (LiesUnder base target) :=
  inferInstanceAs (Decidable (base ≠ "" ∧
    (beforeQuery target = base.toList ∨ base.toList ++ ['/'] <+: beforeQuery target)))

theorem beforeQuery_slash (target : String) :
    beforeQuery ("/" ++ target) = '/' :: beforeQuery target := by
  have hslash : "/".toList = ['/'] := rfl
  rw [beforeQuery, String.toList_append, hslash, List.singleton_append,
    List.takeWhile_cons_of_pos (by decide)]
  rfl

/-- Without a slash in front of a target there is none in front of its path. -/
theorem head?_beforeQuery_ne {target : String} (hslash : target.toList.head? ≠ some '/') :
    (beforeQuery target).head? ≠ some '/' := by
  intro hhead
  obtain ⟨rest, hpath⟩ := List.head?_eq_some_iff.mp hhead
  obtain ⟨query, htarget⟩ := List.takeWhile_prefix (l := target.toList) fun c => c ≠ '?' && c ≠ '#'
  refine hslash ?_
  rw [← htarget]
  change (beforeQuery target ++ query).head? = some '/'
  rw [hpath]
  rfl

theorem rooted_of_head?_ne {path : List Char} (hslash : path.head? ≠ some '/') :
    rooted path = .ofList ('/' :: path) := by
  unfold rooted
  split
  · exact absurd rfl hslash
  · rfl

/-- A path without a slash in front does not lie under a base path. -/
theorem stripMount_of_head?_ne (settings : Settings) {path : List Char}
    (hslash : path.head? ≠ some '/') : stripMount settings.basePath.toList path = path := by
  obtain hempty | ⟨c, rest, hbase⟩ := settings.basePath_cases
  · rw [hempty]
    rfl
  · rw [hbase]
    refine stripMount_of_outside ?_ ?_
    · rintro rfl
      exact hslash rfl
    · rintro ⟨tail, rfl⟩
      exact hslash rfl

/-- The path of a target without a slash in front gets one, and keeps everything else. -/
theorem normalizePath_unslashed (router : Router World) {target : String}
    (hslash : target.toList.head? ≠ some '/') :
    router.normalizePath target = .ofList ('/' :: beforeQuery target) := by
  have hpath := head?_beforeQuery_ne hslash
  rw [normalizePath_eq, stripMount_of_head?_ne router.settings hpath, rooted_of_head?_ne hpath]

/-- The path of a target that lies under the base path gets shorter. -/
theorem length_normalizePath_lt (router : Router World) {target : String}
    (hunder : LiesUnder router.settings.basePath target) :
    (router.normalizePath target).toList.length < (beforeQuery target).length := by
  obtain ⟨hne, hunder⟩ := hunder
  obtain ⟨rest, hpath, hrest⟩ : ∃ rest, beforeQuery target = router.settings.basePath.toList ++ rest ∧
      (rest = [] ∨ ∃ tail, rest = '/' :: tail) := by
    obtain hsame | ⟨tail, hbelow⟩ := hunder
    · exact ⟨[], by rw [hsame, List.append_nil], .inl rfl⟩
    · exact ⟨'/' :: tail, by rw [← hbelow, List.append_assoc]; rfl, .inr ⟨tail, rfl⟩⟩
  have hrooted : (rooted rest).toList.length ≤ rest.length + 1 := by
    obtain rfl | ⟨tail, rfl⟩ := hrest
    · rfl
    · rw [rooted, String.toList_ofList]
      omega
  have hbase : 2 ≤ router.settings.basePath.toList.length := by
    obtain hempty | ⟨c, tail, hbase⟩ := router.settings.basePath_cases
    · exact absurd hempty hne
    · rw [hbase]
      simp
  rw [normalizePath_eq, hpath, stripMount_append _ hrest, List.length_append]
  omega

/-- A target that does not lie under the base path keeps its path, with a slash in front. -/
theorem normalizePath_of_outside (router : Router World) {target : String}
    (hunder : ¬LiesUnder router.settings.basePath target) :
    router.normalizePath target = rooted (beforeQuery target) := by
  rw [normalizePath_eq]
  by_cases hempty : router.settings.basePath = ""
  · rw [hempty]
    rfl
  · rw [stripMount_of_outside fun hsame => hunder ⟨hempty, .inl hsame⟩]
    exact fun hbelow => hunder ⟨hempty, .inr hbelow⟩

/-- A target without a slash in front is taken as it is with one, base path and all. That is the path of
    the target with a slash in front exactly if this does not lie under the base path, and then both
    resolve alike and by the same calls. -/
theorem unslashed_agrees (router : Router World) {target : String}
    (hslash : target.toList.head? ≠ some '/') :
    let base := router.settings.basePath
    let slashed := "/" ++ target
    router.normalizePath target = .ofList ('/' :: beforeQuery target) ∧
    (router.normalizePath target = router.normalizePath slashed ↔ ¬LiesUnder base slashed) ∧
    (¬LiesUnder base slashed → ∀ (request other : Http.Request) (world : World),
      request.uri = target → other.uri = slashed → Alike router router request other →
        router.resolve request world = router.resolve other world ∧
          router.resolveRecord request world = router.resolveRecord other world) := by
  intro base slashed
  have hpath := router.normalizePath_unslashed hslash
  have hagrees : ¬LiesUnder base slashed →
      router.normalizePath target = router.normalizePath slashed := by
    intro hunder
    rw [hpath, router.normalizePath_of_outside hunder, beforeQuery_slash]
    rfl
  refine ⟨hpath, ⟨?_, hagrees⟩, ?_⟩
  · intro hsame hunder
    have hshorter := router.length_normalizePath_lt hunder
    rw [← hsame, hpath, String.toList_ofList, beforeQuery_slash] at hshorter
    exact Nat.lt_irrefl _ hshorter
  · intro hunder request other world hrequest hother halike
    have hsame := halike.resolvesUnder (fun target => (place_empty _).symm)
      (by rw [hrequest, hother, hagrees hunder]) world
    exact ⟨by simpa using hsame.run, hsame.record⟩

theorem unslashed_agrees_users :
    let router := lobby.withSettings appSettings
    router.settings.basePath = "/app" ∧ ¬LiesUnder "/app" ("/" ++ "users/42?q=/app") ∧
      router.normalizePath "users/42?q=/app" = "/users/42" ∧
      router.normalizePath ("/" ++ "users/42?q=/app") = "/users/42" ∧
      router.resolve { uri := "users/42?q=/app" } 0 =
        router.resolve { uri := "/" ++ "users/42?q=/app" } 0 := by
  intro router
  have hbase : router.settings.basePath = "/app" := by decide +kernel
  have hslash : "users/42?q=/app".toList.head? ≠ some '/' := by decide
  have hunder : ¬LiesUnder "/app" ("/" ++ "users/42?q=/app") := by decide
  have hnormal : router.normalizePath "users/42?q=/app" = "/users/42" := by decide +kernel
  have halike : Alike router router { uri := "users/42?q=/app" } { uri := "/" ++ "users/42?q=/app" } :=
    ⟨rfl, rfl, rfl, fun _ => rfl⟩
  have hagrees := router.unslashed_agrees hslash
  dsimp only at hagrees
  rw [hbase] at hagrees
  obtain ⟨-, hpath, hresolve⟩ := hagrees
  refine ⟨hbase, hunder, hnormal, ?_, (hresolve hunder _ _ 0 rfl rfl halike).1⟩
  rw [← hpath.mpr hunder, hnormal]

/-- Under a base path, a client that leaves out the slash gets another page. -/
theorem unslashed_strays :
    let router := lobby.withSettings { mount := "/app" }
    "app".toList.head? ≠ some '/' ∧
      router.normalizePath "app" = "/app" ∧ router.normalizePath ("/" ++ "app") = "/" ∧
      (router.resolve { uri := "app" } 0).outcome = .ok (.ok .default) ∧
      (router.resolve { uri := "/" ++ "app" } 0).outcome = .ok (.ok (.redirect "/app/login")) := by
  intro router
  have hstrayed : router.normalizePath "app" = "/app" := by decide +kernel
  have hreached : router.normalizePath ("/" ++ "app") = "/" := by decide +kernel
  have hnone : Pattern.root.params? "/app" = none := by cbv
  have hdefault : (router.resolve { uri := "app" } 0).outcome = .ok (.ok .default) := by
    rw [resolve]
    simp only [hstrayed]
    simp only [router, withSettings, lobby, Route.toRoot, search, hnone]
  exact ⟨by decide, hstrayed, hreached, hdefault,
    resolve_refused rfl rfl rfl rfl rfl hreached (by decide +kernel) 0⟩

end HttpRouter.Router
