import HttpRouter.Proofs.Http.Locations
import HttpRouter.Proofs.LastWrite
import HttpRouter.Proofs.Router.Settling
import HttpRouter.Proofs.Text.Trimming

namespace HttpRouter

namespace Http

/-- A header that is written has the written value, unless the write is refused. -/
theorem Headers.get?_write (headers : Headers) (name value other : String) :
    (headers.write name value).get? other =
      if isToken name && isHeaderValue value && lowerCase name == other then some value
      else headers.get? other := by
  rw [write]
  cases isToken name && isHeaderValue value with
  | false => rfl
  | true => simp [get?, set, Assoc.find?_put]

namespace Request

/-- The request after headers are written in order, each given by its name and its value. -/
def withHeaders (request : Request) (writes : List (String × String)) : Request :=
  writes.foldl (fun request write => request.withHeader write.1 write.2) request

/-- The value that a write gives a header, in whatever letter case the two name it. A write that is
    refused gives none. -/
def written? (name : String) (write : String × String) : Option String :=
  if isToken write.1 && isHeaderValue write.2 && lowerCase write.1 == lowerCase name then
    some write.2
  else none

/-- The value that is written last to a header. -/
def lastWritten? (name : String) (writes : List (String × String)) : Option String :=
  lastWrite? (written? name) writes

/-- The value of a header is the one written to it last, or else the one it had. -/
theorem get?_withHeaders (request : Request) (name : String) (writes : List (String × String)) :
    (request.withHeaders writes).headers.get? (lowerCase name) =
      (lastWritten? name writes).or (request.headers.get? (lowerCase name)) := by
  have hlast := foldl_lastWrite (fun request write => request.withHeader write.1 write.2)
    (·.headers.get? (lowerCase name)) (fun write => (written? name write).map some)
    (fun request write => ?_) writes request
  · rw [withHeaders, hlast, lastWrite?_map, ← lastWritten?]
    cases lastWritten? name writes <;> rfl
  · rw [withHeader, Headers.get?_write, written?]
    split <;> rfl

/-- Only what can be sent is written. -/
theorem isHeaderValue_of_lastWritten? {name value : String} {writes : List (String × String)}
    (hlast : lastWritten? name writes = some value) : isHeaderValue value = true := by
  obtain ⟨write, -, hwrite⟩ := exists_write_of_lastWrite? hlast
  rw [written?, Option.ite_none_right_eq_some, Bool.and_eq_true, Bool.and_eq_true] at hwrite
  obtain ⟨⟨⟨-, hvalue⟩, -⟩, hsame⟩ := hwrite
  rwa [Option.some.inj hsame] at hvalue

end Request

end Http

namespace Authenticator

/-- Whether the value of a header names a user: it is ASCII text and not blank. -/
def Names (value : String) : Prop :=
  Http.IsAscii value ∧ ¬Text.IsBlankText value

/-- The user that a header names is its value without the blanks around it. -/
theorem headerUser?_eq_some_iff {name : String} (hname : Http.isToken name = true)
    (request : Http.Request) (user : User) :
    headerUser? name request = some user ↔
      ∃ value, request.headers.get? (Http.lowerCase name) = some value ∧
        Http.isReadable value = true ∧ ¬Text.IsBlankText value ∧ user = ⟨Text.trim value⟩ := by
  rw [headerUser?, Http.Headers.read?, if_pos hname]
  cases request.headers.get? (Http.lowerCase name) with
  | none => simp
  | some value =>
    cases hreadable : Http.isReadable value with
    | false => simp [Option.filter_some, hreadable]
    | true =>
      simp only [Option.filter_some, hreadable, if_true, String.isEmpty_iff, Text.trim_eq_empty_iff]
      by_cases hblank : Text.IsBlankText value <;> simp [hblank, hreadable, @eq_comm _ user]

end Authenticator

variable {World : Type}

namespace Router

/-- Whatever is known of the current user is so of the given one. -/
def Presence.IsOf (user : Option User) (presence : Presence) : Prop :=
  ∀ present ∈ presence, present = user.isSome

/-- Nothing is known in the beginning. -/
theorem presence_isOf_none (user : Option User) : Presence.IsOf user none :=
  nofun

section Answering

variable {router : Router World} {request : Http.Request} {user : Option User}
  (hanswers : ∀ world, router.authenticator request world = (.ok (.answered user), world))

include hanswers

/-- Once a guard that looks at the user is to judge, it is known whether there is one. -/
theorem lookUp_of_answers (options : RouteOptions World) {presence : Presence} (world : World)
    (hpresence : presence.IsOf user) :
    ∃ known, router.lookUp request options presence world = ⟨.ok (.ok known), [], world⟩ ∧
      known.IsOf user ∧ (options.guard.any (·.needsUser) = true → known = some user.isSome) := by
  cases presence with
  | some present =>
    refine ⟨some present, by simp [lookUp], hpresence, fun _ => ?_⟩
    rw [hpresence present rfl]
  | none =>
    cases hneeds : options.guard.any (·.needsUser) with
    | false =>
      refine ⟨none, by simp [lookUp, hneeds], hpresence, fun h => ?_⟩
      cases h
    | true =>
      refine ⟨some user.isSome, by simp [lookUp, hneeds, hanswers], ?_, fun _ => rfl⟩
      rintro present ⟨⟩
      rfl

/-- A guard that looks at the user judges by the answer of the lookup. -/
theorem judge_of_answers {options : RouteOptions World} {presence known : Presence} {world : World}
    {verdict : Verdict} (hpresence : presence.IsOf user)
    (hjudged : (router.judge request options presence world).outcome = .ok (.ok (known, verdict))) :
    known.IsOf user ∧ ∀ guard, options.guard = some guard → guard.needsUser = true →
      verdict = verdictOf options (guard.admits user.isSome) := by
  obtain ⟨found, hlookup, hfound, hneeded⟩ := lookUp_of_answers hanswers options world hpresence
  rw [judge, hlookup] at hjudged
  dsimp only at hjudged
  refine ⟨?_, fun guard hguard hneeds => ?_⟩
  · split at hjudged
    · cases hjudged
    · cases hjudged
      exact hfound
  · rw [hneeded (by simpa [hguard] using hneeds), Option.getD_some,
      evaluate_of_needsUser hguard hneeds] at hjudged
    cases hjudged
    rfl

/-- A search that ends at a route ends there with the consent of its guard. -/
theorem admits_of_search {path : String} {index taken : Nat} {routes : List (Route World)}
    {presence : Presence} {world : World} {route : Route World} {params : Params}
    (hpresence : presence.IsOf user)
    (hmatched : (router.search request path index routes presence world).outcome =
      .ok (.ok (.matched taken route params))) {guard : Guard World}
    (hguard : route.options.guard = some guard) (hneeds : guard.needsUser = true) :
    guard.admits user.isSome = true := by
  induction routes generalizing index presence world with
  | nil => cases hmatched
  | cons first rest ih =>
    cases hcandidate : first.isCandidate path request.method with
    | false =>
      rw [search_passedOver _ _ _ _ _ _ _ _ hcandidate] at hmatched
      exact ih hpresence hmatched
    | true =>
      obtain ⟨found, hparams, haccepts⟩ := Route.exists_params_of_candidate hcandidate
      rw [search_candidate _ _ _ _ _ _ _ _ found hparams haccepts] at hmatched
      dsimp only at hmatched
      split at hmatched
      · cases hmatched
      · cases hmatched
      · -- The guard of the route that is taken has accepted the request.
        rename_i known hjudged
        cases hmatched
        have hverdict := (judge_of_answers hanswers hpresence hjudged).2 guard hguard hneeds
        by_contra hrefuses
        rw [verdictOf, if_neg hrefuses] at hverdict
        cases hverdict
      · cases hmatched
      · rename_i known hjudged
        exact ih (judge_of_answers hanswers hpresence hjudged).1 hmatched

/-- A search ends at a candidate whose guard looks at the user and lets the request pass. -/
theorem search_of_admits {path : String} {route : Route World} {params : Params} {guard : Guard World}
    (hparams : route.pattern.params? path = some params)
    (haccepts : route.options.accepts request.method = true)
    (hguard : route.options.guard = some guard) (hneeds : guard.needsUser = true)
    (hadmits : guard.admits user.isSome = true) (index : Nat) (rest : List (Route World))
    {presence : Presence} (hpresence : presence.IsOf user) (world : World) :
    (router.search request path index (route :: rest) presence world).outcome =
      .ok (.ok (.matched index route params)) := by
  obtain ⟨found, hlookup, -, hneeded⟩ :=
    lookUp_of_answers hanswers route.options world hpresence
  have hfound : found = some user.isSome := hneeded (by simpa [hguard] using hneeds)
  have hjudged : router.judge request route.options presence world =
      ⟨.ok (.ok (found, .accepted)), [], world⟩ := by
    rw [judge, hlookup, hfound]
    simp only [Option.getD_some, evaluate_of_needsUser hguard hneeds, hadmits, verdictOf, if_true]
  rw [search_candidate _ _ _ _ _ _ _ _ params hparams haccepts, hjudged]

end Answering

/-- Of the values written to a header of a new request, the one written last names a user exactly if it
    is ASCII text and not blank, and the user is that value without the blanks around it. A router that
    trusts the header takes the request to a route for users only if it names one, and to a route for
    everyone else only if it does not. -/
theorem header_user_iff (router : Router World) {name : String} (hname : Http.isToken name = true)
    (method : Http.Method) (uri : String) (writes : List (String × String)) :
    let request := ({ method, uri } : Http.Request).withHeaders writes
    let last := Http.Request.lastWritten? name writes
    let trusting := router.withAuthenticator (.header name)
    (∀ user, Authenticator.headerUser? name request = some user ↔
      ∃ value, last = some value ∧ Authenticator.Names value ∧ user = ⟨Text.trim value⟩) ∧
    ∀ world index route params,
      (trusting.resolve request world).outcome = .ok (.ok (.matched index route params)) →
        (route.options.guard = some .authenticated →
          ∃ value, last = some value ∧ Authenticator.Names value) ∧
        (route.options.guard = some .anonymous →
          ∀ value, last = some value → ¬Authenticator.Names value) := by
  intro request last trusting
  have hvalue : request.headers.get? (Http.lowerCase name) = last := by
    rw [Http.Request.get?_withHeaders]
    exact Option.or_none
  have huser : ∀ user, Authenticator.headerUser? name request = some user ↔
      ∃ value, last = some value ∧ Authenticator.Names value ∧ user = ⟨Text.trim value⟩ := by
    intro user
    rw [Authenticator.headerUser?_eq_some_iff hname, hvalue]
    refine exists_congr fun value => and_congr_right fun hlast => ?_
    rw [Http.isReadable_iff, and_iff_right (Http.Request.isHeaderValue_of_lastWritten? hlast),
      Authenticator.Names, and_assoc]
  refine ⟨huser, fun world index route params hmatched => ?_⟩
  have hadmits : ∀ guard, route.options.guard = some guard → guard.needsUser = true →
        guard.admits (Authenticator.headerUser? name request).isSome = true := fun guard =>
    admits_of_search (fun world => rfl) (presence_isOf_none _) hmatched
  refine ⟨fun hguard => ?_, fun hguard value hlast hnames => ?_⟩
  · obtain ⟨user, hfound⟩ := Option.isSome_iff_exists.mp (hadmits .authenticated hguard rfl)
    obtain ⟨value, hlast, hnames, -⟩ := (huser user).mp hfound
    exact ⟨value, hlast, hnames⟩
  · have hrefuses := hadmits .anonymous hguard rfl
    rw [(huser _).mpr ⟨value, hlast, hnames, rfl⟩] at hrefuses
    cases hrefuses

/-- A router with a single page, at the root path, behind a guard. -/
def guarded (guard : Guard Nat) : Router Nat :=
  { routes := [.toRoot { guard := some guard }]
    default := .notFound }

/-- A guarded page is given to whom its guard lets pass by what the header names. -/
theorem resolve_guarded {guard : Guard Nat} {name : String} {request : Http.Request}
    (huri : request.uri = "/") (hneeds : guard.needsUser = true)
    (hadmits : guard.admits (Authenticator.headerUser? name request).isSome = true) (world : Nat) :
    (((guarded guard).withAuthenticator (.header name)).resolve request world).outcome =
      .ok (.ok (.matched 0 (.toRoot { guard := some guard }) ⟨[]⟩)) := by
  have hpath : ((guarded guard).withAuthenticator (.header name)).normalizePath "/" = "/" := by
    simp only [normalizePath, withAuthenticator, guarded]
    decide +kernel
  rw [resolve, huri, hpath]
  exact search_of_admits (fun world => rfl) Pattern.params?_root rfl rfl hneeds hadmits 0 []
    (presence_isOf_none _) world

theorem header_user_iff_spellings :
    let writes := [("Remote_User", "bob"), ("REMOTE_USER", "\talice "), ("remote_user", "eve\n")]
    let request := ({ uri := "/" } : Http.Request).withHeaders writes
    let trusting := (guarded .authenticated).withAuthenticator (.header "remote_USER")
    Http.isToken "remote_USER" = true ∧
      Authenticator.headerUser? "remote_USER" request = some ⟨"alice"⟩ ∧
      (trusting.resolve request 0).outcome =
        .ok (.ok (.matched 0 (.toRoot { guard := some .authenticated }) ⟨[]⟩)) ∧
      ∃ value, Http.Request.lastWritten? "remote_USER" writes = some value ∧
        Authenticator.Names value := by
  intro writes request trusting
  have hname : Http.isToken "remote_USER" = true := by decide
  obtain ⟨huser, hguards⟩ := header_user_iff (guarded .authenticated) hname .get "/" writes
  have hascii : Http.IsAscii "\talice " := ((Http.isReadable_iff _).mp (by decide)).2
  have hblank : ¬Text.IsBlankText "\talice " := Text.trim_eq_empty_iff.not.mp (by decide)
  have halice := (huser ⟨"alice"⟩).mpr ⟨"\talice ", by decide, ⟨hascii, hblank⟩, by decide⟩
  have hmatched : (trusting.resolve request 0).outcome =
      .ok (.ok (.matched 0 (.toRoot { guard := some .authenticated }) ⟨[]⟩)) :=
    resolve_guarded rfl rfl (by rw [halice]; rfl) 0
  exact ⟨hname, halice, hmatched, (hguards 0 0 _ _ hmatched).1 rfl⟩

/-- A user with a letter beyond ASCII in the name is taken for nobody. -/
theorem header_user_lost :
    let request := ({ uri := "/" } : Http.Request).withHeaders [("X-User", "josé")]
    let trusting := (guarded .anonymous).withAuthenticator (.header "X-User")
    Http.isToken "X-User" = true ∧
      Http.Request.lastWritten? "X-User" [("X-User", "josé")] = some "josé" ∧
      ¬Text.IsBlankText "josé" ∧
      Authenticator.headerUser? "X-User" request = none ∧
      (trusting.resolve request 0).outcome =
        .ok (.ok (.matched 0 (.toRoot { guard := some .anonymous }) ⟨[]⟩)) := by
  intro request trusting
  have hnobody : Authenticator.headerUser? "X-User" request = none := by decide
  have hblank : ¬Text.IsBlankText "josé" := Text.trim_eq_empty_iff.not.mp (by decide)
  exact ⟨by decide, by decide, hblank, hnobody, resolve_guarded rfl rfl (by rw [hnobody]; rfl) 0⟩

end Router

end HttpRouter
