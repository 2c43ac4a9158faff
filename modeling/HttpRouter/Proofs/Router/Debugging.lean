import HttpRouter.Proofs.Router.Replaying

namespace HttpRouter

variable {World : Type}

section Texts

/-- Every character of a string takes room where the string is written. -/
theorem Json.escapedChar_ne_nil (c : Char) : escapedChar c ≠ [] := by
  unfold escapedChar
  split
  all_goals first
    | exact List.cons_ne_nil _ _
    | (split
       · exact List.cons_ne_nil _ _
       · split <;> exact List.cons_ne_nil _ _)

/-- A string and the same one with more behind it are written alike only if nothing is more. -/
theorem Json.stringText_append_eq_iff (s more : String) :
    stringText (s ++ more) = stringText s ↔ more = "" := by
  rw [stringText, stringText, String.ofList_inj, List.append_cancel_right_eq, List.cons_inj_right,
    String.toList_append, List.flatMap_append, List.append_right_eq_self, List.flatMap_eq_nil_iff,
    ← String.toList_eq_nil_iff]
  constructor
  · intro hnone
    exact List.eq_nil_iff_forall_not_mem.mpr fun c hc => escapedChar_ne_nil c (hnone c hc)
  · intro hnil
    rw [hnil]
    nofun

/-- The payload for a failure of the server ends in its detail. -/
theorem Http.ErrorBody.exists_text_internal : ∃ front : String, ∀ detail,
    (internal detail).toJson.text = front ++ Json.stringText detail ++ "\x7d" := by
  refine ⟨"\x7b" ++ ",".intercalate [Json.stringText "code" ++ ":" ++ Json.stringText "500",
    Json.stringText "title" ++ ":" ++ Json.stringText "Internal Server Error",
    Json.stringText "message" ++ ":"], fun detail => ?_⟩
  simp only [toJson, internal, Json.text, Json.memberTexts, String.intercalate_cons_cons,
    String.intercalate_singleton, String.append_assoc]

/-- What is put behind the detail of a failure shows in the body. -/
theorem Http.Response.body_internalError_append_eq_iff (detail more : String) :
    (internalError (detail ++ more)).body = (internalError detail).body ↔ more = "" := by
  obtain ⟨front, hfront⟩ := ErrorBody.exists_text_internal
  have hbody : ∀ detail, (internalError detail).body =
      (front ++ Json.stringText detail ++ "\x7d").toUTF8 := fun detail => by rw [← hfront]; rfl
  rw [hbody, hbody, String.toUTF8, String.toUTF8, String.toByteArray_inj, String.append_left_inj,
    String.append_right_inj, Json.stringText_append_eq_iff]

/-- The report of a failure is its message with more behind it, unless there are no causes. -/
theorem Failure.exists_report_eq (failure : Failure) :
    ∃ more, failure.report = failure.message ++ more ∧ (more = "" ↔ failure.causes = []) := by
  obtain ⟨message, causes⟩ := failure
  unfold report
  split
  · rename_i hcauses
    exact ⟨"", String.append_empty.symm, iff_of_true rfl hcauses⟩
  · rename_i cause hcauses
    dsimp only at hcauses ⊢
    subst hcauses
    exact ⟨_, String.append_assoc, by simp⟩
  · rename_i hnone _
    exact ⟨_, String.append_assoc, iff_of_false (by simp) hnone⟩

end Texts

/-- The answer of a handler with the causes of its failure left out. -/
def withoutCauses (answer : Except Panic (Except Failure Reply)) : Except Panic (Except Failure Reply) :=
  answer.map (Except.mapError fun failure => { failure with causes := [] })

namespace Ending

/-- The answer of the handler, if one is called. -/
def answer? : Ending → Option (Except Panic (Except Failure Reply))
  | answered answer => some answer
  | _ => none

theorem eq_of_failure? {ending : Ending} {failure : Failure} (h : ending.failure? = some failure) :
    ending = answered (.ok (.error failure)) := by
  unfold failure? at h
  split at h
  · rw [Option.some.inj h]
  · cases h

/-- What is told behind the search does not depend on the causes of a failure. -/
theorem events_withoutCauses (router : Router World) (answer : Except Panic (Except Failure Reply)) :
    (answered (withoutCauses answer)).events router = (answered answer).events router := by
  rcases answer with panic | failure | reply <;> rfl

/-- Where causes are not told, the response does not depend on them. -/
theorem response_withoutCauses {router : Router World} (hdebug : router.settings.debug = false)
    (answer : Except Panic (Except Failure Reply)) :
    (answered (withoutCauses answer)).response router = (answered answer).response router := by
  rcases answer with panic | failure | reply
  · rfl
  · simp [withoutCauses, Except.map, Except.mapError, response, Router.failureResponse, hdebug]
  · rfl

end Ending

namespace Router

section Congruence

variable {router other : Router World}

/-- Replies are answered by where the router puts the places that it sends clients to. -/
theorem replyResponse_congr (hlocation : router.redirectLocation = other.redirectLocation) :
    router.replyResponse = other.replyResponse := by
  funext reply
  cases reply with
  | redirect target => rw [replyResponse, replyResponse, hlocation]
  | _ => rfl

theorem events_congr (hlocation : router.redirectLocation = other.redirectLocation)
    (ending : Ending) : ending.events router = ending.events other := by
  unfold Ending.events Ending.location?
  rw [hlocation]

end Congruence

/-- The router with the causes of failures told to clients, or not. -/
def withDebug (router : Router World) (debug : Bool) : Router World :=
  router.withSettings { router.settings with debug }

section Setting

variable (router : Router World) (debug : Bool)

theorem recorded_withDebug : (router.withDebug debug).recorded = router.recorded.withDebug debug := rfl

theorem lookUp_withDebug : (router.withDebug debug).lookUp = router.lookUp := rfl

theorem redirectLocation_withDebug :
    (router.withDebug debug).redirectLocation = router.redirectLocation := by
  funext target
  simp only [redirectLocation, withDebug, withSettings, Settings.basePath]

theorem normalizePath_withDebug : (router.withDebug debug).normalizePath = router.normalizePath := by
  funext uri
  simp only [normalizePath, withDebug, withSettings, Settings.basePath]

/-- A search does not look at whether causes are told. -/
theorem search_withDebug (request : Http.Request) (path : String) (routes : List (Route World))
    (index : Nat) (presence : Presence) (world : World) :
    (router.withDebug debug).search request path index routes presence world =
      router.search request path index routes presence world := by
  induction routes generalizing index presence world with
  | nil => rfl
  | cons route rest ih =>
    simp only [search, ih, lookUp_withDebug, redirectLocation_withDebug]

theorem resolve_withDebug (request : Http.Request) (world : World) :
    (router.withDebug debug).resolve request world = router.resolve request world := by
  unfold resolve
  rw [search_withDebug, normalizePath_withDebug]
  rfl

theorem ending_withDebug (request : Http.Request) (world : World) :
    (router.withDebug debug).ending request world = router.ending request world := by
  unfold ending
  rw [resolve_withDebug]
  rcases (router.resolve request world).outcome with panic | e | resolution
  · rfl
  · rfl
  · cases resolution <;> rfl

theorem dispatch_world_withDebug (request : Http.Request) (world : World) :
    ((router.withDebug debug).dispatch request world).2 = (router.dispatch request world).2 := by
  have hanswered := router.serve_answered request world
  have hother := (router.withDebug debug).serve_answered request world
  rw [resolve_withDebug] at hother
  rw [dispatch_world, dispatch_world]
  generalize (router.resolve request world).outcome = outcome at hanswered hother
  generalize (router.serve request world).world = after at hanswered ⊢
  generalize ((router.withDebug debug).serve request world).world = after' at hother ⊢
  cases hanswered <;> cases hother <;> rfl

theorem dispatch_events_withDebug (request : Http.Request) (world : World) :
    ((router.withDebug debug).dispatch request world).1.events =
      (router.dispatch request world).1.events := by
  rw [dispatch_events_eq, dispatch_events_eq, resolve_withDebug, ending_withDebug,
    events_congr (router.redirectLocation_withDebug debug)]

end Setting

/-- The response to anything but the failure of a handler does not depend on whether causes are
    told. -/
theorem response_withDebug {router : Router World} {ending : Ending} (hnone : ending.failure? = none)
    (debug : Bool) : ending.response (router.withDebug debug) = ending.response router := by
  rcases ending with panic | e | location | panic | failure | reply
  · rfl
  · unfold Ending.response failureResponse Failure.report
    simp
  · rfl
  · rfl
  · cases hnone
  · simp only [Ending.response, replyResponse_congr (router.redirectLocation_withDebug debug)]

/-- Whether causes are told shows in the response to a failure exactly if there are causes. -/
theorem body_failureResponse_withDebug (router : Router World) (debug : Bool) (failure : Failure) :
    ((router.withDebug debug).failureResponse failure).body = (router.failureResponse failure).body ↔
      debug = router.settings.debug ∨ failure.causes = [] := by
  obtain ⟨more, hreport, hmore⟩ := failure.exists_report_eq
  have hshows : (Http.Response.internalError failure.report).body =
      (Http.Response.internalError failure.message).body ↔ failure.causes = [] := by
    rw [hreport, Http.Response.body_internalError_append_eq_iff, hmore]
  have htold : ((router.withDebug debug).failureResponse failure).body =
      (Http.Response.internalError (if debug then failure.report else failure.message)).body := rfl
  rw [htold, failureResponse]
  cases debug <;> cases router.settings.debug
  · exact iff_of_true rfl (.inl rfl)
  · simpa [eq_comm] using hshows
  · simpa using hshows
  · exact iff_of_true rfl (.inl rfl)

/-- The settings decide on the response to what is left to do. -/
theorem response_of_settings {router other : Router World}
    (hsettings : router.settings = other.settings) (ending : Ending) :
    ending.response router = ending.response other := by
  have hfailure : router.failureResponse = other.failureResponse := by
    funext failure
    rw [failureResponse, failureResponse, hsettings]
  unfold Ending.response
  rw [hfailure, replyResponse_congr (redirectLocation_of_settings hsettings)]

/-- Runs with one record both come to the answer of a handler, or to the same without one. -/
theorem Replays.ending_cases {router other : Router World} {request : Http.Request}
    {world world' : World} (h : Replays router other request world world') :
    (∃ answer answer', router.ending request world = .answered answer ∧
        other.ending request world' = .answered answer') ∨
      router.ending request world = other.ending request world' := by
  have hagrees := h.resolve_agrees.1
  unfold ending
  dsimp only
  generalize (router.resolve request world).outcome = outcome at hagrees ⊢
  generalize (other.resolve request world').outcome = outcome' at hagrees ⊢
  cases hagrees with
  | matched index route other params => exact .inl ⟨_, _, rfl, rfl⟩
  | default => exact .inl ⟨_, _, rfl, rfl⟩
  | redirect location => exact .inr rfl
  | failed e => exact .inr rfl
  | panicked panic => exact .inr rfl

/-- Where causes are not told, runs with one record in which the answers of handlers differ at most in
    causes give the same response and tell the same. -/
theorem Replays.dispatch_eq {router other : Router World} {request : Http.Request}
    {world world' : World} (h : Replays router other request world world')
    (hdebug : router.settings.debug = false)
    (hanswers : (router.ending request world).answer?.map withoutCauses =
      (other.ending request world').answer?.map withoutCauses) :
    (router.dispatch request world).1.value = (other.dispatch request world').1.value ∧
      (router.dispatch request world).1.events = (other.dispatch request world').1.events := by
  have hsame : (router.ending request world).response router =
        (other.ending request world').response other ∧
      (router.ending request world).events router = (other.ending request world').events other := by
    rw [← response_of_settings h.settings, ← events_congr (redirectLocation_of_settings h.settings)]
    obtain ⟨answer, answer', hending, hending'⟩ | hending := h.ending_cases
    · rw [hending, hending'] at hanswers ⊢
      have hcauses : withoutCauses answer = withoutCauses answer' := Option.some.inj hanswers
      rw [← Ending.response_withoutCauses hdebug, ← Ending.events_withoutCauses, hcauses,
        Ending.response_withoutCauses hdebug, Ending.events_withoutCauses]
      exact ⟨rfl, rfl⟩
    · rw [hending]
      exact ⟨rfl, rfl⟩
  rw [dispatch_response, dispatch_response, dispatch_events_eq, dispatch_events_eq,
    h.resolve_agrees.2, hsame.1, hsame.2]
  exact ⟨rfl, rfl⟩

/-- Whether clients are told causes decides on the body of the response to a failure of the handler
    that has causes, and on nothing else: the same foreign code is called and answers the same, the
    same handler is run, and the world, the events, the status and the headers are the same. Where
    causes are not told, they have no effect: two runs in which foreign code answers the same, but for
    the causes of the failure of the handler, give the same response and the same events. -/
theorem causes_confined (router : Router World) (request : Http.Request) (world : World) :
    (∀ debug,
      let told := (router.withDebug debug).dispatch request world
      let original := router.dispatch request world
      (router.withDebug debug).dispatchRecord request world = router.dispatchRecord request world ∧
      told.2 = original.2 ∧ told.1.events = original.1.events ∧
      told.1.value.status = original.1.value.status ∧
      told.1.value.headers = original.1.value.headers ∧
      (told.1.value.body = original.1.value.body ↔ debug = router.settings.debug ∨
        ∀ failure, (router.ending request world).failure? = some failure → failure.causes = [])) ∧
    (router.settings.debug = false → ∀ (other : Router World) (world' : World),
      Replays router other request world world' →
      (router.ending request world).answer?.map withoutCauses =
        (other.ending request world').answer?.map withoutCauses →
      (router.dispatch request world).1.value = (other.dispatch request world').1.value ∧
        (router.dispatch request world).1.events = (other.dispatch request world').1.events) := by
  refine ⟨fun debug => ?_, fun hdebug other world' hreplays => hreplays.dispatch_eq hdebug⟩
  intro told original
  have hrecord : (router.withDebug debug).dispatchRecord request world =
      router.dispatchRecord request world := by
    unfold dispatchRecord
    rw [recorded_withDebug, dispatch_world_withDebug]
  refine ⟨hrecord, router.dispatch_world_withDebug debug request world,
    router.dispatch_events_withDebug debug request world, ?_⟩
  have htold : told.1.value = (router.ending request world).response (router.withDebug debug) := by
    rw [dispatch_response, ending_withDebug]
  rw [htold, dispatch_response]
  cases hfailure : (router.ending request world).failure? with
  | none =>
    rw [response_withDebug hfailure]
    exact ⟨rfl, rfl, iff_of_true rfl (.inr nofun)⟩
  | some failure =>
    rw [Ending.eq_of_failure? hfailure]
    refine ⟨rfl, rfl, (body_failureResponse_withDebug router debug failure).trans ?_⟩
    simp

/-- A router whose handler fails, for causes that it is given. -/
def failing (causes : List String) : Router Unit :=
  { routes := [], default := fun _ => Call.answering (.error ⟨"cannot save", causes⟩) }

theorem causes_confined_failing :
    let router := failing ["disk full", "0 bytes\nleft"]
    let request : Http.Request := { uri := "/save" }
    (router.dispatch request ()).1.value = ((failing []).dispatch request ()).1.value ∧
      ((router.withDebug true).dispatch request ()).1.value.body ≠
        (router.dispatch request ()).1.value.body := by
  intro router request
  obtain ⟨hsetting, hcauses⟩ := causes_confined router request ()
  refine ⟨(hcauses rfl (failing []) () ⟨rfl, rfl, rfl⟩ rfl).1, ?_⟩
  rw [Ne, (hsetting true).2.2.2.2.2]
  rintro (hdebug | hnone)
  · cases hdebug
  · cases hnone _ rfl

end Router

end HttpRouter
