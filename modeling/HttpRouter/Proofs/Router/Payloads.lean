import HttpRouter.Proofs.Http.ErrorBody
import HttpRouter.Proofs.Router.Telling

namespace HttpRouter

variable {World : Type}

/-- A response by which a client learns of an error: its status, that its body is JSON, and a readable
    body that is read as the payload. -/
structure Http.Response.TellsError (response : Http.Response) (status : Nat)
    (payload : Http.ErrorBody) : Prop where
  status : response.status = status
  headers : response.headers.entries = [("content-type", "application/json")]
  body : ∃ text, String.fromUTF8? response.body = some text ∧ Http.ErrorBody.read text = some payload

/-- The bytes of a text are read as the text. -/
theorem Text.fromUTF8?_toUTF8 (text : String) : String.fromUTF8? text.toUTF8 = some text := by
  rw [String.fromUTF8?, String.toUTF8_eq_toByteArray, dif_pos text.isValidUTF8]
  rfl

/-- The response for an error tells it. -/
theorem Http.Response.tellsError_error (status : Nat) (payload : Http.ErrorBody) :
    (Http.Response.error status payload).TellsError status payload where
  status := rfl
  headers := rfl
  body := ⟨_, Text.fromUTF8?_toUTF8 payload.toJson.text, payload.read_text⟩

namespace Ending

/-- The detail of a failure of the server: that of a timeout, of a failing handler with its causes
    where the settings say so, or of a panic. -/
def detail? (router : Router World) (ending : Ending) : Option String :=
  match ending with
  | failed e => some e.message
  | answered (.ok (.error failure)) =>
    some (if router.settings.debug then failure.report else failure.message)
  | ending => ending.panic?.map fun panic => "Handler panicked: " ++ panic.text

/-- The status and the payload of an error: those that a handler replies with, or those of a failure of
    the server. -/
def error? (router : Router World) (ending : Ending) : Option (Nat × Http.ErrorBody) :=
  match ending with
  | answered (.ok (.ok (.error status payload))) => some (status, payload)
  | ending => (ending.detail? router).map fun detail => (500, .internal detail)

/-- An error is told by the response for it. -/
theorem response_of_error? {router : Router World} {ending : Ending} {status : Nat}
    {payload : Http.ErrorBody} (h : ending.error? router = some (status, payload)) :
    ending.response router = .error status payload := by
  rcases ending with panic | e | location | panic | failure | reply
  · cases h
    rfl
  · cases h
    simp only [response, Router.failureResponse, Failure.report, ite_self]
    rfl
  · cases h
  · cases h
    rfl
  · cases h
    rfl
  · cases reply with
    | element render =>
      cases render with
      | error panic =>
        cases h
        rfl
      | ok text => cases h
    | error status payload =>
      cases h
      rfl
    | _ => cases h

/-- Where there is no error, the response is one of success or sends the client elsewhere. -/
theorem status_of_error?_eq_none {router : Router World} {ending : Ending}
    (h : ending.error? router = none) :
    (ending.response router).status = 200 ∨ (ending.response router).status = 302 := by
  have hredirect : ∀ location, (Http.Response.temporaryRedirect location).value.status = 302 := by
    intro location
    rw [Http.Response.temporaryRedirect, Http.Response.withLocation]
    split <;> rfl
  rcases ending with panic | e | location | panic | failure | reply
  · cases h
  · cases h
  · exact .inr (hredirect location)
  · cases h
  · cases h
  · cases reply with
    | element render =>
      cases render with
      | error panic => cases h
      | ok text => exact .inl rfl
    | redirect target => exact .inr (hredirect _)
    | error status payload => cases h
    | _ => exact .inl rfl

end Ending

namespace Router

/-- Resolving fails only because the lookup of the user takes too long. -/
theorem eq_guardTimeout_of_ending {router : Router World} {request : Http.Request} {world : World}
    {e : RouterError} (h : router.ending request world = .failed e) :
    e = .guardTimeout router.settings.lookupBudget := by
  have houtcome : (router.resolve request world).outcome = .ok (.error e) := by
    unfold ending Outcome.ending at h
    dsimp only at h
    split at h
    · cases h
    · rename_i houtcome
      cases h
      exact houtcome
    · cases h
    · cases h
    · cases h
  obtain ⟨reached, hstops⟩ := router.resolve_stops request world
  obtain ⟨-, hdefault⟩ | ⟨route, -, -, hends⟩ := hstops.ended
  · rw [houtcome] at hdefault
    cases hdefault
  · rw [houtcome] at hends
    cases hends
    rfl

/-- A reply with an error has a response that is read as its payload, and so has the reply that there
    is no such page. A dispatch that comes to an error, by such a reply or by a failure of the server,
    answers with a response that is read as the payload of the error; every response with the status of
    a failure of the server is one of these. The only failure of resolving is the timeout of the
    lookup. The handler that knows no page is answered so where no route takes the request. -/
theorem errors_decode (router : Router World) (request : Http.Request) (world : World) :
    let ending := router.ending request world
    let response := (router.dispatch request world).1.value
    (∀ status payload, ∃ rendered, (Reply.error status payload).toResponse = .ok rendered ∧
      rendered.value.TellsError status payload) ∧
    Http.Response.notFound.TellsError 404 .notFound ∧
    (∀ status payload, ending.error? router = some (status, payload) →
      response.TellsError status payload) ∧
    (response.status = 500 ↔ ∃ payload, ending.error? router = some (500, payload)) ∧
    (∀ e, ending = .failed e → e = .guardTimeout router.settings.lookupBudget) ∧
    ((router.resolve request world).outcome = .ok (.ok .default) → router.default = .notFound →
      response.TellsError 404 .notFound) := by
  intro ending response
  have hresponse : response = ending.response router := router.dispatch_response request world
  have htells : ∀ status payload, ending.error? router = some (status, payload) →
      response.TellsError status payload := by
    intro status payload herror
    rw [hresponse, Ending.response_of_error? herror]
    exact Http.Response.tellsError_error status payload
  refine ⟨fun status payload => ⟨_, rfl, Http.Response.tellsError_error status payload⟩,
    Http.Response.tellsError_error 404 .notFound, htells, ?_, fun e => eq_guardTimeout_of_ending, ?_⟩
  · constructor
    · intro hstatus
      cases herror : ending.error? router with
      | none =>
        have hother := Ending.status_of_error?_eq_none herror
        rw [← hresponse, hstatus] at hother
        omega
      | some error =>
        obtain ⟨status, payload⟩ := error
        have hsame := (htells status payload herror).status
        rw [hstatus] at hsame
        exact ⟨payload, by rw [hsame]⟩
    · rintro ⟨payload, herror⟩
      exact (htells 500 payload herror).status
  · intro hdefault hhandler
    refine htells 404 .notFound ?_
    have hending : ending = .answered (.ok (.ok .notFound)) := by
      simp only [ending, Router.ending, hdefault, Outcome.ending, hhandler]
      rfl
    rw [hending]
    rfl

/-- A router whose only handler panics. -/
def collapsing (panic : Panic) : Router Unit :=
  { routes := [], default := fun _ => Call.panicking panic }

theorem errors_decode_collapsing :
    ((collapsing (.message "a\"b\\c\x07😀")).dispatch { uri := "/" } ()).1.value.TellsError 500
      (.internal "Handler panicked: a\"b\\c\x07😀") :=
  (errors_decode (collapsing (.message "a\"b\\c\x07😀")) { uri := "/" } ()).2.2.1 500 _ rfl

end Router

end HttpRouter
