import HttpRouter.Http.Response
import HttpRouter.Proofs.LastWrite

namespace HttpRouter.Http

namespace Headers

/-- All values of a header by its name in lower case, in their order. -/
def values (headers : Headers) (name : String) : List String :=
  (headers.entries.filter (·.1 == name)).map (·.2)

/-- A header that is written has the written value only, and every other one has its values. -/
theorem values_set (headers : Headers) (name value other : String) :
    (headers.set name value).values other =
      if name = other then [value] else headers.values other := by
  unfold values set
  rw [Assoc.filter_put]
  split <;> rfl

end Headers

namespace Response

/-- A step in building a response. -/
inductive Step where
  | header (name value : String)
  | location (target : String)
  | json (value : Json)
  | body (bytes : ByteArray)

namespace Step

/-- Whether a step cannot be done: its name is no token, or its value cannot be sent. -/
def IsRefused : Step → Prop
  | header name value => isToken name = false ∨ isHeaderValue value = false
  | location target => isHeaderValue target = false
  | json _ => False
  | body _ => False

/-- The header that a step writes, by its name in lower case, with its value. -/
def written? : Step → Option (String × String)
  | header name value =>
    if isToken name && isHeaderValue value then some (lowerCase name, value) else none
  | location target => if isHeaderValue target then some ("location", target) else none
  | json _ => some ("content-type", "application/json")
  | body _ => none

/-- The value that a step writes to a header, by the name of the header in lower case. -/
def valueOf? (name : String) (step : Step) : Option String :=
  (step.written?.filter (·.1 == name)).map (·.2)

/-- The body that a step writes. -/
def body? : Step → Option ByteArray
  | json value => some value.text.toUTF8
  | body bytes => some bytes
  | _ => none

end Step

/-- The response after a step. -/
def take (response : Response) : Step → Response
  | .header name value => response.withHeader name value
  | .location target => (response.withLocation target).value
  | .json value => response.withJson value
  | .body bytes => response.withBody bytes

/-- The response after steps, one after the other. -/
def takeAll (response : Response) (steps : List Step) : Response :=
  steps.foldl take response

/-- The value that steps write last to a header, by its name in lower case. -/
def lastValue? (steps : List Step) (name : String) : Option String :=
  (steps.filterMap (·.valueOf? name)).getLast?

/-- The body that steps write last. -/
def lastBody? (steps : List Step) : Option ByteArray :=
  (steps.filterMap (·.body?)).getLast?

section Steps

variable (response : Response)

/-- A step that is refused leaves the response as it is. -/
theorem take_of_isRefused {step : Step} (hrefused : step.IsRefused) : response.take step = response := by
  cases step with
  | header name value =>
    have hinvalid : ¬(isToken name && isHeaderValue value) = true := by
      rw [Bool.and_eq_true]
      rintro ⟨hname, hvalue⟩
      obtain hname' | hvalue' := hrefused
      · rw [hname] at hname'
        cases hname'
      · rw [hvalue] at hvalue'
        cases hvalue'
    rw [take, withHeader, Headers.write, if_neg hinvalid]
  | location target =>
    have hinvalid : isHeaderValue target = false := hrefused
    rw [take, withLocation, hinvalid]
    rfl
  | json value => cases hrefused
  | body bytes => cases hrefused

/-- No step changes the status. -/
theorem status_take (step : Step) : (response.take step).status = response.status := by
  cases step with
  | location target =>
    rw [take, withLocation]
    split <;> rfl
  | _ => rfl

/-- The body after a step is the one that the step writes, if it writes one. -/
theorem body_take (step : Step) : (response.take step).body = step.body?.getD response.body := by
  cases step with
  | location target =>
    rw [take, withLocation]
    split <;> rfl
  | _ => rfl

/-- The headers after a step are those before it with the one that the step writes. -/
theorem headers_take (step : Step) :
    (response.take step).headers =
      step.written?.elim response.headers fun written => response.headers.set written.1 written.2 := by
  cases step with
  | header name value =>
    rw [take, withHeader, Headers.write, Step.written?]
    split <;> rfl
  | location target =>
    rw [take, withLocation, Step.written?]
    split <;> rfl
  | json value => rfl
  | body bytes => rfl

/-- After a step, the header that it writes has the written value only, and every other one has its
    values. -/
theorem values_take (step : Step) (name : String) :
    (response.take step).headers.values name =
      ((step.valueOf? name).map ([·])).getD (response.headers.values name) := by
  rw [headers_take, Step.valueOf?]
  cases step.written? with
  | none => rfl
  | some written =>
    rw [Option.elim_some, Headers.values_set]
    by_cases hname : written.1 = name <;> simp [hname, Option.filter_some]

theorem status_takeAll (steps : List Step) : (response.takeAll steps).status = response.status :=
  foldl_unwritten take status (fun step _ response => response.status_take step) response

theorem body_takeAll (steps : List Step) :
    (response.takeAll steps).body = (lastBody? steps).getD response.body :=
  foldl_lastWrite take body (·.body?) body_take steps response

theorem values_takeAll (steps : List Step) (name : String) :
    (response.takeAll steps).headers.values name =
      ((lastValue? steps name).map ([·])).getD (response.headers.values name) := by
  have hlast := foldl_lastWrite take (·.headers.values name)
    (fun step => (step.valueOf? name).map ([·])) (fun response step => response.values_take step name)
    steps response
  rw [takeAll, hlast, lastWrite?_map]
  rfl

end Steps

/-- Building a response by steps leaves its status as it was. Every header that a step writes ends with
    one value, the last that is written to it in any spelling of its name, and every other header ends
    with the values it had. The body is the last that is written, or the one there was. A step that
    cannot be done changes nothing. -/
theorem built_by_steps (start : Response) (steps : List Step) :
    let built := start.takeAll steps
    built.status = start.status ∧
      (∀ name, built.headers.values name =
        match lastValue? steps name with
        | some value => [value]
        | none => start.headers.values name) ∧
      built.body = (lastBody? steps).getD start.body ∧
      ∀ step : Step, step.IsRefused → ∀ response : Response, response.take step = response := by
  intro built
  refine ⟨start.status_takeAll steps, fun name => ?_, start.body_takeAll steps,
    fun step hrefused response => response.take_of_isRefused hrefused⟩
  rw [start.values_takeAll]
  cases lastValue? steps name <;> rfl

theorem built_by_steps_spellings :
    let start : Response :=
      { status := 302, headers := ⟨[("set-cookie", "a=1"), ("x-trace", "1"), ("set-cookie", "b=2")]⟩ }
    let steps : List Step :=
      [.location "/a", .header "LOCATION" "/é", .header "no token" "1", .location "/b\n",
        .header "X-Trace" "2", .json .null, .header "Content-Type" "text/plain"]
    let built := start.takeAll steps
    built.headers.values "location" = ["/é"] ∧ built.headers.values "set-cookie" = ["a=1", "b=2"] ∧
      built.headers.values "x-trace" = ["2"] ∧ built.headers.values "content-type" = ["text/plain"] ∧
      built.take (.location "/b\n") = built := by
  intro start steps built
  obtain ⟨-, hvalues, -, hrefused⟩ := built_by_steps start steps
  exact ⟨hvalues "location", hvalues "set-cookie", hvalues "x-trace", hvalues "content-type",
    hrefused (.location "/b\n") rfl built⟩

end Response

end HttpRouter.Http
