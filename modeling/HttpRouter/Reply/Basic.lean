import HttpRouter.Call.Basic
import HttpRouter.Http.Response

namespace HttpRouter

/-- What a handler replies with. The text of an element is only made when it is rendered. -/
inductive Reply where
  | element (render : Except Panic String)
  | json (value : Json)
  | text (body : String)
  | empty
  | redirect (target : String)
  | error (status : Nat) (payload : Http.ErrorBody)

namespace Reply

/-- The reply that there is no such page. -/
def notFound : Reply := error 404 .notFound

/-- The response a reply stands for. Rendering an element may panic. -/
def toResponse : Reply → Except Panic (Logged Http.Response)
  | element render => do
    let text ← render
    return pure ((Http.Response.ok.withHeader "content-type" "text/html; charset=utf-8").withText
      text)
  | json value => .ok (pure (Http.Response.ok.withJson value))
  | text body =>
    .ok (pure ((Http.Response.ok.withHeader "content-type" "text/plain; charset=utf-8").withText
      body))
  | empty => .ok (pure Http.Response.ok)
  | redirect target => .ok (Http.Response.temporaryRedirect target)
  | error status payload => .ok (pure (Http.Response.error status payload))

/-- The reply as it is shown to a developer. -/
def shown : Reply → String
  | element _ => "Element(..)"
  | json value => Text.shownTuple "Json" [value.shown]
  | text body => Text.shownTuple "Text" [Text.quoted body]
  | empty => "Empty"
  | redirect target => Text.shownTuple "Redirect" [Text.quoted target]
  | error status payload => Text.shownTuple "Error" [toString status, payload.shown]

end Reply

end HttpRouter
