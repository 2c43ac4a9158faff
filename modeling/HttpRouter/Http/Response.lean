import HttpRouter.Event
import HttpRouter.Http.ErrorBody
import HttpRouter.Http.Headers
import HttpRouter.Text.Utf8

namespace HttpRouter.Http

/-- A response: its status, its headers and the bytes of its body. -/
structure Response where
  status : Nat
  headers : Headers := .empty
  body : ByteArray := .empty

namespace Response

/-- The response of success, without headers and body. -/
def ok : Response := { status := 200 }

/-- Puts a body in place of the earlier one. -/
def withBody (response : Response) (body : ByteArray) : Response :=
  { response with body }

/-- Puts a text in place of the body. -/
def withText (response : Response) (text : String) : Response :=
  response.withBody text.toUTF8

/-- Writes a header of the response. -/
def withHeader (response : Response) (name value : String) : Response :=
  { response with headers := response.headers.write name value }

/-- Puts a JSON text in place of the body and says so in the content type. -/
def withJson (response : Response) (value : Json) : Response :=
  { response with
    headers := response.headers.set "content-type" "application/json"
    body := value.text.toUTF8 }

/-- Sets the place to go to next. A place that cannot be sent is dropped, which leaves an event. -/
def withLocation (response : Response) (location : String) : Logged Response :=
  if isHeaderValue location then
    pure { response with headers := response.headers.set "location" location }
  else do
    Logged.tell (.redirectDropped location)
    return response

/-- The response for an error. -/
def error (status : Nat) (payload : ErrorBody) : Response :=
  ({ status : Response }).withJson payload.toJson

/-- The response for a page that does not exist. -/
def notFound : Response := error 404 .notFound

/-- The response for a failure of the server. -/
def internalError (detail : String) : Response := error 500 (.internal detail)

/-- The response that sends the client to another place. -/
def temporaryRedirect (location : String) : Logged Response :=
  ({ status := 302 : Response }).withLocation location

/-- The place to go to next, if there is one that can be read back as text. -/
def location? (response : Response) : Option String :=
  (response.headers.get? "location").filter isReadable

/-- The body as text, with a replacement character for every unreadable part. -/
def text (response : Response) : String :=
  Text.Utf8.lossy response.body

end Response

/-- Whether a number is a status code. -/
def isStatus (code : Nat) : Bool :=
  100 ≤ code && code ≤ 999

end HttpRouter.Http
