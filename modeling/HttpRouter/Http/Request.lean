import HttpRouter.Http.Headers

namespace HttpRouter.Http

/-- A request: its method, its target as sent, and its headers. -/
structure Request where
  method : Method := .get
  uri : String
  headers : Headers := .empty

namespace Request

/-- Writes a header of the request. -/
def withHeader (request : Request) (name value : String) : Request :=
  { request with headers := request.headers.write name value }

/-- The target up to its first question mark. -/
def path (request : Request) : String :=
  .ofList (request.uri.toList.takeWhile (· ≠ '?'))

/-- The target after its first question mark, if it has one. -/
def query? (request : Request) : Option String :=
  match request.uri.toList.dropWhile (· ≠ '?') with
  | [] => none
  | _ :: rest => some (.ofList rest)

end Request

end HttpRouter.Http
