import HttpRouter.Assoc
import HttpRouter.Http.Token

namespace HttpRouter.Http

/-- Headers by name, in lower case, in the order in which they were first written. A header with
    several values is listed once for each of them. A message is assumed to have no more headers than
    a server can hold, which is 32768. -/
structure Headers where
  entries : List (String × String)
  deriving Inhabited, DecidableEq, Repr

namespace Headers

/-- No headers. -/
def empty : Headers := ⟨[]⟩

/-- The first value of a header by its name in lower case. -/
def get? (headers : Headers) (name : String) : Option String :=
  Assoc.find? name headers.entries

/-- Gives a header, by its name in lower case, a single value in place of all earlier ones. -/
def set (headers : Headers) (name value : String) : Headers :=
  ⟨Assoc.put name value headers.entries⟩

/-- Writes a header. A name that is no token, or a value that cannot be sent, changes nothing. -/
def write (headers : Headers) (name value : String) : Headers :=
  if isToken name && isHeaderValue value then headers.set (lowerCase name) value else headers

/-- The value of a header as text, by its name in any letter case. -/
def read? (headers : Headers) (name : String) : Option String :=
  if isToken name then (headers.get? (lowerCase name)).filter isReadable else none

end Headers

end HttpRouter.Http
