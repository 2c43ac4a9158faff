namespace HttpRouter.Http

/-- Whether a character may stand in a token. -/
def isTokenChar (c : Char) : Bool :=
  c.isAlphanum || ['!', '#', '$', '%', '&', '\'', '*', '+', '-', '.', '^', '_', '\x60', '|',
    '~'].contains c

/-- Whether a text is a token, as the names of methods and headers are. The empty text is none. The
    length is not limited: the names of headers are assumed to be at most 65535 bytes long. -/
def isToken (s : String) : Bool :=
  !s.isEmpty && s.toList.all isTokenChar

/-- Whether a text may be sent as the value of a header. -/
def isHeaderValue (s : String) : Bool :=
  s.toList.all fun c => c == '\t' || (' ' ≤ c && c != '\x7f')

/-- Whether a header value can be read back as text, which only plain ASCII can. -/
def isReadable (s : String) : Bool :=
  s.toList.all fun c => c == '\t' || (' ' ≤ c && c ≤ '~')

/-- A text with its ASCII letters in lower case. -/
def lowerCase (s : String) : String :=
  .ofList (s.toList.map Char.toLower)

/-- A request method. -/
structure Method where
  name : String
  isToken_name : isToken name = true := by decide
  deriving DecidableEq

namespace Method

/-- The method of a name, if the name is a token. Letter case counts. -/
def ofName? (name : String) : Option Method :=
  if h : isToken name = true then some ⟨name, h⟩ else none

/-- The method that asks for a resource. -/
def get : Method := { name := "GET" }

/-- The method that submits data. -/
def post : Method := { name := "POST" }

end Method

end HttpRouter.Http
