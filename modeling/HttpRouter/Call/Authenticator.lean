import HttpRouter.Call.Basic
import HttpRouter.Http.Request
import HttpRouter.Text.Blank

namespace HttpRouter

/-- The user a request comes from. -/
structure User where
  id : String
  deriving Inhabited, DecidableEq, Repr

/-- What a lookup comes to. It may never come to an answer. -/
inductive Lookup where
  | answered (user : Option User)
  | never
  deriving Inhabited, DecidableEq, Repr

/-- Code that looks up the current user of a request. -/
abbrev Authenticator (World : Type) : Type :=
  Http.Request → Call World Lookup

namespace Authenticator

variable {World : Type}

/-- Knows no users. -/
def anonymous : Authenticator World :=
  fun _ => Call.answering (.answered none)

/-- The user that a header names. A header of blanks names none. -/
def headerUser? (name : String) (request : Http.Request) : Option User :=
  match request.headers.read? name with
  | none => none
  | some value => if (Text.trim value).isEmpty then none else some ⟨Text.trim value⟩

/-- Trusts the user that a header names. -/
def header (name : String) : Authenticator World :=
  fun request => Call.answering (.answered (headerUser? name request))

/-- The header that is trusted where none is named. -/
def defaultHeader : String := "REMOTE_USER"

end Authenticator

end HttpRouter
