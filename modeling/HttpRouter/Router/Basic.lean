import HttpRouter.Call.Authenticator
import HttpRouter.RouteTable
import HttpRouter.Settings.Basic

namespace HttpRouter

/-- A sealed route table with its settings and the way to look up the current user. The base path is
    read from the settings whenever it is needed and not kept beside them, so it agrees with them after
    every change. -/
structure Router (World : Type) where
  routes : List (Route World)
  default : Handler World
  settings : Settings := {}
  authenticator : Authenticator World := .anonymous

/-- Closes a route table. Without a handler of its own it answers that there is no such page. -/
def RouteTable.seal {World : Type} (table : RouteTable World) : Logged (Router World) := do
  Logged.tell (.tableSealed table.routes.length)
  return { routes := table.routes, default := table.default.getD .notFound }

namespace Router

variable {World : Type}

/-- Puts settings in place of the earlier ones. -/
def withSettings (router : Router World) (settings : Settings) : Router World :=
  { router with settings }

/-- Puts another way to look up the current user in place of the earlier one. -/
def withAuthenticator (router : Router World) (authenticator : Authenticator World) :
    Router World :=
  { router with authenticator }

/-- What follows a text at the front of another one. -/
def afterFront? : List Char → List Char → Option (List Char)
  | [], s => some s
  | _ :: _, [] => none
  | a :: front, b :: s => if a = b then afterFront? front s else none

/-- A path within the mounted part of a site. A path outside of it is left as it is. -/
def stripMount (base path : List Char) : List Char :=
  match base with
  | [] => path
  | base =>
    match afterFront? base path with
    | some [] => []
    | some ('/' :: rest) => '/' :: rest
    | _ => path

/-- The path of a target as routes see it: without query and fragment, without the base path, and
    with a slash in front. -/
def normalizePath (router : Router World) (uri : String) : String :=
  let path := uri.toList.takeWhile fun c => c ≠ '?' && c ≠ '#'
  match stripMount router.settings.basePath.toList path with
  | '/' :: rest => .ofList ('/' :: rest)
  | rest => .ofList ('/' :: rest)

/-- Whether a target is a path of this site rather than the address of another one. -/
def isLocal (target : String) : Bool :=
  match target.toList with
  | '/' :: '/' :: _ => false
  | '/' :: _ => true
  | _ => false

/-- The place a client is sent to. A path of this site is put under the base path. -/
def redirectLocation (router : Router World) (target : String) : String :=
  if isLocal target then router.settings.basePath ++ target else target

/-- The router as it is shown to a developer. -/
def shown (router : Router World) : String :=
  Text.shownRecord "Router" [
    ("entries", Text.shownList (router.routes.map (·.shown))),
    ("settings", router.settings.shown)]

end Router

end HttpRouter
