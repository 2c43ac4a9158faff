import HttpRouter.Route.Guard
import HttpRouter.Http.Token
import HttpRouter.Text.Quoted

namespace HttpRouter

/-- The verdict on a request: it is accepted, or rejected and sent elsewhere if there is a place. -/
inductive Verdict where
  | accepted
  | rejected (fallback : Option String)
  deriving Inhabited, DecidableEq, Repr

/-- The options of a route or of a group of routes. -/
structure RouteOptions (World : Type) where
  method : Option Http.Method := none
  guard : Option (Guard World) := none
  fallback : Option String := none

namespace RouteOptions

variable {World : Type}

/-- Whether the options admit a method. -/
def accepts (options : RouteOptions World) (method : Http.Method) : Bool :=
  options.method.all (· == method)

/-- The options of something inside a group. Each inner setting counts before the outer one. -/
def merge (outer inner : RouteOptions World) : RouteOptions World :=
  { method := inner.method <|> outer.method
    guard := inner.guard <|> outer.guard
    fallback := inner.fallback <|> outer.fallback }

/-- The verdict of the options, given whether there is a current user. -/
def evaluate (options : RouteOptions World) (userPresent : Bool) : Call World Verdict :=
  match options.guard with
  | none => Call.answering .accepted
  | some guard => fun world =>
    match guard.check userPresent world with
    | (.ok true, world) => (.ok .accepted, world)
    | (.ok false, world) => (.ok (.rejected options.fallback), world)
    | (.error panic, world) => (.error panic, world)

/-- The options as they are shown to a developer. -/
def shown (options : RouteOptions World) : String :=
  Text.shownRecord "RouteOptions" [
    ("method", Text.shownOption (options.method.map (·.name))),
    ("guard", Text.shownOption (options.guard.map (·.kind))),
    ("fallback", Text.shownOption (options.fallback.map Text.quoted))]

end RouteOptions

end HttpRouter
