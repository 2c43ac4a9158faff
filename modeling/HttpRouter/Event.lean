import HttpRouter.Http.Token
import HttpRouter.Text.Quoted

namespace HttpRouter

/-- How much attention an event calls for. `scope` marks the beginning of the work on a request. -/
inductive Level where
  | trace
  | debug
  | info
  | warn
  | error
  | scope
  deriving Inhabited, DecidableEq, Repr

/-- The name of a level. -/
def Level.name : Level → String
  | trace => "TRACE"
  | debug => "DEBUG"
  | info => "INFO"
  | warn => "WARN"
  | error => "ERROR"
  | scope => "SPAN"

/-- Something that declaration or dispatch did. -/
inductive Event where
  | settingsLoaded (path : String)
  | routeRegistered (template expression : String) (method guard : Option String)
  | defaultReplaced
  | tableSealed (routes : Nat)
  | declarationRejected (error : String)
  | dispatchStarted (method path : String)
  | verbRejected (template method : String)
  | lookupTimedOut (milliseconds : Nat)
  | routeMatched (index : Nat) (template path : String)
  | guardRedirected (template location : String)
  | guardRefused (template : String)
  | nothingMatched (path : String)
  | handlerFailed (error : String)
  | redirectDropped (location : String)
  | panicked (message : String)
  deriving Inhabited, DecidableEq, Repr

namespace Event

/-- The level of an event. -/
def level : Event → Level
  | settingsLoaded _ => .debug
  | routeRegistered .. => .debug
  | defaultReplaced => .debug
  | tableSealed _ => .debug
  | declarationRejected _ => .warn
  | dispatchStarted .. => .scope
  | verbRejected .. => .trace
  | lookupTimedOut _ => .error
  | routeMatched .. => .debug
  | guardRedirected .. => .info
  | guardRefused _ => .trace
  | nothingMatched _ => .debug
  | handlerFailed _ => .warn
  | redirectDropped _ => .warn
  | panicked _ => .error

/-- The message of an event. -/
def message : Event → String
  | settingsLoaded _ => "Loaded router settings"
  | routeRegistered .. => "Registered route"
  | defaultReplaced => "Replacing default handler"
  | tableSealed _ => "Sealed route registry"
  | declarationRejected _ => "Rejected route declaration"
  | dispatchStarted .. => "dispatch"
  | verbRejected .. => "Verb filter rejected route"
  | lookupTimedOut _ => "Authenticator lookup timed out"
  | routeMatched .. => "Route matched"
  | guardRedirected .. => "Guard refused route, redirecting"
  | guardRefused _ => "Guard refused route, continuing scan"
  | nothingMatched _ => "No route matched, using default handler"
  | handlerFailed _ => "Handler returned an error"
  | redirectDropped _ => "Dropped invalid redirect target"
  | panicked _ => "Request handling panicked"

/-- The fields of an event in their order. -/
def fields : Event → List (String × String)
  | settingsLoaded path => [("path", path)]
  | routeRegistered template expression method guard =>
    [("template", template), ("regex", expression), ("method", Text.shownOption method),
      ("guard", Text.shownOption guard)]
  | defaultReplaced => []
  | tableSealed routes => [("routes", toString routes)]
  | declarationRejected error => [("error", error)]
  | dispatchStarted method path => [("method", method), ("path", path)]
  | verbRejected template method => [("template", template), ("method", method)]
  | lookupTimedOut milliseconds => [("timeout_ms", toString milliseconds)]
  | routeMatched index template path =>
    [("index", toString index), ("template", template), ("path", path)]
  | guardRedirected template location => [("template", template), ("location", location)]
  | guardRefused template => [("template", template)]
  | nothingMatched path => [("path", path)]
  | handlerFailed error => [("error", error)]
  | redirectDropped location =>
    [("location", Text.quoted location), ("error", "failed to parse header value")]
  | panicked message => [("panic", message)]

end Event

/-- A value with the events told on the way to it. -/
structure Logged (α : Type _) where
  value : α
  events : List Event

namespace Logged

/-- Tells a single event. -/
def tell (event : Event) : Logged Unit := ⟨(), [event]⟩

instance : Monad Logged where
  pure a := ⟨a, []⟩
  bind x f := ⟨(f x.value).value, x.events ++ (f x.value).events⟩

end Logged

end HttpRouter
