namespace HttpRouter

/-- What a panic carries: a message, or a value that is none. -/
inductive Panic where
  | message (text : String)
  | other
  deriving Inhabited, DecidableEq, Repr

/-- The message of a panic as a client is told it. -/
def Panic.text : Panic → String
  | message text => text
  | other => "unknown panic payload"

/-- A call of code that is not part of the router: of a handler, of the predicate of a guard, or of a
    user lookup. It may change the world around it, whether it answers or panics. -/
abbrev Call (World Answer : Type) : Type :=
  World → Except Panic Answer × World

namespace Call

/-- A call that answers and leaves the world as it is. -/
def answering {World Answer : Type} (answer : Answer) : Call World Answer :=
  fun world => (.ok answer, world)

/-- A call that panics and leaves the world as it is. -/
def panicking {World Answer : Type} (panic : Panic) : Call World Answer :=
  fun world => (.error panic, world)

end Call

end HttpRouter
