namespace HttpRouter

/-- Why a handler failed: the outermost message and its causes, the nearest first. -/
structure Failure where
  message : String
  causes : List String := []
  deriving Inhabited, DecidableEq, Repr

namespace Failure

/-- Puts a message around a failure, which becomes its cause. -/
def context (failure : Failure) (message : String) : Failure :=
  ⟨message, failure.message :: failure.causes⟩

/-- The failure on one line. -/
def line (failure : Failure) : String :=
  ": ".intercalate (failure.message :: failure.causes)

/-- Indents the lines of a cause after its first one, under a first line that starts further left
    or carries a number. -/
def indented (width : Nat) (cause : String) : String :=
  ("\n" ++ "".pushn ' ' width).intercalate
    ((cause.toList.splitOn '\n').map String.ofList)

/-- A number at the right end of five places. -/
def numbered (n : Nat) : String :=
  "".pushn ' ' (5 - (toString n).length) ++ toString n

/-- The failure with all its causes. A single cause is indented; several are numbered. A failure is
    taken to carry no backtrace, as none is captured unless the environment asks for it. -/
def report (failure : Failure) : String :=
  match failure.causes with
  | [] => failure.message
  | [cause] => failure.message ++ "\n\nCaused by:\n    " ++ indented 4 cause
  | causes =>
    failure.message ++ "\n\nCaused by:" ++ "".intercalate (causes.mapIdx fun n cause =>
      "\n" ++ numbered n ++ ": " ++ indented 7 cause)

end Failure

end HttpRouter
