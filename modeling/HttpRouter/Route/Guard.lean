import HttpRouter.Call.Basic

namespace HttpRouter

/-- A condition on a request. Two guards look at the current user; any other is a predicate. -/
inductive Guard (World : Type) where
  | authenticated
  | anonymous
  | custom (predicate : Call World Bool)

namespace Guard

variable {World : Type}

/-- Whether a guard looks at the current user. -/
def needsUser : Guard World → Bool
  | authenticated => true
  | anonymous => true
  | custom _ => false

/-- The name of the kind of a guard. -/
def kind : Guard World → String
  | authenticated => "requires-authenticated"
  | anonymous => "requires-anonymous"
  | custom _ => "custom-predicate"

/-- Whether a guard lets a request pass, given whether there is a current user. -/
def check (guard : Guard World) (userPresent : Bool) : Call World Bool :=
  match guard with
  | authenticated => Call.answering userPresent
  | anonymous => Call.answering !userPresent
  | custom predicate => predicate

end Guard

end HttpRouter
