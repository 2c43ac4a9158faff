namespace HttpRouter

/-- What has been counted of a machine: the bytes that are left and the number of states. -/
structure Footprint where
  left : Nat
  states : Nat := 0
  deriving Inhabited, DecidableEq, Repr

/-- Counting the states of a machine, which is not built itself. There is no result once the bytes are
    used up. -/
abbrev Meter := StateT Footprint Option

/-- The way in which a machine reads a text. -/
inductive Direction where
  | forward
  | backward
  deriving Inhabited, DecidableEq, Repr

namespace Meter

/-- Takes bytes from those that are left. -/
def spend (bytes : Nat) : Meter Unit := fun footprint =>
  if bytes ≤ footprint.left then some ((), { footprint with left := footprint.left - bytes })
  else none

/-- Counts a state with so many bytes besides its own ones and answers its number. -/
def state (further : Nat) : Meter Nat := do
  spend (32 + further)
  modifyGet fun footprint => (footprint.states, { footprint with states := footprint.states + 1 })

/-- Counts a state that nothing refers to by its number. -/
def plain (further : Nat) : Meter Unit := do
  let _ ← state further

/-- The bytes for the ways out of a fork. -/
def ways (count : Nat) : Nat := 4 * count

/-- The bytes for the ranges in a table. -/
def entries (count : Nat) : Nat := 8 * count

/-- Joins the end of a part to what comes after it. A part that ends in a fork needs one more way
    out of it. -/
def join (endsInFork : Bool) : Meter Unit :=
  if endsInFork then spend (ways 1) else pure ()

/-- Counts a number of copies of a part that says whether it ends in a fork, and answers whether
    the last copy does. -/
def copies (part : Meter Bool) : Nat → Meter Bool
  | 0 => do
    plain 0
    return false
  | 1 => part
  | n + 2 => do
    join (← part)
    copies part (n + 1)

/-- Counts copies behind forks that may leave them out. What comes before them may end in a
    fork, and so may the last of them. -/
def optionalCopies (part : Meter Bool) : Nat → Bool → Meter Bool
  | 0, endsInFork => return endsInFork
  | n + 1, endsInFork => do
    plain (ways 2)
    let partEndsInFork ← part
    join endsInFork
    optionalCopies part n partEndsInFork

end Meter

end HttpRouter
