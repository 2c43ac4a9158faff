import HttpRouter.Expression.Build
import HttpRouter.Expression.Footprint.Class
import HttpRouter.Expression.Footprint.Words

namespace HttpRouter

/-- Where a part stands among alternatives. The first one has no alternative before it, and there
    is no need to tell it from a part outside of any choice. -/
inductive Standing where
  | first
  | second
  | later
  deriving Inhabited, DecidableEq, Repr

namespace Meter

/-- Adds a part, which may end in a fork, to the alternatives. The fork between alternatives and
    their common end are counted once there are two. -/
def settle (standing : Standing) (endsInFork : Bool) : Meter Bool := do
  match standing with
  | .first => return endsInFork
  | .second =>
    plain (ways 2)
    plain 0
    join endsInFork
    return false
  | .later =>
    spend (ways 1)
    join endsInFork
    return false

end Meter

namespace Expr

open Meter

/-- The bytes of a literal. -/
def bytes? : Expr → Option (List UInt8)
  | literal text => some (text.flatMap String.utf8EncodeChar)
  | _ => none

/-- Counts the states for a repetition, given how those of its body are counted. -/
def countRounds (least : Nat) (most : Option Nat) (takesSomething : Bool) (body : Meter Bool) :
    Meter Bool := do
  match least, most with
  | 0, some 1 =>
    plain (ways 2)
    let endsInFork ← body
    plain 0
    join endsInFork
    return false
  | 0, none =>
    if takesSomething then
      plain (ways 1)
      join (← body)
      return true
    else
      join (← body)
      plain (ways 2)
      plain (ways 2)
      plain 0
      return false
  | least + 1, none =>
    if least ≠ 0 then join (← copies body least)
    join (← body)
    plain (ways 1)
    return true
  | least, some most =>
    let endsInFork ← copies body least
    if least = most then return endsInFork
    plain 0
    join (← optionalCopies body (most - least) endsInFork)
    return false

/-- Counts the states for an expression and answers whether they end in a fork. -/
def count (direction : Direction) : Standing → Expr → Meter Bool
  | standing, empty => do
    plain 0
    settle standing false
  | standing, literal text => do
    (List.range (text.foldl (fun length c => length + c.utf8Size) 0)).forM fun _ => plain 0
    settle standing false
  | standing, one cls => do
    cls.count direction
    settle standing false
  | standing, look _ => do
    plain 0
    settle standing false
  | standing, capture _ _ e => do
    match direction with
    | .forward =>
      plain 0
      let endsInFork ← e.count direction .first
      plain 0
      join endsInFork
      settle standing false
    | .backward => settle standing (← e.count direction .first)
  | standing, seq a b => do
    match direction with
    | .forward =>
      join (← a.count direction .first)
      settle standing (← b.count direction .first)
    | .backward =>
      join (← b.count direction .first)
      settle standing (← a.count direction .first)
  | .first, alt a b => do
    match (a :: b.branches).mapM bytes? with
    | some words =>
      countWords direction words
      return false
    | none =>
      let endsInFork ← a.count direction .first
      let _ ← b.count direction .second
      join endsInFork
      return false
  | standing, alt a b => do
    let _ ← settle standing (← a.count direction .first)
    b.count direction .later
  | standing, .repeat least most _ e => do
    settle standing (← countRounds least most e.takesSomething (e.count direction .first))

/-- Whether a match can only begin where the text begins. -/
def startsText : Expr → Bool
  | look a => a = .textStart
  | capture _ _ e => e.startsText
  | seq a b => a.startsText || (a.takesNothing && b.startsText)
  | alt a b => a.startsText && b.startsText
  | .repeat least _ _ e => least ≠ 0 && e.startsText
  | _ => false

/-- Whether a match can only end where the text ends. -/
def endsText : Expr → Bool
  | look a => a = .textEnd
  | capture _ _ e => e.endsText
  | seq a b => b.endsText || (b.takesNothing && a.endsText)
  | alt a b => a.endsText && b.endsText
  | .repeat least _ _ e => least ≠ 0 && e.endsText
  | _ => false

/-- Counts the whole machine for an expression. A loop over all bytes comes first unless the
    expression fixes where a match begins. -/
def countAll (direction : Direction) (e : Expr) : Meter Unit := do
  let fixed := match direction with
    | .forward => e.startsText
    | .backward => e.endsText
  if fixed then plain 0
  else
    plain (ways 2)
    plain 0
    plain (entries 1)
  match direction with
  | .forward =>
    plain 0
    let endsInFork ← e.count direction .first
    plain 0
    join endsInFork
    plain 0
  | .backward =>
    let endsInFork ← e.count direction .first
    plain 0
    join endsInFork

/-- Whether both machines for an expression fit into the given number of bytes. -/
def fits (limit : Nat) (e : Expr) : Bool :=
  ((e.countAll .forward).run { left := limit }).isSome &&
    ((e.countAll .backward).run { left := limit }).isSome

end Expr

end HttpRouter
