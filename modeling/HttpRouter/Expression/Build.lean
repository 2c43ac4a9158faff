import HttpRouter.Expression.Basic

namespace HttpRouter

namespace Expr

/-- The items of a row. Any other expression but the empty one is a row of one item. -/
def items : Expr → List Expr
  | empty => []
  | seq a b => a :: b.items
  | e => [e]

/-- The alternatives of a choice. Any other expression is its only alternative. -/
def branches : Expr → List Expr
  | alt a b => a :: b.branches
  | e => [e]

/-- The class as an expression. A class of one character is a literal. -/
def ofClass (cls : CharClass) : Expr :=
  match cls.only? with
  | some c => literal [c]
  | none => one cls

/-- Joins literals that stand side by side. -/
def joinLiterals : List Expr → List Expr
  | [] => []
  | literal s :: rest =>
    match joinLiterals rest with
    | literal t :: rest => literal (s ++ t) :: rest
    | rest => literal s :: rest
  | e :: rest => e :: joinLiterals rest

/-- The row of the given items. -/
def row : List Expr → Expr
  | [] => empty
  | [e] => e
  | e :: rest => seq e (row rest)

/-- The expressions one after the other, as a row that has no empty item, no row within it, and no two
    literals side by side. -/
def concat (es : List Expr) : Expr :=
  row (joinLiterals (es.flatMap items))

/-- The choice between the given alternatives, the preferred ones first. -/
def choice : List Expr → Expr
  | [] => one .empty
  | [e] => e
  | e :: rest => alt e (choice rest)

/-- The only character of a literal. -/
def asChar? : Expr → Option Char
  | literal [c] => some c
  | _ => none

/-- The class of an expression that is one. -/
def asClass? : Expr → Option CharClass
  | one cls => some cls
  | _ => none

/-- The class that alternatives make up together if all are single characters or all classes. -/
def asUnion? (es : List Expr) : Option CharClass :=
  let classes := (es.mapM asChar?).map (·.map CharClass.single) <|> es.mapM asClass?
  classes.map Unicode.CodePointSet.unionAll

/-- What two rows begin with in common. -/
def commonItems : List Expr → List Expr → List Expr
  | a :: as, b :: bs => if a = b then a :: commonItems as bs else []
  | _, _ => []

/-- What all the rows begin with. There is nothing unless each has two items at least. -/
def sharedItems (rows : List (List Expr)) : List Expr :=
  match rows with
  | [] => []
  | first :: rest =>
    if rows.all (2 ≤ ·.length) then rest.foldl commonItems first else []

/-- The number of parts of an expression. -/
def size : Expr → Nat
  | empty => 1
  | literal _ => 1
  | one _ => 1
  | look _ => 1
  | capture _ _ e => e.size + 1
  | seq a b => a.size + b.size + 1
  | alt a b => a.size + b.size + 1
  | .repeat _ _ _ e => e.size + 1

/-- The choice between alternatives after what they share. The fuel bounds how often something
    shared is taken out, which makes the alternatives smaller every time. -/
def choose : Nat → List Expr → Expr
  | fuel, es =>
    match es.flatMap branches with
    | [e] => e
    | es =>
      match asUnion? es with
      | some cls => ofClass cls
      | none =>
        match fuel, sharedItems (es.map items) with
        | fuel + 1, a :: shared =>
          let rests := es.map fun e => concat (e.items.drop (shared.length + 1))
          concat ((a :: shared) ++ [choose fuel rests])
        | _, _ => choice es

/-- The alternatives, the preferred ones first. None of them is itself a choice, single characters
    make a class, and what all of them begin with is taken out of them. -/
def alternatives (es : List Expr) : Expr :=
  choose (es.foldl (fun total e => total + e.size) 0) es

/-- A repetition in its simplest form: rounds that take nothing are counted at most once, no rounds
    are the empty expression, and one round is the body itself. -/
def repeated (least : Nat) (most : Option Nat) (greedy : Bool) (e : Expr) : Expr :=
  let least' := if e.takesNothing then min least 1 else least
  let most' := if e.takesNothing then some (min (most.getD 1) 1) else most
  if least' = 0 ∧ most' = some 0 then empty
  else if least' = 1 ∧ most' = some 1 then e
  else .repeat least' most' greedy e

end Expr

end HttpRouter
