import HttpRouter.Expression.Token

namespace HttpRouter

/-- An expression with the depth of its nesting. -/
structure Piece where
  expr : Expr
  depth : Nat
  deriving Inhabited, DecidableEq, Repr

namespace Piece

/-- The pieces of a row, in order, as one. A flag setting has its place in the row but describes
    nothing. Two or more items are one level deeper. -/
def ofRow (row : List (Option Piece)) : Piece :=
  let pieces := row.filterMap id
  let depth := pieces.foldl (fun depth p => max depth p.depth) 0
  ⟨.concat (pieces.map (·.expr)), if row.length ≤ 1 then depth else depth + 1⟩

/-- The alternatives, in order, as one. Two or more of them are one level deeper. -/
def ofAlternatives (pieces : List Piece) : Piece :=
  let depth := pieces.foldl (fun depth p => max depth p.depth) 0
  ⟨.alternatives (pieces.map (·.expr)), if pieces.length ≤ 1 then depth else depth + 1⟩

end Piece

/-- A group under way: the alternatives that are complete and the row of the current one, each with
    the latest first. A flag setting stands in the row without a piece. -/
structure OpenGroup where
  alternatives : List Piece := []
  row : List (Option Piece) := []
  deriving Inhabited, DecidableEq, Repr

/-- The group as one piece. -/
def OpenGroup.close (group : OpenGroup) : Piece :=
  .ofAlternatives ((Piece.ofRow group.row.reverse :: group.alternatives).reverse)

/-- A group that waits for an inner one to close: its own state, the kind of the inner group with
    the number of its capture, and the flags to return to. -/
structure OuterGroup where
  group : OpenGroup
  inner : GroupKind
  index : Nat
  flags : Flags
  deriving Inhabited, DecidableEq, Repr

/-- The state of reading: the flags in force, the number of captures opened so far and the names
    given to them, the group under way and the groups around it, the innermost first. -/
structure ParseState where
  flags : Flags := {}
  captures : Nat := 0
  names : List String := []
  group : OpenGroup := {}
  outer : List OuterGroup := []
  deriving Inhabited, DecidableEq, Repr

namespace ParseState

/-- Adds a piece at the end of the current row. -/
def push (state : ParseState) (piece : Option Piece) : ParseState :=
  { state with group := { state.group with row := piece :: state.group.row } }

/-- Takes one token. A repetition needs a piece right before it. -/
def take (state : ParseState) : Token → Except SyntaxError ParseState
  | .atom e depth => .ok (state.push (some ⟨e, depth⟩))
  | .setFlags f => .ok { state.push none with flags := f }
  | .openGroup kind inner =>
    let within := { state with
      flags := inner, group := {}
      outer := ⟨state.group, kind, state.captures + 1, state.flags⟩ :: state.outer }
    match kind with
    | .plain => .ok within
    | .capturing none => .ok { within with captures := state.captures + 1 }
    | .capturing (some name) =>
      if state.names.contains name then .error (.groupNameRepeated name)
      else .ok { within with captures := state.captures + 1, names := name :: state.names }
  | .closeGroup =>
    match state.outer with
    | [] => .error .groupUnopened
    | around :: outer =>
      let body := state.group.close
      let expr := match around.inner with
        | .plain => body.expr
        | .capturing name => .capture around.index name body.expr
      .ok (push { state with flags := around.flags, group := around.group, outer }
        (some ⟨expr, body.depth + 1⟩))
  | .bar =>
    .ok { state with group := {
      alternatives := Piece.ofRow state.group.row.reverse :: state.group.alternatives } }
  | .repetition least most greedy =>
    match state.group.row with
    | some piece :: row =>
      .ok { state with group := { state.group with
        row := some ⟨.repeated least most greedy piece.expr, piece.depth + 1⟩ :: row } }
    | _ => .error .repetitionMissing

/-- Takes the tokens of a text one after the other. The fuel bounds their number, and the length
    of the text is enough of it. -/
def readAll : Nat → ParseState → List Char → Except SyntaxError ParseState
  | 0, state, _ => .ok state
  | fuel + 1, state, s => do
    match ← Token.read state.flags s with
    | none => return state
    | some (token, rest) => readAll fuel (← state.take token) rest

/-- The deepest nesting that is allowed. -/
def maxDepth : Nat := 250

/-- The expression that has been read, once every group is closed. -/
def finish (state : ParseState) : Except SyntaxError Expr :=
  match state.outer with
  | _ :: _ => .error .groupUnclosed
  | [] =>
    let whole := state.group.close
    if whole.depth ≤ maxDepth then .ok whole.expr else .error .nesting

end ParseState

/-- Reads an expression from its text. -/
def Expr.parse (text : List Char) : Except SyntaxError Expr := do
  (← ParseState.readAll (text.length + 1) {} text).finish

end HttpRouter
