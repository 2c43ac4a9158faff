import HttpRouter.Expression.Footprint.Machine
import HttpRouter.Expression.Parser

namespace HttpRouter.Expr

/-- Reads an expression and refuses one whose machines take more bytes than the limit. -/
def compile (limit : Nat) (text : List Char) : Except ExprError Expr :=
  match parse text with
  | .error cause => .error (.malformed cause)
  | .ok e => if e.fits limit then .ok e else .error (.tooLarge limit)

end HttpRouter.Expr
