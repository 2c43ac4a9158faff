import HttpRouter.Assoc
import HttpRouter.Path.Value
import HttpRouter.Text.Quoted

namespace HttpRouter

/-- Why a parameter cannot be read. -/
inductive ParamError where
  | missing (name : String)
  | unreadable (name type raw reason : String)
  deriving Inhabited, DecidableEq, Repr

/-- The wording of a parameter error. -/
def ParamError.message : ParamError → String
  | missing name => s!"Missing path parameter: {name}"
  | unreadable name type raw reason =>
    s!"Failed to parse path parameter '{name}' ('{raw}') as {type}: {reason}"

/-- Captured texts by name, in the order of the pattern. -/
structure Params where
  entries : List (String × String)
  deriving Inhabited, DecidableEq, Repr

namespace Params

/-- No parameters. -/
def empty : Params := ⟨[]⟩

/-- The text of the first parameter of a name. -/
def get? (params : Params) (name : String) : Option String :=
  Assoc.find? name params.entries

/-- Whether there is a parameter of a name. -/
def contains (params : Params) (name : String) : Bool :=
  (params.get? name).isSome

/-- The number of parameters. -/
def size (params : Params) : Nat :=
  params.entries.length

/-- The parameters as a map, one pair for each name. The last text of a name counts. -/
def toMap (params : Params) : List (String × String) :=
  params.entries.foldl (fun pairs (name, value) => Assoc.put name value pairs) []

/-- The parameters as they are shown to a developer. -/
def shown (params : Params) : String :=
  Text.shownRecord "PathParams" [("entries", Text.shownList (params.entries.map
    fun (name, value) => Text.shownTuple "" [Text.quoted name, Text.quoted value]))]

/-- Reads a parameter as a value of a type. -/
def read (params : Params) (type : ValueType) (name : String) : Except ParamError Value :=
  match params.get? name with
  | none => .error (.missing name)
  | some raw =>
    match type.read raw with
    | .ok value => .ok value
    | .error reason => .error (.unreadable name type.name raw reason)

end Params

end HttpRouter
