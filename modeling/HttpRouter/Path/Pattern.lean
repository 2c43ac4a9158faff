import HttpRouter.Error
import HttpRouter.Expression.Compile
import HttpRouter.Expression.Search
import HttpRouter.Path.Params
import HttpRouter.Path.Template

namespace HttpRouter

/-- A parameter that a pattern lists. -/
structure Parameter where
  name : String
  kind : CaptureKind
  deriving Inhabited, DecidableEq, Repr

/-- The expression under way while the segments of a template are read: its text, the latest
    character first, and the parameters, the latest first. -/
structure Draft where
  text : List Char
  parameters : List Parameter
  deriving Inhabited, DecidableEq, Repr

namespace Draft

/-- Adds text at the end of the expression. -/
def write (draft : Draft) (text : List Char) : Draft :=
  { draft with text := text.reverse ++ draft.text }

/-- Adds a segment, after the slash before it. The name of a capture must not be empty, start with a
    digit, or be taken already. -/
def addSegment (draft : Draft) (element : List Char) : Except TemplateError Draft :=
  let draft := draft.write ['/']
  match Segment.read element with
  | .literal text => .ok (draft.write (quote text))
  | .fragment text => .ok (draft.write (['(', '?', ':'] ++ text ++ [')']))
  | .capture letters kind =>
    let name := String.ofList letters
    match letters with
    | [] => .error (.emptyName (.ofList element))
    | first :: _ =>
      if first.isDigit then .error (.digitName name)
      else if draft.parameters.any (·.name == name) then .error (.duplicateName name)
      else
        let draft := draft.write (['(', '?', 'P', '<'] ++ letters ++ ['>'] ++
          kind.expression.toList ++ [')'])
        .ok { draft with parameters := ⟨name, kind⟩ :: draft.parameters }

end Draft

/-- A compiled template. The expression is kept as text and ready to run. -/
structure Pattern where
  template : String
  expression : String
  expr : Expr
  parameters : List Parameter
  deriving Inhabited, Repr

namespace Pattern

/-- The greatest size of an expression in bytes. -/
def maxSize : Nat := 1024 * 1024

/-- The text of the expression for a template and the parameters of its captures. The empty template
    and the slash stand for the root path alone. -/
def draft (template : List Char) : Except TemplateError (List Char × List Parameter) := do
  if template = [] ∨ template = ['/'] then return (['^', '/', '$'], [])
  let elements := Template.elements template
  if Template.maxSegments < elements.length then throw (.tooManySegments elements.length)
  let draft ← elements.foldlM Draft.addSegment ⟨['^'], []⟩
  return (('$' :: draft.text).reverse, draft.parameters.reverse)

/-- Adds the named groups of fragments to the parameters of the captures. -/
def withGroups (parameters : List Parameter) (names : List String) : List Parameter :=
  parameters ++ (names.filter fun name => !parameters.any (·.name == name)).map
    (⟨·, .fragment⟩)

/-- Compiles a template. -/
def ofTemplate (template : String) : Except TemplateError Pattern := do
  if Template.maxLength < template.utf8ByteSize then throw (.tooLong template.utf8ByteSize)
  let (text, parameters) ← draft template.toList
  match Expr.compile maxSize text with
  | .error e => throw (.refused e.message)
  | .ok expr =>
    return ⟨template, .ofList text, expr, withGroups parameters expr.captureNames⟩

/-- Compiles a template with a text in front of it. Nothing comes between the two. -/
def compile (template mount : String) : Except RouterError Pattern :=
  match ofTemplate (mount ++ template) with
  | .ok pattern => .ok pattern
  | .error e => .error (.malformedTemplate (mount ++ template) e.message)

/-- Two patterns are the same if their templates are. -/
instance : BEq Pattern := ⟨fun a b => a.template == b.template⟩

/-- Whether the template declares nothing to capture. -/
def isLiteral (pattern : Pattern) : Bool :=
  pattern.parameters.isEmpty

/-- Whether the pattern matches a path. -/
def isMatch (pattern : Pattern) (path : String) : Bool :=
  (pattern.expr.search path.toList.toArray).isSome

/-- The parameters of a path, if the pattern matches it. A group of a fragment that took no part in
    the match yields none. -/
def params? (pattern : Pattern) (path : String) : Option Params :=
  let text := path.toList.toArray
  (pattern.expr.search text).map fun (_, thread) =>
    ⟨pattern.parameters.filterMap fun parameter =>
      (thread.captured? text parameter.name).map (parameter.name, ·)⟩

end Pattern

end HttpRouter
