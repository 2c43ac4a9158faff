namespace HttpRouter

/-- The kind of text a capture takes. Named groups of fragments are of the kind `fragment`. -/
inductive CaptureKind where
  | any
  | int
  | alpha
  | alphanumeric
  | fragment
  deriving Inhabited, DecidableEq, Repr

namespace CaptureKind

/-- The kind of a token, in any letter case. Any text may stand for an unknown token. -/
def ofToken (token : List Char) : CaptureKind :=
  match String.ofList (token.map Char.toLower) with
  | "int" => int
  | "integer" => int
  | "alpha" => alpha
  | "alphanumeric" => alphanumeric
  | "alphanum" => alphanumeric
  | "alnum" => alphanumeric
  | "regex" => fragment
  | _ => any

/-- The name of a kind. -/
def name : CaptureKind → String
  | any => "any"
  | int => "int"
  | alpha => "alpha"
  | alphanumeric => "alphanumeric"
  | fragment => "regex"

/-- The text of the expression for one or more characters of the kind. -/
def expression : CaptureKind → String
  | any => "[^/]+?"
  | int => "[0-9]+?"
  | alpha => "[a-zA-Z_-]+?"
  | alphanumeric => "[0-9a-zA-Z_-]+?"
  | fragment => "[^/]+?"

end CaptureKind

/-- A segment of a template. -/
inductive Segment where
  | literal (text : List Char)
  | fragment (text : List Char)
  | capture (name : List Char) (kind : CaptureKind)
  deriving Inhabited, DecidableEq, Repr

namespace Segment

/-- The text before the first colon and the text after it. -/
def splitColon (s : List Char) : Option (List Char × List Char) :=
  match s.span (· ≠ ':') with
  | (_, []) => none
  | (token, _ :: rest) => some (token, rest)

/-- Whether a token announces a fragment. -/
def announcesFragment (token : List Char) : Bool :=
  token.map Char.toLower == ['r', 'e', 'g', 'e', 'x']

/-- The name of a capture: the ASCII letters and digits up to the next colon. -/
def captureName (rest : List Char) : List Char :=
  (rest.takeWhile (· ≠ ':')).filter Char.isAlphanum

/-- Reads a segment from the text between two slashes. A fragment may also be announced after a
    leading colon. -/
def read (element : List Char) : Segment :=
  match splitColon element with
  | none => literal element
  | some (token, rest) =>
    let asCapture := capture (captureName rest) (.ofToken token)
    if announcesFragment token then fragment rest
    else if token.isEmpty then
      match splitColon rest with
      | some (inner, text) => if announcesFragment inner then fragment text else asCapture
      | none => asCapture
    else asCapture

end Segment

namespace Template

/-- The texts between the slashes of a template. One slash at the front separates nothing. -/
def elements (template : List Char) : List (List Char) :=
  match template with
  | '/' :: rest => rest.splitOn '/'
  | s => s.splitOn '/'

/-- The greatest length of a template in bytes. -/
def maxLength : Nat := 1024

/-- The greatest number of segments. -/
def maxSegments : Nat := 32

end Template

/-- Why a template cannot be compiled. -/
inductive TemplateError where
  | tooLong (length : Nat)
  | tooManySegments (count : Nat)
  | emptyName (element : String)
  | digitName (name : String)
  | duplicateName (name : String)
  | refused (reason : String)
  deriving Inhabited, DecidableEq, Repr

/-- The wording of a template error. -/
def TemplateError.message : TemplateError → String
  | tooLong length =>
    s!"length {length} exceeds maximum allowed length of {Template.maxLength} bytes"
  | tooManySegments count => s!"{count} segments exceed maximum of {Template.maxSegments}"
  | emptyName element => s!"segment '{element}' has an empty parameter name"
  | digitName name => s!"parameter name '{name}' must not start with a digit"
  | duplicateName name => s!"duplicate parameter name '{name}'"
  | refused reason => reason

end HttpRouter
