import HttpRouter.Error
import HttpRouter.Json.Basic
import HttpRouter.Event
import HttpRouter.Settings.Document
import HttpRouter.Text.Blank
import HttpRouter.Text.Integer

namespace HttpRouter

/-- The settings of a router: the path it is mounted at, whether failures are told in full, and the
    milliseconds a user lookup may take. -/
structure Settings where
  mount : String := ""
  debug : Bool := false
  lookupBudget : Nat := 1000
  deriving Inhabited, DecidableEq, Repr

namespace Settings

/-- The path the router is mounted at, with a slash in front and none at the end. The root is
    empty. -/
def basePath (settings : Settings) : String :=
  match Text.dropWhileEnd (· == '/') (Text.trim settings.mount).toList with
  | [] => ""
  | '/' :: rest => .ofList ('/' :: rest)
  | rest => .ofList ('/' :: rest)

/-- Sets the field of a key, if the key is known and the value is of the kind of the field. -/
def setField (settings : Settings) (key : String) (value : Scalar) : Option Settings :=
  match key, value with
  | "base_path", .text mount => some { settings with mount }
  | "debug", .bool debug => some { settings with debug }
  | "guard_timeout_ms", .integer n =>
    if 0 ≤ n ∧ n ≤ Text.IntegerType.u64.greatest then
      some { settings with lookupBudget := n.toNat }
    else none
  | _, _ => none

/-- Why no settings could be loaded. -/
inductive LoadError where
  | malformed
  | unreadable (path reason : String)
  deriving Inhabited, DecidableEq, Repr

/-- The error of loading as the router reports it. -/
def LoadError.toRouterError : LoadError → RouterError
  | malformed => .settings "TOML parse error"
  | unreadable path reason => .settings s!"Failed to read {path}: {reason}"

/-- The settings of a document. Every key is optional, and no others are allowed. -/
def ofDocument (text : String) : Except LoadError Settings :=
  match (Document.read text).bind fun entries =>
    entries.foldlM (fun settings (key, value) => settings.setField key value) {} with
  | some settings => .ok settings
  | none => .error .malformed

/-- The settings of a file, given the bytes it holds or the reason why it cannot be read. -/
def ofFile (path : String) (content : Except String ByteArray) :
    Except LoadError (Logged Settings) := do
  let bytes ← content.mapError (.unreadable path)
  match String.fromUTF8? bytes with
  | none => throw (.unreadable path "stream did not contain valid UTF-8")
  | some text =>
    let settings ← ofDocument text
    return do
      Logged.tell (.settingsLoaded path)
      return settings

/-- The full name of a variable. -/
def variableName (name : String) : String :=
  "SWITCHYARD_" ++ name

/-- The truth value a text stands for, in any letter case and with blanks around it. -/
def truth? (raw : String) : Option Bool :=
  match (Text.trim raw).toList.map Char.toLower with
  | ['1'] => some true
  | ['t', 'r', 'u', 'e'] => some true
  | ['y', 'e', 's'] => some true
  | ['o', 'n'] => some true
  | ['0'] => some false
  | ['f', 'a', 'l', 's', 'e'] => some false
  | ['n', 'o'] => some false
  | ['o', 'f', 'f'] => some false
  | [] => some false
  | _ => none

/-- The settings with the variables of a layer in place of its own fields. The variables are read
    in the order of the fields, and the first wrong one decides the error. A layer with a wrong value
    changes nothing. -/
def override (settings : Settings) (lookup : String → Option String) :
    Except RouterError Settings := do
  let mountName := variableName "BASE_PATH"
  let debugName := variableName "DEBUG"
  let budgetName := variableName "GUARD_TIMEOUT_MS"
  let mount := (lookup mountName).getD settings.mount
  let debug ← match lookup debugName with
    | none => pure settings.debug
    | some raw =>
      match truth? raw with
      | some debug => pure debug
      | none => throw (.settings (debugName ++ ": not a boolean: " ++ raw))
  let lookupBudget ← match lookup budgetName with
    | none => pure settings.lookupBudget
    | some raw =>
      match Text.IntegerType.u64.read (Text.trim raw) with
      | .ok n => pure n.toNat
      | .error e => throw (.settings (budgetName ++ ": " ++ e.message))
  return { mount, debug, lookupBudget }

/-- The settings as a JSON object. -/
def toJson (settings : Settings) : Json :=
  .object [("base_path", .string settings.mount), ("debug", .bool settings.debug),
    ("guard_timeout_ms", .number (.whole settings.lookupBudget))]

/-- The settings as they are shown to a developer. -/
def shown (settings : Settings) : String :=
  Text.shownRecord "RouterSettings" [
    ("base_path", Text.quoted settings.mount),
    ("debug", if settings.debug then "true" else "false"),
    ("guard_timeout_ms", toString settings.lookupBudget)]

end Settings

end HttpRouter
