import HttpRouter.Json.Reader

namespace HttpRouter.Http

/-- What a client is told about an error. -/
structure ErrorBody where
  code : String
  title : String
  message : String
  deriving Inhabited, DecidableEq, Repr

namespace ErrorBody

/-- The payload for a page that does not exist. -/
def notFound : ErrorBody :=
  ⟨"404", "Not Found", "The specified page does not exist"⟩

/-- The payload for a failure of the server. -/
def internal (detail : String) : ErrorBody :=
  ⟨"500", "Internal Server Error", detail⟩

/-- The payload as a JSON object. -/
def toJson (payload : ErrorBody) : Json :=
  .object [("code", .string payload.code), ("title", .string payload.title),
    ("message", .string payload.message)]

/-- The payload as it is shown to a developer. -/
def shown (payload : ErrorBody) : String :=
  Text.shownRecord "ErrorPayload" [("code", Text.quoted payload.code),
    ("title", Text.quoted payload.title), ("message", Text.quoted payload.message)]

/-- The fields of a payload that have been read so far. -/
structure Fields where
  code : Option String := none
  title : Option String := none
  message : Option String := none
  deriving Inhabited, DecidableEq, Repr

namespace Fields

/-- The payload, once every field is there. -/
def complete? (fields : Fields) : Option ErrorBody := do
  return ⟨← fields.code, ← fields.title, ← fields.message⟩

/-- Reads the value of a field by its name. A field may not come twice, and other names are
    skipped. -/
def readField (fields : Fields) (name : String) (s : List Char) : Option (Fields × List Char) :=
  let fresh := fun (old : Option String) (set : String → Fields) =>
    match old with
    | some _ => none
    | none => (Json.readString (Json.skipBlanks s)).map fun (value, rest) => (set value, rest)
  match name with
  | "code" => fresh fields.code fun value => { fields with code := value }
  | "title" => fresh fields.title fun value => { fields with title := value }
  | "message" => fresh fields.message fun value => { fields with message := value }
  | _ => (Json.skipValue (s.length + 2) s).map (fields, ·)

/-- Reads the members of an object that has at least one more of them. -/
def readMembers : Nat → Fields → List Char → Option (Fields × List Char)
  | 0, _, _ => none
  | fuel + 1, fields, s => do
    let (name, rest) ← Json.readString (Json.skipBlanks s)
    match Json.skipBlanks rest with
    | ':' :: rest =>
      let (fields, rest) ← fields.readField name rest
      match Json.skipBlanks rest with
      | ',' :: rest => readMembers fuel fields rest
      | '\x7d' :: rest => some (fields, rest)
      | _ => none
    | _ => none

end Fields

/-- Reads the three fields of a payload as the items of an array. -/
def readItems (s : List Char) : Option (ErrorBody × List Char) := do
  let (code, rest) ← Json.readString (Json.skipBlanks s)
  let (title, rest) ← comma? rest
  let (message, rest) ← comma? rest
  match Json.skipBlanks rest with
  | ']' :: rest => some (⟨code, title, message⟩, rest)
  | _ => none
where
  comma? (s : List Char) : Option (String × List Char) :=
    match Json.skipBlanks s with
    | ',' :: rest => Json.readString (Json.skipBlanks rest)
    | _ => none

/-- Reads a payload from a text that holds nothing else: an object with the three fields in any
    order, among others, or an array of exactly the three texts. -/
def read (text : String) : Option ErrorBody :=
  let s := text.toList
  let whole := match Json.skipBlanks s with
    | '\x7b' :: rest =>
      match Json.skipBlanks rest with
      | '\x7d' :: _ => none
      | rest => do
        let (fields, rest) ← Fields.readMembers (s.length + 1) {} rest
        return (← fields.complete?, rest)
    | '[' :: rest => readItems rest
    | _ => none
  whole.bind fun (payload, rest) => if (Json.skipBlanks rest).isEmpty then some payload else none

end ErrorBody

end HttpRouter.Http
