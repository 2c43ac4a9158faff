import HttpRouter.Expression.Bracket
import HttpRouter.Unicode.NextEdition

namespace HttpRouter

/-- Whether a group captures what it matches, and under which name. -/
inductive GroupKind where
  | plain
  | capturing (name : Option String)
  deriving Inhabited, DecidableEq, Repr

/-- A token. An atom carries the depth of its nesting, and the opening of a group its kind and the
    flags inside. -/
inductive Token where
  | atom (e : Expr) (depth : Nat)
  | openGroup (kind : GroupKind) (inner : Flags)
  | setFlags (f : Flags)
  | closeGroup
  | bar
  | repetition (least : Nat) (most : Option Nat) (greedy : Bool)
  deriving Inhabited, DecidableEq, Repr

namespace Token

/-- The greatest repetition count. -/
def maxCount : Nat := 0xFFFFFFFF

/-- Letters of any script may open the name of a group, as may the underscore. -/
def isNameStart (c : Char) : Bool :=
  c == '_' || c.isAlpha || Unicode.NextEdition.alphabetic.contains c.toNat

/-- Within the name of a group, digits, dots and square brackets may stand as well. -/
def isNameRest (c : Char) : Bool :=
  isNameStart c || c == '.' || c == '[' || c == ']' || c.isDigit ||
    Unicode.NextEdition.number.contains c.toNat

/-- Reads the name of a group up to its closing angle bracket. -/
def readName (s : List Char) : Except SyntaxError (String × List Char) :=
  match s.span (· ≠ '>') with
  | (c :: name, _ :: rest) =>
    if isNameStart c && name.all isNameRest then .ok (.ofList (c :: name), rest)
    else .error .groupName
  | _ => .error .groupName

/-- Reads flag letters up to a colon or a closing bracket. Answers the flags that result, whether
    any letter was there, the character that ended them and what follows it. The letters seen so
    far may not come again, and a hyphen needs a letter after it. -/
def readFlags (f : Flags) (on : Bool) (seen : List Char) :
    List Char → Except SyntaxError (Flags × Bool × Bool × List Char)
  | [] => .error .groupUnclosed
  | c :: rest =>
    if c = ':' ∨ c = ')' then
      if seen.head? == some '-' then .error .flagDangling
      else .ok (f, !seen.isEmpty, c = ':', rest)
    else if seen.contains c then .error .flagRepeated
    else if c = '-' then readFlags f false (c :: seen) rest
    else
      match f.set? c on with
      | some f => readFlags f on (c :: seen) rest
      | none => .error .flag

/-- Reads what follows an opening round bracket. -/
def readGroup (f : Flags) (s : List Char) : Except SyntaxError (Token × List Char) :=
  match f.skip s with
  | '?' :: '=' :: _ => .error .lookAround
  | '?' :: '!' :: _ => .error .lookAround
  | '?' :: '<' :: '=' :: _ => .error .lookAround
  | '?' :: '<' :: '!' :: _ => .error .lookAround
  | '?' :: 'P' :: '<' :: rest => do
    let (name, rest) ← readName rest
    return (openGroup (.capturing (some name)) f, rest)
  | '?' :: '<' :: rest => do
    let (name, rest) ← readName rest
    return (openGroup (.capturing (some name)) f, rest)
  | '?' :: rest => do
    let (inner, any, within, rest) ← readFlags f true [] rest
    if within then return (openGroup .plain inner, rest)
    else if any then return (setFlags inner, rest)
    else .error .repetitionMissing
  | rest => .ok (openGroup (.capturing none) f, rest)

/-- Whether a repetition is greedy, given whether a question mark follows its sign. -/
def greedy (f : Flags) (lazy : Bool) : Bool :=
  lazy == f.swapGreed

/-- A repetition sign with the question mark that may follow it. -/
def readSign (f : Flags) (least : Nat) (most : Option Nat) (s : List Char) : Token × List Char :=
  match s with
  | '?' :: rest => (repetition least most (greedy f true), rest)
  | _ => (repetition least most (greedy f false), s)

/-- Reads a repetition count, with any blanks around it. -/
def readCount (f : Flags) (s : List Char) : Except SyntaxError (Nat × List Char) :=
  match f.readDigits false (s.dropWhile Text.isBlank) with
  | ([], _) => .error .repetitionCount
  | (digits, rest) =>
    let value := digits.foldl (fun value c => value * 10 + (c.toNat - '0'.toNat)) 0
    if value ≤ maxCount then .ok (value, f.skip (rest.dropWhile Text.isBlank))
    else .error .repetitionCount

/-- Reads the closing brace of repetition counts. The lower count may not exceed the upper one. -/
def closeCounts (f : Flags) (least : Nat) (most : Option Nat) (s : List Char) :
    Except SyntaxError (Token × List Char) :=
  match s with
  | '\x7d' :: rest =>
    if most.all (least ≤ ·) then .ok (readSign f least most (f.skip rest))
    else .error .repetitionCount
  | _ => .error .repetitionCount

/-- Reads the counts of a repetition after its opening brace. -/
def readCounts (f : Flags) (s : List Char) : Except SyntaxError (Token × List Char) := do
  let (least, rest) ← readCount f (f.skip s)
  match rest with
  | ',' :: rest =>
    match f.skip rest with
    | '\x7d' :: rest => closeCounts f least none ('\x7d' :: rest)
    | rest => do
      let (most, rest) ← readCount f rest
      closeCounts f least (some most) rest
  | rest => closeCounts f least (some least) rest

/-- Reads the next token. There is none when only blanks without meaning are left. -/
def read (f : Flags) (s : List Char) : Except SyntaxError (Option (Token × List Char)) :=
  match f.skip s with
  | [] => .ok none
  | '(' :: rest => (readGroup f rest).map some
  | ')' :: rest => .ok (some (closeGroup, rest))
  | '|' :: rest => .ok (some (bar, rest))
  | '[' :: rest => do
    let (a, rest) ← Bracket.read f rest
    return some (atom (.ofClass a.cls) (a.depth + 1), rest)
  | '?' :: rest => .ok (some (readSign f 0 (some 1) rest))
  | '*' :: rest => .ok (some (readSign f 0 none rest))
  | '+' :: rest => .ok (some (readSign f 1 none rest))
  | '\x7b' :: rest => (readCounts f rest).map some
  | '\\' :: rest => do
    let (a, rest) ← Atom.readEscape f rest
    return some (atom (← a.toExpr f) 0, rest)
  | '.' :: rest => do return some (atom (.ofClass (← f.dot)) 0, rest)
  | '^' :: rest => .ok (some (atom (.look f.startAssertion) 0, rest))
  | '$' :: rest => .ok (some (atom (.look f.endAssertion) 0, rest))
  | c :: rest => do return some (atom (← (Atom.literal c false).toExpr f) 0, rest)

end Token

end HttpRouter
