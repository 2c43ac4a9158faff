import HttpRouter.Expression.Escape

namespace HttpRouter

/-- An operation between the lists within brackets. -/
inductive ClassOp where
  | inter
  | diff
  | symmDiff
  deriving Inhabited, DecidableEq, Repr

/-- A class with the depth of its nesting. -/
structure NestedClass where
  cls : CharClass
  depth : Nat
  deriving Inhabited, DecidableEq, Repr

/-- The list under way within brackets: the union of its items and their number. -/
structure ClassItems where
  cls : CharClass := .empty
  count : Nat := 0
  depth : Nat := 0
  deriving Inhabited, DecidableEq, Repr

namespace ClassItems

/-- Adds an item at the end of the list. -/
def push (items : ClassItems) (a : CharClass) (depth : Nat) : ClassItems :=
  { cls := items.cls ∪ a
    count := items.count + 1
    depth := max items.depth depth }

/-- The list as one class. Two or more items are one level deeper. -/
def close (items : ClassItems) : NestedClass :=
  ⟨items.cls, if items.count ≤ 1 then items.depth else items.depth + 1⟩

end ClassItems

namespace Bracket

/-- Applies the pending operation, if any, to the list before it and the list after it. -/
def combine (f : Flags) (pending : Option (ClassOp × NestedClass)) (b : NestedClass) :
    NestedClass :=
  match pending with
  | none => b
  | some (op, a) =>
    let depth := max a.depth b.depth + 1
    match op with
    | .inter => ⟨f.fold a.cls ∩ f.fold b.cls, depth⟩
    | .diff => ⟨f.fold a.cls \ f.fold b.cls, depth⟩
    | .symmDiff => ⟨(f.fold a.cls).symmDiff (f.fold b.cls), depth⟩

/-- A named ASCII class, after its opening bracket: whether it is negated, the class, and what
    follows. Anything else is no such class. -/
def readPosix (s : List Char) : Option (Bool × CharClass × List Char) :=
  match s with
  | ':' :: s =>
    let (negated, s) := match s with
      | '^' :: s => (true, s)
      | s => (false, s)
    match s.span (· ≠ ':') with
    | (name, ':' :: ']' :: rest) =>
      (CharClass.posix? (.ofList name)).map fun a => (negated, a, rest)
    | _ => none
  | _ => none

/-- Reads a single item: an escape or the character itself. -/
def readItem (f : Flags) : List Char → Except SyntaxError (Atom × List Char)
  | [] => .error .classUnclosed
  | '\\' :: rest => Atom.readEscape f rest
  | c :: rest => .ok (.literal c false, rest)

/-- The character after a hyphen that decides whether the hyphen makes a range. -/
def afterHyphen (f : Flags) (s : List Char) : Option Char :=
  if f.verbose then
    match s.dropWhile Text.isBlank with
    | '#' :: rest => (rest.dropWhile Text.isBlank).head?
    | rest => rest.head?
  else s.head?

/-- Reads an item, or a range where a hyphen and a second character follow. -/
def readRange (f : Flags) (s : List Char) : Except SyntaxError (CharClass × List Char) := do
  let (first, rest) ← readItem f s
  let asItem : Except SyntaxError CharClass := match first with
    | .literal c _ => (Atom.classMember f c).map CharClass.single
    | .cls a => .ok a
    | .look _ => .error .classItem
  match f.skip rest with
  | [] => .error .classUnclosed
  | '-' :: after =>
    if afterHyphen f after = some ']' ∨ afterHyphen f after = some '-' then
      return (← asItem, '-' :: after)
    else
      let (second, rest) ← readItem f (f.skip after)
      match first, second with
      | .literal lo _, .literal hi _ =>
        let lo ← Atom.classMember f lo
        let hi ← Atom.classMember f hi
        if lo ≤ hi then return (CharClass.range lo hi, rest) else .error .classRange
      | _, _ => .error .classRange
  | rest => return (← asItem, rest)

/-- Whether a class is negated, read right after its opening bracket. -/
def opening (f : Flags) (s : List Char) : Bool × List Char :=
  match f.skip s with
  | '^' :: rest => (true, rest)
  | rest => (false, rest)

/-- Reads the rest of a bracketed class from within. Hyphens at the very beginning, and a closing
    bracket that comes first, are literal. The fuel bounds the items read, and the length of the
    text is enough of it. -/
def readItems (f : Flags) : Nat → Bool → Bool → Option (ClassOp × NestedClass) → ClassItems →
    List Char → Except SyntaxError (NestedClass × List Char)
  | 0, _, _, _, _, _ => .error .classUnclosed
  | fuel + 1, negated, leading, pending, items, s =>
    let operator := fun op rest =>
      readItems f fuel negated false (some (op, combine f pending items.close)) {} rest
    match f.skip s with
    | [] => .error .classUnclosed
    | '[' :: rest =>
      match readPosix rest with
      | some (negatedName, a, rest) => do
        let a ← f.foldNegate negatedName a
        readItems f fuel negated false pending (items.push a 0) rest
      | none => do
        let (negatedInner, rest) := opening f rest
        let (inner, rest) ← readItems f fuel negatedInner true none {} rest
        readItems f fuel negated false pending (items.push inner.cls (inner.depth + 1)) rest
    | ']' :: rest =>
      if leading ∧ items.count = 0 then
        readItems f fuel negated false pending (items.push (CharClass.single ']') 0) rest
      else do
        let whole := combine f pending items.close
        return (⟨← f.foldNegate negated whole.cls, whole.depth⟩, rest)
    | '-' :: rest =>
      if leading then
        readItems f fuel negated true pending (items.push (CharClass.single '-') 0) rest
      else
        match rest with
        | '-' :: rest => operator .diff rest
        | rest => do
          let (a, rest) ← readRange f ('-' :: rest)
          readItems f fuel negated false pending (items.push a 0) rest
    | '&' :: '&' :: rest => operator .inter rest
    | '~' :: '~' :: rest => operator .symmDiff rest
    | s => do
      let (a, rest) ← readRange f s
      readItems f fuel negated false pending (items.push a 0) rest

/-- Reads a bracketed class after its opening bracket. -/
def read (f : Flags) (s : List Char) : Except SyntaxError (NestedClass × List Char) :=
  let (negated, rest) := opening f s
  readItems f s.length.succ negated true none {} rest

end Bracket

end HttpRouter
