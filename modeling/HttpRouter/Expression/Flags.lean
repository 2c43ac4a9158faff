import HttpRouter.Expression.Basic
import HttpRouter.Expression.Error
import HttpRouter.Text.Blank

namespace HttpRouter

/-- The flags in force at a place in the text of an expression. -/
structure Flags where
  ignoreCase : Bool := false
  multiLine : Bool := false
  dotAll : Bool := false
  swapGreed : Bool := false
  unicode : Bool := true
  crlf : Bool := false
  verbose : Bool := false
  deriving Inhabited, DecidableEq, Repr

namespace Flags

/-- Turns the flag of a letter on or off. Unknown letters have no flag. -/
def set? (f : Flags) (letter : Char) (on : Bool) : Option Flags :=
  match letter with
  | 'i' => some { f with ignoreCase := on }
  | 'm' => some { f with multiLine := on }
  | 's' => some { f with dotAll := on }
  | 'U' => some { f with swapGreed := on }
  | 'u' => some { f with unicode := on }
  | 'R' => some { f with crlf := on }
  | 'x' => some { f with verbose := on }
  | _ => none

/-- Drops blanks and comments. A comment runs from a number sign to the end of its line. -/
def skipComments : Bool → List Char → List Char
  | _, [] => []
  | true, c :: rest => skipComments (c ≠ '\n') rest
  | false, c :: rest =>
    if Text.isBlank c then skipComments false rest
    else if c = '#' then skipComments true rest
    else c :: rest

/-- What is left to read once the characters without meaning are dropped. Only verbose text has
    any. -/
def skip (f : Flags) (s : List Char) : List Char :=
  if f.verbose then skipComments false s else s

/-- The characters with meaning up to a closing one, and what follows it. -/
def readUntil (f : Flags) (close : Char) : Bool → List Char → Option (List Char × List Char)
  | _, [] => none
  | true, c :: rest => f.readUntil close (c ≠ '\n') rest
  | false, c :: rest =>
    if f.verbose ∧ Text.isBlank c then f.readUntil close false rest
    else if f.verbose ∧ c = '#' then f.readUntil close true rest
    else if c = close then some ([], rest)
    else (f.readUntil close false rest).map fun (word, rest) => (c :: word, rest)

/-- The decimal digits at the start of the text and what follows them. -/
def readDigits (f : Flags) : Bool → List Char → List Char × List Char
  | _, [] => ([], [])
  | true, c :: rest => f.readDigits (c ≠ '\n') rest
  | false, c :: rest =>
    if f.verbose ∧ Text.isBlank c then f.readDigits false rest
    else if f.verbose ∧ c = '#' then f.readDigits true rest
    else if c.isDigit then ((f.readDigits false rest).map (c :: ·) id)
    else ([], c :: rest)

/-- The class with the other letter cases, where case does not count. Outside Unicode it has those
    of the ASCII letters alone. -/
def fold (f : Flags) (a : CharClass) : CharClass :=
  if f.ignoreCase then
    Unicode.Folding.closeUnder
      (if f.unicode then Unicode.Folding.orbits else Unicode.Folding.asciiOrbits) a
  else a

/-- The class with other letter cases, then its complement if asked for. Outside Unicode a
    complement would match parts of characters and is refused. -/
def foldNegate (f : Flags) (negated : Bool) (a : CharClass) : Except SyntaxError CharClass :=
  if negated then
    if f.unicode then .ok (f.fold a).compl else .error .beyondAscii
  else .ok (f.fold a)

/-- The class of any character but a line end, or of any character at all. -/
def dot (f : Flags) : Except SyntaxError CharClass :=
  if !f.unicode then .error .beyondAscii
  else if f.dotAll then .ok .any
  else if f.crlf then .ok (CharClass.ofAscii [('\n', '\n'), ('\r', '\r')]).compl
  else .ok (CharClass.single '\n').compl

/-- The meaning of the caret. -/
def startAssertion (f : Flags) : Assertion :=
  if f.multiLine then if f.crlf then .lineStartCrlf else .lineStart else .textStart

/-- The meaning of the dollar sign. -/
def endAssertion (f : Flags) : Assertion :=
  if f.multiLine then if f.crlf then .lineEndCrlf else .lineEnd else .textEnd

end Flags

end HttpRouter
