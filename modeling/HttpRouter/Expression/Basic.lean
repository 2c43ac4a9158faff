import HttpRouter.Expression.CharClass

namespace HttpRouter

/-- A condition on a place in a text. It takes no characters. -/
inductive Assertion where
  | textStart
  | textEnd
  | lineStart
  | lineEnd
  | lineStartCrlf
  | lineEndCrlf
  | wordBoundary (ascii : Bool)
  | notWordBoundary (ascii : Bool)
  | wordStart (ascii : Bool)
  | wordEnd (ascii : Bool)
  | wordStartHalf (ascii : Bool)
  | wordEndHalf (ascii : Bool)
  deriving Inhabited, DecidableEq, Repr

/-- An expression. Captures are numbered in the order in which they open, and some have names. A
    repetition runs from `least` to `most` rounds, without end when `most` is absent, and prefers
    more rounds when it is greedy and fewer otherwise. -/
inductive Expr where
  | empty
  | literal (text : List Char)
  | one (cls : CharClass)
  | look (assertion : Assertion)
  | capture (index : Nat) (name : Option String) (e : Expr)
  | seq (a b : Expr)
  | alt (a b : Expr)
  | repeat (least : Nat) (most : Option Nat) (greedy : Bool) (e : Expr)
  deriving Inhabited, DecidableEq, Repr

namespace Assertion

/-- Whether the character at a place is a word character. A place outside the text has none. -/
def wordAt (ascii : Bool) (text : Array Char) (place : Nat) : Bool :=
  match text[place]? with
  | some c => (if ascii then CharClass.asciiWord else CharClass.word).has c
  | none => false

/-- Whether the character before a place is a word character. -/
def wordBefore (ascii : Bool) (text : Array Char) (place : Nat) : Bool :=
  place ≠ 0 && wordAt ascii text (place - 1)

/-- Whether the assertion holds at a place of the text. -/
def holds (text : Array Char) (place : Nat) : Assertion → Bool
  | textStart => place = 0
  | textEnd => place = text.size
  | lineStart => place = 0 || text[place - 1]? = some '\n'
  | lineEnd => place = text.size || text[place]? = some '\n'
  | lineStartCrlf =>
    place = 0 || text[place - 1]? = some '\n' ||
      (text[place - 1]? = some '\r' && text[place]? ≠ some '\n')
  | lineEndCrlf =>
    place = text.size || text[place]? = some '\r' ||
      (text[place]? = some '\n' && (place = 0 || text[place - 1]? ≠ some '\r'))
  | wordBoundary ascii => wordBefore ascii text place != wordAt ascii text place
  | notWordBoundary ascii => wordBefore ascii text place == wordAt ascii text place
  | wordStart ascii => !wordBefore ascii text place && wordAt ascii text place
  | wordEnd ascii => wordBefore ascii text place && !wordAt ascii text place
  | wordStartHalf ascii => !wordBefore ascii text place
  | wordEndHalf ascii => !wordAt ascii text place

end Assertion

namespace Expr

/-- Whether the text has the given characters from a place on. -/
def readsAt (text : Array Char) : List Char → Nat → Bool
  | [], _ => true
  | c :: rest, place => text[place]? = some c && readsAt text rest (place + 1)

/-- The expression describes the stretch of the text from place `i` to place `j`. -/
inductive Matches (text : Array Char) : Expr → Nat → Nat → Prop where
  | empty (i : Nat) : Matches text .empty i i
  | literal {s : List Char} {i : Nat} (hreads : readsAt text s i = true) :
      Matches text (.literal s) i (i + s.length)
  | one {cls : CharClass} {i : Nat} {c : Char} (hchar : text[i]? = some c) (hmem : c ∈ cls) :
      Matches text (.one cls) i (i + 1)
  | look {a : Assertion} {i : Nat} (hholds : a.holds text i = true) : Matches text (.look a) i i
  | capture {index : Nat} {name : Option String} {e : Expr} {i j : Nat}
      (hbody : Matches text e i j) : Matches text (.capture index name e) i j
  | seq {a b : Expr} {i j k : Nat} (hfirst : Matches text a i j) (hsecond : Matches text b j k) :
      Matches text (.seq a b) i k
  | altLeft {a b : Expr} {i j : Nat} (hleft : Matches text a i j) : Matches text (.alt a b) i j
  | altRight {a b : Expr} {i j : Nat} (hright : Matches text b i j) : Matches text (.alt a b) i j
  | stop {most : Option Nat} {greedy : Bool} {e : Expr} (i : Nat) :
      Matches text (.repeat 0 most greedy e) i i
  | round {least : Nat} {most : Option Nat} {greedy : Bool} {e : Expr} {i j k : Nat}
      (hmost : most ≠ some 0) (hround : Matches text e i j)
      (hrest : Matches text (.repeat (least - 1) (most.map (· - 1)) greedy e) j k) :
      Matches text (.repeat least most greedy e) i k

/-- The names of the captures in the order in which they open. -/
def captureNames : Expr → List String
  | empty => []
  | literal _ => []
  | one _ => []
  | look _ => []
  | capture _ name e => name.toList ++ e.captureNames
  | seq a b => a.captureNames ++ b.captureNames
  | alt a b => a.captureNames ++ b.captureNames
  | .repeat _ _ _ e => e.captureNames

/-- The fewest characters that a stretch can have by the form of the expression. There is no such
    number when an empty class keeps the expression from describing anything. -/
def leastLength : Expr → Option Nat
  | empty => some 0
  | literal text => some text.length
  | one cls => if cls = .empty then none else some 1
  | look _ => some 0
  | capture _ _ e => e.leastLength
  | seq a b => do return (← a.leastLength) + (← b.leastLength)
  | alt a b => do return min (← a.leastLength) (← b.leastLength)
  | .repeat least _ _ e => e.leastLength.map (least * ·)

/-- Whether every stretch takes at least one character by the form of the expression. -/
def takesSomething (e : Expr) : Bool :=
  e.leastLength.any (0 < ·)

/-- Whether every stretch is empty by the form of the expression. -/
def takesNothing : Expr → Bool
  | empty => true
  | literal text => text.isEmpty
  | one _ => false
  | look _ => true
  | capture _ _ e => e.takesNothing
  | seq a b => a.takesNothing && b.takesNothing
  | alt a b => a.takesNothing && b.takesNothing
  | .repeat _ most _ e => most.isSome && e.takesNothing

end Expr

end HttpRouter
