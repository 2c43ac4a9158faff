import HttpRouter.Unicode.Binary.Derived

namespace HttpRouter

/-- A set of characters by their code points. Surrogates are in no class, so that two classes of the
    same characters are the same set. -/
abbrev CharClass := Unicode.CodePointSet

namespace CharClass

open Unicode

/-- Whether a character belongs to the class. -/
def has (a : CharClass) (c : Char) : Bool :=
  a.contains c.toNat

instance : Membership Char CharClass := ⟨fun a c => a.has c = true⟩

instance (a : CharClass) (c : Char) : Decidable (c ∈ a) :=
  inferInstanceAs (Decidable (a.has c = true))

/-- Every character. -/
def any : CharClass := CodePointSet.scalars

/-- The class of one character. -/
def single (c : Char) : CharClass :=
  CodePointSet.single c.toNat

/-- The characters from the first to the last. -/
def range (first last : Char) : CharClass :=
  let points := CodePointSet.range first.toNat last.toNat
  if first.toNat < 0xD800 ∧ 0xE000 ≤ last.toNat then points ∩ CodePointSet.scalars else points

/-- The ASCII characters of the given ranges, which are in increasing order. -/
def ofAscii (ranges : List (Char × Char)) : CharClass :=
  CodePointSet.ofRanges (ranges.map fun (first, last) => (first.toNat, last.toNat))

/-- The only character of the class, if it has no other. -/
def only? (a : CharClass) : Option Char :=
  match a.ranges with
  | [(first, last)] => if first = last then some (.ofNat first) else none
  | _ => none

/-- Whether all characters of the class are ASCII. -/
def isAscii (a : CharClass) : Bool :=
  a.ranges.all fun (_, last) => last < 0x80

/-- Decimal digits of every script. -/
def digit : CharClass :=
  Category.decimalNumber

/-- The characters with the property White_Space. -/
def space : CharClass :=
  Binary.whiteSpace

/-- Letters, marks, decimal digits, connectors and joiners. -/
def word : CharClass :=
  CodePointSet.unionAll [Binary.alphabetic, Category.mark, Category.decimalNumber,
    Category.connectorPunctuation, Binary.joinControl]

/-- The ASCII decimal digits. -/
def asciiDigit : CharClass :=
  ofAscii [('0', '9')]

/-- Tab, line feed, vertical tab, form feed, carriage return and space. -/
def asciiSpace : CharClass :=
  ofAscii [('\t', '\r'), (' ', ' ')]

/-- The ASCII letters and digits and the underscore. -/
def asciiWord : CharClass :=
  ofAscii [('0', '9'), ('A', 'Z'), ('_', '_'), ('a', 'z')]

/-- The classes that `[:name:]` stands for. -/
def posix? (name : String) : Option CharClass :=
  match name with
  | "alnum" => some (ofAscii [('0', '9'), ('A', 'Z'), ('a', 'z')])
  | "alpha" => some (ofAscii [('A', 'Z'), ('a', 'z')])
  | "ascii" => some (ofAscii [('\x00', '\x7f')])
  | "blank" => some (ofAscii [('\t', '\t'), (' ', ' ')])
  | "cntrl" => some (ofAscii [('\x00', '\x1f'), ('\x7f', '\x7f')])
  | "digit" => some asciiDigit
  | "graph" => some (ofAscii [('!', '~')])
  | "lower" => some (ofAscii [('a', 'z')])
  | "print" => some (ofAscii [(' ', '~')])
  | "punct" => some (ofAscii [('!', '/'), (':', '@'), ('[', '\x60'), ('\x7b', '~')])
  | "space" => some asciiSpace
  | "upper" => some (ofAscii [('A', 'Z')])
  | "word" => some asciiWord
  | "xdigit" => some (ofAscii [('0', '9'), ('A', 'F'), ('a', 'f')])
  | _ => none

end CharClass

end HttpRouter
