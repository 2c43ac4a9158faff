import HttpRouter.Expression.CharClass
import HttpRouter.Expression.Footprint.Basic
import HttpRouter.Text.Utf8Range
import Std.Data.HashMap

namespace HttpRouter

/-- Remembered states by the slot that their contents fall into. A slot holds the latest one, and
    states that are alike are shared as far as this memory tells. -/
abbrev StateMemory (κ : Type) := Std.HashMap Nat (κ × Nat)

namespace StateMemory

/-- The slot for contents that are given as numbers. -/
def slotOf (slots : Nat) (contents : List Nat) : Nat :=
  let mixed := contents.foldl (fun (mixed : UInt64) n => (mixed ^^^ n.toUInt64) * 1099511628211)
    14695981039346656037
  mixed.toNat % slots

/-- Finds the number of a state with the given contents, or counts a new one and remembers it. -/
def findOrAdd {κ : Type} [DecidableEq κ] (memory : StateMemory κ) (slot : Nat) (contents : κ)
    (further : Nat) : Meter (Nat × StateMemory κ) :=
  match (memory[slot]?.filter (·.1 = contents)).map (·.2) with
  | some number => return (number, memory)
  | none => do
    let number ← Meter.state further
    return (number, memory.insert slot (contents, number))

end StateMemory

/-- An entry of a table: a range of bytes and the number of the state it leads to. -/
structure TableEntry where
  range : Text.ByteRange
  next : Nat
  deriving Inhabited, DecidableEq, Repr

/-- A table under way: its finished entries and the range whose next state is not known yet. -/
structure OpenTable where
  finished : List TableEntry := []
  pending : Option Text.ByteRange := none
  deriving Inhabited, DecidableEq, Repr

/-- The entries of a table once the next state of the last one is known. -/
def OpenTable.close (table : OpenTable) (next : Nat) : List TableEntry :=
  table.finished ++ (table.pending.map fun range => ⟨range, next⟩).toList

/-- The tables of a class while its byte rows are taken in order: those under way, the table for the
    latest byte first, and the memory of the others. -/
structure ClassTables where
  under : List OpenTable := [{}]
  memory : StateMemory (List TableEntry) := {}

namespace ClassTables

/-- The number of slots for tables. -/
def slots : Nat := 10000

/-- Counts a table unless one like it is remembered. -/
def count (memory : StateMemory (List TableEntry)) (table : List TableEntry) :
    Meter (Nat × StateMemory (List TableEntry)) :=
  let contents := table.flatMap fun entry => [entry.range.1, entry.range.2, entry.next]
  memory.findOrAdd (StateMemory.slotOf slots contents) table (Meter.entries table.length)

/-- Closes a number of tables, and then the pending range of the table that is left on top. -/
def close : Nat → Nat → ClassTables → Meter ClassTables
  | 0, next, ⟨table :: below, memory⟩ => return ⟨{ finished := table.close next } :: below, memory⟩
  | n + 1, next, ⟨table :: below, memory⟩ => do
    let (number, memory) ← count memory (table.close next)
    close n number ⟨below, memory⟩
  | _, _, ⟨[], memory⟩ => return ⟨[], memory⟩

/-- Takes a row of byte ranges. It shares its beginning with the row before it. -/
def add (target : Nat) (tables : ClassTables) (row : List Text.ByteRange) : Meter ClassTables := do
  let shared := ((tables.under.reverse.zip row).takeWhile fun (table, range) =>
    table.pending == some range).length
  let ⟨under, memory⟩ ← close (tables.under.length - 1 - shared) target tables
  match under, row.drop shared with
  | table :: below, range :: rest =>
    let further := rest.map fun range => { pending := some range : OpenTable }
    return ⟨further.reverse ++ { table with pending := some range } :: below, memory⟩
  | under, _ => return ⟨under, memory⟩

end ClassTables

namespace CharClass

/-- The rows of byte ranges that encode the characters of the class. -/
def byteRows (cls : CharClass) : List (List Text.ByteRange) :=
  cls.ranges.flatMap fun (first, last) => Text.byteRows first last

/-- Counts the states that read a class beyond ASCII forward. -/
def countForward (cls : CharClass) : Meter Unit := do
  let target ← Meter.state 0
  let tables ← cls.byteRows.foldlM (ClassTables.add target) {}
  let ⟨under, memory⟩ ← tables.close (tables.under.length - 1) target
  let _ ← ClassTables.count memory (under.flatMap (·.finished))

/-- The number of slots for single ranges. -/
def rangeSlots : Nat := 1000

/-- Counts a state for a range of bytes that leads to another state, unless it is remembered. -/
def countRange (target : Nat) (memory : StateMemory (Nat × Text.ByteRange))
    (range : Text.ByteRange) : Meter (Nat × StateMemory (Nat × Text.ByteRange)) :=
  memory.findOrAdd (StateMemory.slotOf rangeSlots [target, range.1, range.2]) (target, range) 0

/-- Counts the states that read a class beyond ASCII backward: a fork with a way for each row. -/
def countBackward (cls : CharClass) : Meter Unit := do
  Meter.plain 0
  let target ← Meter.state 0
  let _ ← cls.byteRows.foldlM (fun memory row => do
    let (_, memory) ← row.foldlM (fun (target, memory) range => countRange target memory range)
      (target, memory)
    Meter.spend (Meter.ways 1)
    return memory) {}

/-- Counts the states that read one character of the class. -/
def count (direction : Direction) (cls : CharClass) : Meter Unit :=
  if cls.isAscii then do
    Meter.plain 0
    Meter.plain (Meter.entries cls.ranges.length)
  else
    match direction with
    | .forward => cls.countForward
    | .backward => cls.countBackward

end CharClass

end HttpRouter
