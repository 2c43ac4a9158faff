import HttpRouter.Expression.Basic
import Std.Data.HashSet

namespace HttpRouter

/-- A captured stretch: the name of the capture and the places where the stretch begins and
    ends. -/
structure Span where
  name : String
  start : Nat
  stop : Nat
  deriving Inhabited, DecidableEq, Repr

/-- A task: to match an expression, to decide after a round of a repetition whether to begin another
    one, or to close a capture. The address of a body is kept with the decision about it. -/
inductive Task where
  | take (e : Expr) (address : Nat)
  | again (greedy : Bool) (body : Expr) (address : Nat)
  | close (name : String) (start : Nat) (address : Nat)
  deriving Inhabited, DecidableEq, Repr

/-- A way to run an expression: the place it has reached, the captures it has taken, the latest
    first, and the tasks that are left. -/
structure Thread where
  place : Nat
  spans : List Span
  tasks : List Task
  deriving Inhabited, DecidableEq, Repr

/-- The number of addresses that an expression takes up. Each round of a repetition has addresses of
    its own as far as the rounds are counted. -/
def Expr.width : Expr → Nat
  | empty => 1
  | literal _ => 1
  | one _ => 1
  | look _ => 1
  | capture _ _ e => e.width + 2
  | seq a b => a.width + b.width + 1
  | alt a b => a.width + b.width + 1
  | .repeat least most _ e => most.getD (max least 1) * (e.width + 1) + 3

namespace Task

/-- The address of a task. The decision about another round comes right after the body. -/
def address : Task → Nat
  | take _ address => address
  | again _ body address => address + body.width
  | close _ _ address => address

/-- Two lists of tasks in the order of preference. -/
def prefer (greedy : Bool) (more fewer : List Task) : List (List Task) :=
  if greedy then [more, fewer] else [fewer, more]

/-- The ways to begin on a repetition, each with the tasks that it leaves. There is none where more
    rounds are asked for than allowed. -/
def rounds (least : Nat) (most : Option Nat) (greedy : Bool) (e : Expr) (address : Nat)
    (rest : List Task) : List (List Task) :=
  let next := address + 1 + e.width
  match least, most with
  | 0, some 0 => [rest]
  | _ + 1, some 0 => []
  | 0, some (most + 1) =>
    prefer greedy (take e (address + 1) :: take (.repeat 0 (some most) greedy e) next :: rest) rest
  | 0, none =>
    if e.takesSomething then
      prefer greedy (take e (address + 1) :: take (.repeat 0 none greedy e) address :: rest) rest
    else prefer greedy (take (.repeat 1 none greedy e) (address + 1) :: rest) rest
  | 1, none => [take e (address + 1) :: again greedy e (address + 1) :: rest]
  | least + 1, most =>
    [take e (address + 1) :: take (.repeat least (most.map (· - 1)) greedy e) next :: rest]

end Task

namespace Thread

/-- The threads that a thread goes on as when it does a task, before the rest of its tasks. The
    preferred one is first. -/
def perform (text : Array Char) (t : Thread) (task : Task) (rest : List Task) : List Thread :=
  let leave := fun (tasks : List Task) => { t with tasks := tasks }
  match task with
  | .take .empty _ => [leave rest]
  | .take (.literal s) _ =>
    if Expr.readsAt text s t.place then [{ leave rest with place := t.place + s.length }] else []
  | .take (.one cls) _ =>
    match text[t.place]? with
    | some c => if cls.has c then [{ leave rest with place := t.place + 1 }] else []
    | none => []
  | .take (.look a) _ => if a.holds text t.place then [leave rest] else []
  | .take (.capture _ none e) address => [leave (.take e (address + 1) :: rest)]
  | .take (.capture _ (some name) e) address =>
    [leave (.take e (address + 1) :: .close name t.place (address + 1 + e.width) :: rest)]
  | .take (.seq a b) address =>
    [leave (.take a (address + 1) :: .take b (address + 1 + a.width) :: rest)]
  | .take (.alt a b) address =>
    [leave (.take a (address + 1) :: rest), leave (.take b (address + 1 + a.width) :: rest)]
  | .take (.repeat least most greedy e) address =>
    (Task.rounds least most greedy e address rest).map leave
  | .again greedy body address =>
    (Task.prefer greedy (.take body address :: task :: rest) rest).map leave
  | .close name start _ => [{ leave rest with spans := ⟨name, start, t.place⟩ :: t.spans }]

/-- The stretch of the text that the named capture took last. -/
def captured? (text : Array Char) (t : Thread) (name : String) : Option String :=
  (t.spans.find? (·.name == name)).map fun span =>
    .ofList (text.extract span.start span.stop).toList

end Thread

/-- The addresses and places where threads have been. What is left to do after a task depends on the
    address of the task alone, so a thread that comes to a task where another one has been before
    cannot fare better than that one, and is dropped. -/
abbrev Visited := Std.HashSet (Nat × Nat)

namespace Expr

/-- Follows threads in order up to the first that has done all its tasks. The fuel bounds the
    threads that are looked at. At every address and place one thread at most goes on, as two at
    most, so that twice their number and one more are enough. -/
def follow (text : Array Char) : Nat → List Thread → Visited → Option Thread × Visited
  | 0, _, visited => (none, visited)
  | _ + 1, [], visited => (none, visited)
  | fuel + 1, t :: threads, visited =>
    match t.tasks with
    | [] => (some t, visited)
    | task :: rest =>
      if visited.contains (task.address, t.place) then follow text fuel threads visited
      else
        follow text fuel (t.perform text task rest ++ threads)
          (visited.insert (task.address, t.place))

/-- Follows the expression from each of the places in turn. What failed for one place is not tried
    again for another. -/
def searchFrom (text : Array Char) (e : Expr) :
    List Nat → Visited → Option (Nat × Thread)
  | [], _ => none
  | start :: starts, visited =>
    match follow text (2 * (e.width * (text.size + 1)) + 2) [⟨start, [], [.take e 0]⟩] visited with
    | (some t, _) => some (start, t)
    | (none, visited) => searchFrom text e starts visited

/-- The most preferred match from the first place that has one: where it begins and the thread that
    found it. -/
def search (text : Array Char) (e : Expr) : Option (Nat × Thread) :=
  searchFrom text e (List.range (text.size + 1)) {}

end Expr

end HttpRouter
