import HttpRouter.Proofs.Expression.Steps

namespace HttpRouter.Task

/-- The task without the place where its capture begins. What is left to do does not depend on
    it. -/
def bare : Task → Task
  | take e address => take e address
  | again greedy body address => again greedy body address
  | close name _ address => close name 0 address

/-- The number of addresses that a repetition takes up. Its width rounds this up. -/
def roundExtent (least : Nat) (most : Option Nat) (e : Expr) : Nat :=
  match least, most with
  | _, some most => most * (e.width + 1) + 1
  | 0, none => e.width + 3
  | least + 1, none => (least + 1) * (e.width + 1) + 1

/-- The number of addresses that a task takes up. -/
def extent : Task → Nat
  | take (.repeat least most _ e) _ => roundExtent least most e
  | take e _ => e.width
  | again _ _ _ => 1
  | close _ _ _ => 1

/-- The parts of a repetition: its body, and what is laid out after the body. Each is given by the
    tasks that are left when it begins. -/
def roundParts (least : Nat) (most : Option Nat) (greedy : Bool) (e : Expr) (address : Nat)
    (rest : List Task) : List (List Task) :=
  let next := address + 1 + e.width
  match least, most with
  | _, some 0 => []
  | 0, some (most + 1) =>
    [take e (address + 1) :: take (.repeat 0 (some most) greedy e) next :: rest,
      take (.repeat 0 (some most) greedy e) next :: rest]
  | 0, none =>
    if e.takesSomething then
      [take e (address + 1) :: take (.repeat 0 none greedy e) address :: rest]
    else [take (.repeat 1 none greedy e) (address + 1) :: rest]
  | 1, none =>
    [take e (address + 1) :: again greedy e (address + 1) :: rest,
      again greedy e (address + 1) :: rest]
  | least + 1, most =>
    [take e (address + 1) :: take (.repeat least (most.map (· - 1)) greedy e) next :: rest,
      take (.repeat least (most.map (· - 1)) greedy e) next :: rest]

/-- The parts of a task in the order of their addresses, each given by the tasks that are left when
    it begins. -/
def parts : Task → List Task → List (List Task)
  | take (.capture _ none e) address, rest => [take e (address + 1) :: rest]
  | take (.capture _ (some name) e) address, rest =>
    let last := close name 0 (address + 1 + e.width)
    [take e (address + 1) :: last :: rest, last :: rest]
  | take (.seq a b) address, rest =>
    let second := take b (address + 1 + a.width)
    [take a (address + 1) :: second :: rest, second :: rest]
  | take (.alt a b) address, rest =>
    [take a (address + 1) :: rest, take b (address + 1 + a.width) :: rest]
  | take (.repeat least most greedy e) address, rest => roundParts least most greedy e address rest
  | _, _ => []

/-- The tasks that are left at some point within the first of the given tasks, itself included. -/
inductive Within : List Task → List Task → Prop where
  | here (tasks : List Task) : Within tasks tasks
  | part {task : Task} {rest inner tasks : List Task} (hpart : inner ∈ parts task rest)
      (hwithin : Within inner tasks) : Within (task :: rest) tasks

/-- The part lies at addresses of the task after the first one. -/
def FitsIn (task : Task) (part : List Task) : Prop :=
  ∃ first rest, part = first :: rest ∧ task.address < first.address ∧
    first.address + first.extent ≤ task.address + task.extent

/-- The first part lies before the second one. -/
def Before (part other : List Task) : Prop :=
  ∃ a as b bs, part = a :: as ∧ other = b :: bs ∧ a.address + a.extent ≤ b.address

@[simp] theorem address_take (e : Expr) (n : Nat) : (take e n).address = n := rfl

@[simp] theorem address_again (greedy : Bool) (e : Expr) (n : Nat) :
    (again greedy e n).address = n + e.width := rfl

@[simp] theorem address_close (name : String) (start n : Nat) : (close name start n).address = n :=
  rfl

@[simp] theorem extent_again (greedy : Bool) (e : Expr) (n : Nat) :
    (again greedy e n).extent = 1 := rfl

@[simp] theorem extent_close (name : String) (start n : Nat) : (close name start n).extent = 1 :=
  rfl

@[simp] theorem extent_repeat (least : Nat) (most : Option Nat) (greedy : Bool) (e : Expr)
    (n : Nat) : (take (.repeat least most greedy e) n).extent = roundExtent least most e := rfl

/-- An expression takes up no more addresses than its width. -/
theorem extent_take_le (e : Expr) (n : Nat) : (take e n).extent ≤ e.width := by
  match e with
  | .repeat least (some most) _ e => simp [roundExtent, Expr.width]
  | .repeat 0 none _ e => simp [roundExtent, Expr.width]
  | .repeat (least + 1) none _ e => simp [roundExtent, Expr.width]
  | .empty | .literal _ | .one _ | .look _ | .capture _ _ _ | .seq _ _ | .alt _ _ =>
    exact Nat.le_refl _

theorem extent_pos (task : Task) : 0 < task.extent := by
  match task with
  | take (.repeat _ (some _) _ _) _ => simp [roundExtent]
  | take (.repeat 0 none _ _) _ => simp [roundExtent]
  | take (.repeat (_ + 1) none _ _) _ => simp [roundExtent]
  | take .empty _ | take (.literal _) _ | take (.one _) _ | take (.look _) _ => exact Nat.one_pos
  | take (.capture _ _ _) _ | take (.seq _ _) _ | take (.alt _ _) _ => exact Nat.succ_pos _
  | again _ _ _ | close _ _ _ => exact Nat.one_pos

@[simp]
theorem fitsIn_cons {task first : Task} {rest : List Task} :
    FitsIn task (first :: rest) ↔
      task.address < first.address ∧ first.address + first.extent ≤ task.address + task.extent := by
  simp [FitsIn]

@[simp]
theorem before_cons {a b : Task} {as bs : List Task} :
    Before (a :: as) (b :: bs) ↔ a.address + a.extent ≤ b.address := by
  simp [Before]

private theorem roundParts_fit (least : Nat) (most : Option Nat) (greedy : Bool) (e : Expr)
    (n : Nat) (rest : List Task) :
    (∀ part ∈ roundParts least most greedy e n rest,
      FitsIn (take (.repeat least most greedy e) n) part) ∧
    (roundParts least most greedy e n rest).Pairwise Before := by
  have hbody := extent_take_le e (n + 1)
  match least, most with
  | _, some 0 => simp [roundParts]
  | 0, some (most + 1) =>
    simp [roundParts, roundExtent, Nat.succ_mul]
    omega
  | 0, none =>
    cases htakes : e.takesSomething with
    | true =>
      simp [roundParts, htakes, roundExtent]
      omega
    | false =>
      simp [roundParts, htakes, roundExtent]
      omega
  | 1, none =>
    simp [roundParts, roundExtent]
    omega
  | least + 2, none =>
    simp [roundParts, roundExtent, Nat.succ_mul]
    omega
  | least + 1, some (most + 1) =>
    simp [roundParts, roundExtent, Nat.succ_mul]
    omega

/-- The parts of a task lie one after the other at addresses of the task. -/
theorem parts_fit (task : Task) (rest : List Task) :
    (∀ part ∈ parts task rest, FitsIn task part) ∧ (parts task rest).Pairwise Before := by
  match task with
  | take (.repeat least most greedy e) n => exact roundParts_fit least most greedy e n rest
  | take (.capture index none e) n =>
    have hbody := extent_take_le e (n + 1)
    have hwhole : (take (.capture index none e) n).extent = e.width + 2 := rfl
    simp [parts, hwhole]
    omega
  | take (.capture index (some name) e) n =>
    have hbody := extent_take_le e (n + 1)
    have hwhole : (take (.capture index (some name) e) n).extent = e.width + 2 := rfl
    simp [parts, hwhole]
    omega
  | take (.seq a b) n =>
    have hfirst := extent_take_le a (n + 1)
    have hsecond := extent_take_le b (n + 1 + a.width)
    have hwhole : (take (.seq a b) n).extent = a.width + b.width + 1 := rfl
    simp [parts, hwhole]
    omega
  | take (.alt a b) n =>
    have hfirst := extent_take_le a (n + 1)
    have hsecond := extent_take_le b (n + 1 + a.width)
    have hwhole : (take (.alt a b) n).extent = a.width + b.width + 1 := rfl
    simp [parts, hwhole]
    omega
  | take .empty _ | take (.literal _) _ | take (.one _) _ | take (.look _) _ => simp [parts]
  | again _ _ _ | close _ _ _ => simp [parts]

/-- What is left at some point within a task begins at one of its addresses. -/
theorem Within.address_bounds {block tasks : List Task} (hwithin : Within block tasks) {task : Task}
    {rest : List Task} (hblock : block = task :: rest) :
    ∃ first others, tasks = first :: others ∧ task.address ≤ first.address ∧
      first.address < task.address + task.extent := by
  induction hwithin generalizing task rest with
  | here tasks =>
    exact ⟨task, rest, hblock, Nat.le_refl _, Nat.lt_add_of_pos_right task.extent_pos⟩
  | part hpart _ ih =>
    cases hblock
    obtain ⟨first, others, rfl, hlt, hle⟩ := (parts_fit _ _).1 _ hpart
    obtain ⟨found, left, rfl, hfrom, hto⟩ := ih rfl
    exact ⟨found, left, rfl, by omega, by omega⟩

/-- Two parts of a task that share an address are the same part. -/
private theorem part_unique {task : Task} {rest inner inner' : List Task} {first first' : Task}
    {others others' : List Task} (hpart : inner ∈ parts task rest)
    (hpart' : inner' ∈ parts task rest) (hwithin : Within inner (first :: others))
    (hwithin' : Within inner' (first' :: others')) (haddress : first.address = first'.address) :
    inner = inner' := by
  obtain ⟨hfit, happart⟩ := parts_fit task rest
  have htotal := List.Pairwise.forall_of_forall_of_flip
    (R := fun part other => part = other ∨ Before part other ∨ Before other part)
    (fun _ _ => .inl rfl) (happart.imp fun hbefore => .inr (.inl hbefore))
    (happart.imp fun hbefore => .inr (.inr hbefore)) hpart hpart'
  obtain ⟨a, as, rfl, -, -⟩ := hfit _ hpart
  obtain ⟨b, bs, rfl, -, -⟩ := hfit _ hpart'
  obtain ⟨_, _, hfirst, hlow, hhigh⟩ := hwithin.address_bounds rfl
  obtain ⟨_, _, hfirst', hlow', hhigh'⟩ := hwithin'.address_bounds rfl
  cases hfirst
  cases hfirst'
  rcases htotal with hsame | hbefore | hafter
  · exact hsame
  · have hapart := before_cons.1 hbefore
    omega
  · have hapart := before_cons.1 hafter
    omega

/-- The address of what is left at some point within a task tells all of it. -/
theorem Within.unique {block tasks tasks' : List Task} (hwithin : Within block tasks)
    (hwithin' : Within block tasks') {first first' : Task} {others others' : List Task}
    (htasks : tasks = first :: others) (htasks' : tasks' = first' :: others')
    (haddress : first.address = first'.address) : tasks = tasks' := by
  induction hwithin with
  | here tasks =>
    cases hwithin' with
    | here => rfl
    | part hpart hinner =>
      obtain ⟨a, as, rfl, hlt, -⟩ := (parts_fit _ _).1 _ hpart
      obtain ⟨_, _, hfound, hfrom, -⟩ := hinner.address_bounds rfl
      cases htasks
      cases htasks'
      cases hfound
      omega
  | part hpart hinner ih =>
    cases hwithin' with
    | here =>
      obtain ⟨a, as, rfl, hlt, -⟩ := (parts_fit _ _).1 _ hpart
      obtain ⟨_, _, hfound, hfrom, -⟩ := hinner.address_bounds rfl
      cases htasks
      cases htasks'
      cases hfound
      omega
    | part hpart' hinner' =>
      subst htasks htasks'
      obtain rfl := part_unique hpart hpart' hinner hinner' haddress
      exact ih hinner' rfl

/-- The tasks that may be left right after a task is done. The decision about another round may also
    go back to the body. -/
def exits : Task → List Task → List (List Task)
  | again greedy body n, rest => [take body n :: again greedy body n :: rest, rest]
  | _, rest => [rest]

@[simp] theorem exits_take (e : Expr) (n : Nat) (rest : List Task) :
    exits (take e n) rest = [rest] := rfl

@[simp] theorem exits_again (greedy : Bool) (body : Expr) (n : Nat) (rest : List Task) :
    exits (again greedy body n) rest = [take body n :: again greedy body n :: rest, rest] := rfl

/-- What may be left after a part of a repetition is within it or comes after it. -/
private theorem exits_of_roundPart {least : Nat} {most : Option Nat} {greedy : Bool} {e : Expr}
    {n : Nat} {first : Task} {rest others after : List Task}
    (hpart : first :: others ∈ roundParts least most greedy e n rest)
    (hexit : after ∈ exits first others) :
    Within (take (.repeat least most greedy e) n :: rest) after ∨ after = rest := by
  have hwithin : ∀ part ∈ roundParts least most greedy e n rest,
      Within (take (.repeat least most greedy e) n :: rest) part :=
    fun part hmem => .part hmem (.here part)
  match least, most with
  | _, some 0 => simp [roundParts] at hpart
  | 0, some (most + 1) | least + 2, none | least + 1, some (most + 1) =>
    simp only [roundParts, List.mem_cons, List.cons.injEq, List.not_mem_nil, or_false] at hpart
    rcases hpart with ⟨rfl, rfl⟩ | ⟨rfl, rfl⟩
    · obtain rfl := List.mem_singleton.1 hexit
      exact .inl (hwithin _ (.tail _ (.head _)))
    · exact .inr (List.mem_singleton.1 hexit)
  | 1, none =>
    simp only [roundParts, List.mem_cons, List.cons.injEq, List.not_mem_nil, or_false] at hpart
    rcases hpart with ⟨rfl, rfl⟩ | ⟨rfl, rfl⟩
    · obtain rfl := List.mem_singleton.1 hexit
      exact .inl (hwithin _ (.tail _ (.head _)))
    · simp only [exits_again, List.mem_cons, List.not_mem_nil, or_false] at hexit
      rcases hexit with rfl | rfl
      · exact .inl (hwithin _ (.head _))
      · exact .inr rfl
  | 0, none =>
    cases htakes : e.takesSomething with
    | true =>
      simp only [roundParts, htakes, if_true, List.mem_singleton, List.cons.injEq] at hpart
      obtain ⟨rfl, rfl⟩ := hpart
      obtain rfl := List.mem_singleton.1 hexit
      exact .inl (.here _)
    | false =>
      simp only [roundParts, htakes, Bool.false_eq_true, if_false, List.mem_singleton,
        List.cons.injEq] at hpart
      obtain ⟨rfl, rfl⟩ := hpart
      exact .inr (List.mem_singleton.1 hexit)

/-- What may be left after a part is within the task or comes after it. -/
private theorem exits_of_part {task first : Task} {rest others after : List Task}
    (hpart : first :: others ∈ parts task rest) (hexit : after ∈ exits first others) :
    Within (task :: rest) after ∨ after ∈ exits task rest := by
  have hwithin : ∀ part ∈ parts task rest, Within (task :: rest) part :=
    fun part hmem => .part hmem (.here part)
  match task with
  | take (.repeat least most greedy e) n =>
    exact (exits_of_roundPart hpart hexit).imp_right List.mem_singleton.2
  | take (.capture _ none e) n =>
    simp only [parts, List.mem_singleton, List.cons.injEq] at hpart
    obtain ⟨rfl, rfl⟩ := hpart
    exact .inr hexit
  | take (.capture _ (some name) e) n | take (.seq a b) n =>
    simp only [parts, List.mem_cons, List.cons.injEq, List.not_mem_nil, or_false] at hpart
    rcases hpart with ⟨rfl, rfl⟩ | ⟨rfl, rfl⟩
    · obtain rfl := List.mem_singleton.1 hexit
      exact .inl (hwithin _ (.tail _ (.head _)))
    · exact .inr hexit
  | take (.alt a b) n =>
    simp only [parts, List.mem_cons, List.cons.injEq, List.not_mem_nil, or_false] at hpart
    rcases hpart with ⟨rfl, rfl⟩ | ⟨rfl, rfl⟩
    · exact .inr hexit
    · exact .inr hexit
  | take .empty _ | take (.literal _) _ | take (.one _) _ | take (.look _) _ =>
    simp [parts] at hpart
  | again _ _ _ | close _ _ _ => simp [parts] at hpart

/-- What is left after one step with a task, where nothing in the text stands in the way. -/
def onward : Task → List Task → List (List Task)
  | take (.capture _ none e) n, rest => [take e (n + 1) :: rest]
  | take (.capture _ (some name) e) n, rest =>
    [take e (n + 1) :: close name 0 (n + 1 + e.width) :: rest]
  | take (.seq a b) n, rest => [take a (n + 1) :: take b (n + 1 + a.width) :: rest]
  | take (.alt a b) n, rest => [take a (n + 1) :: rest, take b (n + 1 + a.width) :: rest]
  | take (.repeat least most greedy e) n, rest => rounds least most greedy e n rest
  | again greedy body n, rest =>
    prefer greedy (take body n :: again greedy body n :: rest) rest
  | take .empty _, rest => [rest]
  | take (.literal _) _, rest => [rest]
  | take (.one _) _, rest => [rest]
  | take (.look _) _, rest => [rest]
  | close _ _ _, rest => [rest]

/-- A step of a repetition leads to one of its parts or to what comes after it. -/
private theorem within_of_mem_rounds {least : Nat} {most : Option Nat} {greedy : Bool} {e : Expr}
    {n : Nat} {rest after : List Task} (hmem : after ∈ rounds least most greedy e n rest) :
    Within (take (.repeat least most greedy e) n :: rest) after ∨ after = rest := by
  have hwithin : ∀ part ∈ roundParts least most greedy e n rest,
      Within (take (.repeat least most greedy e) n :: rest) part :=
    fun part hmem => .part hmem (.here part)
  match least, most with
  | 0, some 0 => exact .inr (List.mem_singleton.1 hmem)
  | _ + 1, some 0 => cases hmem
  | 0, some (most + 1) =>
    rcases mem_prefer.1 hmem with rfl | rfl
    · exact .inl (hwithin _ (.head _))
    · exact .inr rfl
  | 0, none =>
    cases htakes : e.takesSomething with
    | true =>
      simp only [rounds, roundParts, htakes, if_true, mem_prefer] at hmem hwithin
      rcases hmem with rfl | rfl
      · exact .inl (hwithin _ (.head _))
      · exact .inr rfl
    | false =>
      simp only [rounds, roundParts, htakes, Bool.false_eq_true, if_false, mem_prefer] at hmem hwithin
      rcases hmem with rfl | rfl
      · exact .inl (hwithin _ (.head _))
      · exact .inr rfl
  | 1, none | _ + 2, none | _ + 1, some (_ + 1) =>
    obtain rfl := List.mem_singleton.1 hmem
    exact .inl (hwithin _ (.head _))

/-- A step stays within the task or leads to one of its exits. -/
private theorem within_of_mem_onward {task : Task} {rest after : List Task}
    (hmem : after ∈ onward task rest) : Within (task :: rest) after ∨ after ∈ exits task rest := by
  have hwithin : ∀ part ∈ parts task rest, Within (task :: rest) part :=
    fun part hmem => .part hmem (.here part)
  match task with
  | take (.repeat least most greedy e) n =>
    exact (within_of_mem_rounds hmem).imp_right List.mem_singleton.2
  | take (.capture _ none _) _ | take (.capture _ (some _) _) _ | take (.seq _ _) _ =>
    obtain rfl := List.mem_singleton.1 hmem
    exact .inl (hwithin _ (.head _))
  | take (.alt _ _) _ => exact .inl (hwithin _ hmem)
  | take .empty _ | take (.literal _) _ | take (.one _) _ | take (.look _) _ | close _ _ _ =>
    exact .inr hmem
  | again greedy body n =>
    rcases mem_prefer.1 hmem with rfl | rfl
    · exact .inr (.head _)
    · exact .inr (.tail _ (.head _))

/-- A step from within a task stays within it or leads to one of its exits. -/
theorem Within.onward {block : Task} {others tasks after : List Task}
    (hwithin : Within (block :: others) tasks) {task : Task} {rest : List Task}
    (htasks : tasks = task :: rest) (hmem : after ∈ onward task rest) :
    Within (block :: others) after ∨ after ∈ exits block others := by
  generalize hwhole : block :: others = whole at hwithin
  induction hwithin generalizing block others with
  | here tasks =>
    cases hwhole
    cases htasks
    exact within_of_mem_onward hmem
  | part hpart hinner ih =>
    cases hwhole
    obtain ⟨first, left, rfl, -, -⟩ := (parts_fit _ _).1 _ hpart
    rcases ih htasks rfl with hin | hexit
    · exact .inl (.part hpart hin)
    · exact exits_of_part hpart hexit

theorem map_bare_rounds (least : Nat) (most : Option Nat) (greedy : Bool) (e : Expr) (n : Nat)
    (rest : List Task) :
    (rounds least most greedy e n rest).map (List.map bare) =
      rounds least most greedy e n (rest.map bare) := by
  have hprefer (more fewer : List Task) : (prefer greedy more fewer).map (List.map bare) =
      prefer greedy (more.map bare) (fewer.map bare) := by cases greedy <;> rfl
  match least, most with
  | 0, some 0 | _ + 1, some 0 | 1, none | _ + 2, none | _ + 1, some (_ + 1) => rfl
  | 0, some (most + 1) => exact hprefer _ _
  | 0, none =>
    unfold rounds
    dsimp only
    split
    · exact hprefer _ _
    · exact hprefer _ _

/-- The place that a thread has reached once it has done a task. There is none when the text stands
    in the way. -/
def advance (text : Array Char) : Task → Nat → Option Nat
  | take (.literal s) _, place => if Expr.readsAt text s place then some (place + s.length) else none
  | take (.one cls) _, place =>
    match text[place]? with
    | some c => if cls.has c then some (place + 1) else none
    | none => none
  | take (.look a) _, place => if a.holds text place then some place else none
  | _, place => some place

/-- No task leads out of the text. -/
theorem advance_le_size {text : Array Char} {task : Task} {place place' : Nat}
    (hplace : place ≤ text.size) (hadvance : advance text task place = some place') :
    place' ≤ text.size := by
  unfold advance at hadvance
  split at hadvance
  · split at hadvance
    · next hreads =>
      cases hadvance
      exact Expr.le_size_of_readsAt hplace hreads
    · cases hadvance
  · split at hadvance
    · next c hchar =>
      split at hadvance
      · cases hadvance
        exact (Array.getElem?_eq_some_iff.1 hchar).1
      · cases hadvance
    · cases hadvance
  · split at hadvance
    · cases hadvance
      exact hplace
    · cases hadvance
  · cases hadvance
    exact hplace

/-- The places and tasks that a task leads to, by the place and the tasks before it. -/
def outcomes (text : Array Char) (place : Nat) (task : Task) (rest : List Task) :
    List (Nat × List Task) :=
  match advance text task place with
  | some place => (onward task rest).map (place, ·)
  | none => []

end HttpRouter.Task

namespace HttpRouter.Thread

open HttpRouter.Task

variable {text : Array Char}

/-- What decides how a thread may go on: its place and the tasks that are left. -/
def shape (t : Thread) : Nat × List Task :=
  (t.place, t.tasks.map bare)

/-- The shape of a thread decides the shapes of the threads that it goes on as. -/
theorem map_shape_perform (t : Thread) (task : Task) (rest : List Task) :
    (t.perform text task rest).map shape = outcomes text t.place task.bare (rest.map bare) := by
  match task with
  | take (.repeat least most greedy e) n =>
    simp only [perform, outcomes, bare, advance, onward, ← map_bare_rounds, List.map_map]
    rfl
  | take .empty _ | take (.capture _ none _) _ | take (.capture _ (some _) _) _ | take (.seq _ _) _
  | take (.alt _ _) _ | close _ _ _ => rfl
  | again greedy body n => cases greedy <;> rfl
  | take (.literal s) _ =>
    simp only [perform, outcomes, bare, advance]
    split <;> rfl
  | take (.look a) _ =>
    simp only [perform, outcomes, bare, advance]
    split <;> rfl
  | take (.one cls) _ =>
    simp only [perform, outcomes, bare, advance]
    cases text[t.place]? with
    | none => rfl
    | some c =>
      dsimp only
      split <;> rfl

end HttpRouter.Thread
