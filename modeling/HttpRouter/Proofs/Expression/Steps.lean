import HttpRouter.Proofs.Expression.Takes
import Mathlib.Logic.Relation

namespace HttpRouter

variable {text : Array Char}

namespace Task

/-- What doing a task comes to between two places. -/
def Does (text : Array Char) : Task → Nat → List Span → Nat → List Span → Prop
  | take e _, i, s, j, s' => e.Takes text i s j s'
  | again greedy e _, i, s, j, s' => (Expr.repeat 0 none greedy e).Takes text i s j s'
  | close name start _, i, s, j, s' => j = i ∧ s' = ⟨name, start, i⟩ :: s

/-- What doing tasks one after the other comes to between two places. -/
def AllDo (text : Array Char) : List Task → Nat → List Span → Nat → List Span → Prop
  | [], i, s, j, s' => i = j ∧ s = s'
  | task :: tasks, i, s, j, s' => ∃ k r, task.Does text i s k r ∧ AllDo text tasks k r j s'

theorem allDo_close {name : String} {start address : Nat} {rest : List Task} {i j : Nat}
    {s s' : List Span} :
    AllDo text (close name start address :: rest) i s j s' ↔
      AllDo text rest i (⟨name, start, i⟩ :: s) j s' := by
  constructor
  · rintro ⟨k, r, ⟨rfl, rfl⟩, hrest⟩
    exact hrest
  · intro hrest
    exact ⟨i, _, ⟨rfl, rfl⟩, hrest⟩

@[simp]
theorem mem_prefer {greedy : Bool} {tasks more fewer : List Task} :
    tasks ∈ prefer greedy more fewer ↔ tasks = more ∨ tasks = fewer := by
  cases greedy <;> simp [prefer, or_comm]

/-- Each way to begin on a repetition leads to matches of the repetition. -/
theorem allDo_of_mem_rounds {least : Nat} {most : Option Nat} {greedy : Bool} {e : Expr}
    {address : Nat} {rest tasks : List Task} {i j : Nat} {s s' : List Span}
    (hmem : tasks ∈ rounds least most greedy e address rest) (hdo : AllDo text tasks i s j s') :
    AllDo text (take (.repeat least most greedy e) address :: rest) i s j s' := by
  have hstop {most : Option Nat} (hrest : AllDo text rest i s j s') :
      AllDo text (take (.repeat 0 most greedy e) address :: rest) i s j s' :=
    ⟨i, s, .stop i s, hrest⟩
  match least, most with
  | 0, some 0 =>
    obtain rfl := List.mem_singleton.1 hmem
    exact hstop hdo
  | _ + 1, some 0 => cases hmem
  | 0, some (most + 1) =>
    rcases mem_prefer.1 hmem with rfl | rfl
    · obtain ⟨k, r, hround, l, q, hmore, hrest⟩ := hdo
      exact ⟨l, q, .round (by simp) hround hmore, hrest⟩
    · exact hstop hdo
  | 0, none =>
    unfold rounds at hmem
    dsimp only at hmem
    split at hmem
    · rcases mem_prefer.1 hmem with rfl | rfl
      · obtain ⟨k, r, hround, l, q, hmore, hrest⟩ := hdo
        exact ⟨l, q, .round (by simp) hround hmore, hrest⟩
      · exact hstop hdo
    · rcases mem_prefer.1 hmem with rfl | rfl
      · obtain ⟨l, q, hplus, hrest⟩ := hdo
        cases hplus with
        | round hmost hround hmore => exact ⟨l, q, .round hmost hround hmore, hrest⟩
      · exact hstop hdo
  | 1, none | _ + 2, none | _ + 1, some (_ + 1) =>
    obtain rfl := List.mem_singleton.1 hmem
    obtain ⟨k, r, hround, l, q, hmore, hrest⟩ := hdo
    exact ⟨l, q, .round (by simp) hround hmore, hrest⟩

end Task

namespace Thread

open HttpRouter.Task

/-- What a thread comes to after a step is something it could come to before. -/
theorem allDo_of_mem_perform {t u : Thread} {task : Task} {rest : List Task} {j : Nat}
    {s : List Span} (hmem : u ∈ t.perform text task rest)
    (hdo : AllDo text u.tasks u.place u.spans j s) :
    AllDo text (task :: rest) t.place t.spans j s := by
  unfold perform at hmem
  split at hmem
  case h_1 =>
    obtain rfl := List.mem_singleton.1 hmem
    exact ⟨_, _, .empty _ _, hdo⟩
  case h_2 =>
    split at hmem
    · next hreads =>
      obtain rfl := List.mem_singleton.1 hmem
      exact ⟨_, _, .literal hreads, hdo⟩
    · cases hmem
  case h_3 =>
    split at hmem
    · next c hchar =>
      split at hmem
      · next hhas =>
        obtain rfl := List.mem_singleton.1 hmem
        exact ⟨_, _, .one hchar hhas, hdo⟩
      · cases hmem
    · cases hmem
  case h_4 =>
    split at hmem
    · next hholds =>
      obtain rfl := List.mem_singleton.1 hmem
      exact ⟨_, _, .look hholds, hdo⟩
    · cases hmem
  case h_5 =>
    obtain rfl := List.mem_singleton.1 hmem
    obtain ⟨k, r, hbody, hrest⟩ := hdo
    exact ⟨k, r, .unnamed hbody, hrest⟩
  case h_6 =>
    obtain rfl := List.mem_singleton.1 hmem
    obtain ⟨k, r, hbody, hrest⟩ := hdo
    exact ⟨k, _, .named hbody, allDo_close.1 hrest⟩
  case h_7 =>
    obtain rfl := List.mem_singleton.1 hmem
    obtain ⟨k, r, hfirst, l, q, hsecond, hrest⟩ := hdo
    exact ⟨l, q, .seq hfirst hsecond, hrest⟩
  case h_8 =>
    simp only [List.mem_cons, List.not_mem_nil, or_false] at hmem
    rcases hmem with rfl | rfl
    · obtain ⟨k, r, hleft, hrest⟩ := hdo
      exact ⟨k, r, .altLeft hleft, hrest⟩
    · obtain ⟨k, r, hright, hrest⟩ := hdo
      exact ⟨k, r, .altRight hright, hrest⟩
  case h_9 =>
    obtain ⟨tasks, htasks, rfl⟩ := List.mem_map.1 hmem
    exact allDo_of_mem_rounds htasks hdo
  case h_10 greedy body address =>
    obtain ⟨tasks, htasks, rfl⟩ := List.mem_map.1 hmem
    rcases mem_prefer.1 htasks with rfl | rfl
    · obtain ⟨k, r, hround, l, q, hmore, hrest⟩ := hdo
      exact ⟨l, q, .round (by simp) hround hmore, hrest⟩
    · exact ⟨_, _, .stop _ _, hdo⟩
  case h_11 =>
    obtain rfl := List.mem_singleton.1 hmem
    exact allDo_close.2 hdo

/-- A thread goes on as another one by doing its first task. -/
def Step (text : Array Char) (t u : Thread) : Prop :=
  ∃ task rest, t.tasks = task :: rest ∧ u ∈ t.perform text task rest

/-- A thread comes to another one by steps. -/
abbrev Leads (text : Array Char) : Thread → Thread → Prop :=
  Relation.ReflTransGen (Step text)

/-- A thread that has done all its tasks has done what they come to. -/
theorem Leads.allDo {t u : Thread} (hleads : Leads text t u) (hdone : u.tasks = []) :
    AllDo text t.tasks t.place t.spans u.place u.spans := by
  induction hleads using Relation.ReflTransGen.head_induction_on with
  | refl =>
    rw [hdone]
    exact ⟨rfl, rfl⟩
  | head hstep _ ih =>
    obtain ⟨task, rest, htasks, hmem⟩ := hstep
    rw [htasks]
    exact allDo_of_mem_perform hmem ih

theorem step_of_mem {i : Nat} {s : List Span} {task : Task} {rest : List Task} {u : Thread}
    (hmem : u ∈ Thread.perform text ⟨i, s, task :: rest⟩ task rest) :
    Step text ⟨i, s, task :: rest⟩ u :=
  ⟨task, rest, rfl, hmem⟩

/-- A way to begin on a repetition is a step. -/
theorem step_of_mem_rounds {least : Nat} {most : Option Nat} {greedy : Bool} {e : Expr}
    {address : Nat} {rest tasks : List Task} {i : Nat} {s : List Span}
    (hmem : tasks ∈ rounds least most greedy e address rest) :
    Step text ⟨i, s, take (.repeat least most greedy e) address :: rest⟩ ⟨i, s, tasks⟩ :=
  step_of_mem (List.mem_map.2 ⟨tasks, hmem, rfl⟩)

/-- Doing an expression, which may stand for further rounds after the first one of a repetition. -/
private def Runs (text : Array Char) (e : Expr) (i : Nat) (s : List Span) (j : Nat)
    (s' : List Span) : Prop :=
  (∀ address rest, Leads text ⟨i, s, take e address :: rest⟩ ⟨j, s', rest⟩) ∧
  ∀ greedy body, e = .repeat 0 none greedy body → ∀ address rest,
    Leads text ⟨i, s, again greedy body address :: rest⟩ ⟨j, s', rest⟩

private theorem runs_of_leads {e : Expr} {i j : Nat} {s s' : List Span}
    (hleads : ∀ address rest, Leads text ⟨i, s, take e address :: rest⟩ ⟨j, s', rest⟩)
    (hrepeat : ∀ greedy body, e ≠ .repeat 0 none greedy body) : Runs text e i s j s' :=
  ⟨hleads, fun greedy body heq => absurd heq (hrepeat greedy body)⟩

private theorem runs_stop {most : Option Nat} {greedy : Bool} {e : Expr} (i : Nat)
    (s : List Span) : Runs text (.repeat 0 most greedy e) i s i s := by
  refine ⟨fun address rest => .single (step_of_mem_rounds ?_), fun greedy body _ address rest =>
    .single (step_of_mem ?_)⟩
  · match most with
    | none => unfold rounds; dsimp only; split <;> simp
    | some 0 => simp [rounds]
    | some (most + 1) => simp [rounds]
  · simp [perform]

private theorem runs_round {least : Nat} {most : Option Nat} {greedy : Bool} {e : Expr}
    {i j k : Nat} {s s' s'' : List Span} (hmost : most ≠ some 0) (hround : Runs text e i s j s')
    (hrest : Runs text (.repeat (least - 1) (most.map (· - 1)) greedy e) j s' k s'') :
    Runs text (.repeat least most greedy e) i s k s'' := by
  obtain ⟨hround, -⟩ := hround
  obtain ⟨hmore, hagain⟩ := hrest
  refine ⟨fun address rest => ?_, fun greedy' body heq address rest => ?_⟩
  · match least, most with
    | 0, some 0 => exact absurd rfl hmost
    | least + 1, some 0 => exact absurd rfl hmost
    | 0, some (most + 1) =>
      refine .head (step_of_mem_rounds (mem_prefer.2 (.inl rfl))) ?_
      exact (hround _ _).trans (hmore _ rest)
    | 0, none =>
      cases htakes : e.takesSomething with
      | true =>
        refine .head (step_of_mem_rounds (by
          simp only [rounds, htakes, if_true]; exact mem_prefer.2 (.inl rfl))) ?_
        exact (hround _ _).trans (hmore _ rest)
      | false =>
        refine .head (step_of_mem_rounds (by
          simp only [rounds, htakes, Bool.false_eq_true, if_false]
          exact mem_prefer.2 (.inl rfl))) ?_
        refine .head (step_of_mem_rounds (List.mem_singleton.2 rfl)) ?_
        exact (hround _ _).trans (hagain _ _ rfl _ rest)
    | 1, none =>
      refine .head (step_of_mem_rounds (List.mem_singleton.2 rfl)) ?_
      exact (hround _ _).trans (hagain _ _ rfl _ rest)
    | least + 2, none =>
      refine .head (step_of_mem_rounds (List.mem_singleton.2 rfl)) ?_
      exact (hround _ _).trans (hmore _ rest)
    | least + 1, some (most + 1) =>
      refine .head (step_of_mem_rounds (List.mem_singleton.2 rfl)) ?_
      exact (hround _ _).trans (hmore _ rest)
  · cases heq
    refine .head (step_of_mem (List.mem_map.2 ⟨_, mem_prefer.2 (.inl rfl), rfl⟩)) ?_
    exact (hround _ _).trans (hagain _ _ rfl _ rest)

private theorem runs_of_takes {e : Expr} {i j : Nat} {s s' : List Span}
    (htakes : e.Takes text i s j s') : Runs text e i s j s' := by
  induction htakes with
  | empty i s =>
    exact runs_of_leads (fun _ _ => .single (step_of_mem (by simp [perform]))) (by simp)
  | literal hreads =>
    exact runs_of_leads (fun _ _ => .single (step_of_mem (by simp [perform, hreads]))) (by simp)
  | one hchar hmem =>
    refine runs_of_leads (fun _ _ => .single (step_of_mem ?_)) (by simp)
    have hhas : CharClass.has _ _ = true := hmem
    simp [perform, hchar, hhas]
  | look hholds =>
    exact runs_of_leads (fun _ _ => .single (step_of_mem (by simp [perform, hholds]))) (by simp)
  | unnamed _ ih =>
    refine runs_of_leads (fun address rest => ?_) (by simp)
    exact .head (step_of_mem (List.mem_singleton.2 rfl)) (ih.1 _ rest)
  | named _ ih =>
    refine runs_of_leads (fun address rest => ?_) (by simp)
    refine .head (step_of_mem (List.mem_singleton.2 rfl)) ((ih.1 _ _).tail ?_)
    exact step_of_mem (List.mem_singleton.2 rfl)
  | seq _ _ ihFirst ihSecond =>
    refine runs_of_leads (fun address rest => ?_) (by simp)
    exact .head (step_of_mem (List.mem_singleton.2 rfl)) ((ihFirst.1 _ _).trans (ihSecond.1 _ rest))
  | altLeft _ ih =>
    refine runs_of_leads (fun address rest => ?_) (by simp)
    exact .head (step_of_mem (.head _)) (ih.1 _ rest)
  | altRight _ ih =>
    refine runs_of_leads (fun address rest => ?_) (by simp)
    exact .head (step_of_mem (.tail _ (.head _))) (ih.1 _ rest)
  | stop i s => exact runs_stop i s
  | round hmost _ _ ihRound ihRest => exact runs_round hmost ihRound ihRest

/-- Every match is reached by steps. -/
theorem leads_of_takes {e : Expr} {i j : Nat} {s s' : List Span} (htakes : e.Takes text i s j s')
    (address : Nat) (rest : List Task) :
    Leads text ⟨i, s, take e address :: rest⟩ ⟨j, s', rest⟩ :=
  (runs_of_takes htakes).1 address rest

end Thread

end HttpRouter
