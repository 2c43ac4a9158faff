import HttpRouter.Proofs.Expression.Layout
import Mathlib.Data.Finset.Prod
import Mathlib.Data.Finset.Range

namespace HttpRouter

open HttpRouter.Task

variable {text : Array Char} {e : Expr}

namespace Thread

/-- The thread is at some point of running the expression, or at its end. -/
structure Along (text : Array Char) (e : Expr) (t : Thread) : Prop where
  place_le : t.place ≤ text.size
  within : t.tasks = [] ∨ Within [take e 0] (t.tasks.map bare)

theorem along_start {start : Nat} (hstart : start ≤ text.size) :
    Along text e ⟨start, [], [take e 0]⟩ :=
  ⟨hstart, .inr (.here _)⟩

@[simp]
theorem address_bare (task : Task) : task.bare.address = task.address := by
  cases task <;> rfl

/-- The outcomes of a step are those that the shape of the thread decides. -/
theorem Step.shape_mem {t u : Thread} (hstep : Step text t u) :
    ∃ task rest, t.tasks = task :: rest ∧
      u.shape ∈ outcomes text t.place task.bare (rest.map bare) := by
  obtain ⟨task, rest, htasks, hmem⟩ := hstep
  refine ⟨task, rest, htasks, ?_⟩
  rw [← map_shape_perform]
  exact List.mem_map_of_mem hmem

private theorem mem_outcomes {place : Nat} {task : Task} {rest : List Task}
    {outcome : Nat × List Task} (hmem : outcome ∈ outcomes text place task rest) :
    advance text task place = some outcome.1 ∧ outcome.2 ∈ onward task rest := by
  unfold outcomes at hmem
  split at hmem
  · next hadvance =>
    obtain ⟨tasks, htasks, rfl⟩ := List.mem_map.1 hmem
    exact ⟨hadvance, htasks⟩
  · cases hmem

/-- A step stays within the run of the expression. -/
theorem Along.step {t u : Thread} (halong : Along text e t) (hstep : Step text t u) :
    Along text e u := by
  obtain ⟨task, rest, htasks, hshape⟩ := hstep.shape_mem
  obtain ⟨hadvance, honward⟩ := mem_outcomes hshape
  refine ⟨advance_le_size halong.place_le hadvance, ?_⟩
  rcases halong.within with hdone | hwithin
  · simp [htasks] at hdone
  · rw [htasks] at hwithin
    rcases hwithin.onward rfl honward with hstay | hexit
    · exact .inr hstay
    · exact .inl (by simpa [shape] using hexit)

/-- Threads of one run that are at the same address and place have the same shape. -/
theorem Along.shape_eq {t u : Thread} (ht : Along text e t) (hu : Along text e u) {a b : Task}
    {as bs : List Task} (hta : t.tasks = a :: as) (hub : u.tasks = b :: bs)
    (haddress : a.address = b.address) (hplace : t.place = u.place) : t.shape = u.shape := by
  have hwithin : ∀ {v : Thread} {c : Task} {cs : List Task}, Along text e v → v.tasks = c :: cs →
      Within [take e 0] (c.bare :: cs.map bare) := by
    intro v c cs halong htasks
    simpa [htasks] using halong.within
  have htasks := (hwithin ht hta).unique (hwithin hu hub) rfl rfl (by simpa using haddress)
  simp [shape, hta, hub, hplace, htasks]

/-- The thread is at an address and a place where a thread has been before. -/
def Seen (visited : Visited) (t : Thread) : Prop :=
  ∃ task rest, t.tasks = task :: rest ∧ visited.contains (task.address, t.place) = true

theorem Seen.of_shape_eq {visited : Visited} {t u : Thread} (hseen : Seen visited t)
    (hshape : t.shape = u.shape) : Seen visited u := by
  obtain ⟨task, rest, htasks, hcontains⟩ := hseen
  obtain ⟨hplace, hbare⟩ := Prod.mk.inj hshape
  cases hu : u.tasks with
  | nil => simp [htasks, hu] at hbare
  | cons first others =>
    simp only [htasks, hu, List.map_cons, List.cons.injEq] at hbare
    have haddress := congrArg Task.address hbare.1
    simp only [address_bare] at haddress
    exact ⟨first, others, hu, by rw [← haddress, ← hplace]; exact hcontains⟩

theorem Seen.mono {visited visited' : Visited} {t : Thread} (hseen : Seen visited t)
    (hsub : ∀ key, visited.contains key = true → visited'.contains key = true) :
    Seen visited' t := by
  obtain ⟨task, rest, htasks, hcontains⟩ := hseen
  exact ⟨task, rest, htasks, hsub _ hcontains⟩

/-- Whatever a step leads to from where a thread has been, a thread has been there as well or waits
    to go there. -/
def Closed (text : Array Char) (e : Expr) (visited : Visited) (threads : List Thread) : Prop :=
  ∀ t u, Along text e t → Seen visited t → Step text t u →
    Seen visited u ∨ ∃ v ∈ threads, v.shape = u.shape

theorem closed_empty : Closed text e {} [] := by
  rintro t u - ⟨task, rest, -, hcontains⟩
  simp at hcontains

/-- A thread that has been seen need not wait any longer. -/
theorem Closed.drop {visited : Visited} {t : Thread} {threads : List Thread}
    (hclosed : Closed text e visited (t :: threads)) (hseen : Seen visited t) :
    Closed text e visited threads := by
  intro u v halong hu hstep
  rcases hclosed u v halong hu hstep with hv | ⟨w, hw, hshape⟩
  · exact .inl hv
  · rcases List.mem_cons.1 hw with rfl | hw
    · exact .inl (hseen.of_shape_eq hshape)
    · exact .inr ⟨w, hw, hshape⟩

/-- A thread that goes on is replaced by the threads that it goes on as. -/
theorem Closed.perform {visited : Visited} {t : Thread} {threads : List Thread}
    (hclosed : Closed text e visited (t :: threads)) (ht : Along text e t) {task : Task}
    {rest : List Task} (htasks : t.tasks = task :: rest) :
    Closed text e (visited.insert (task.address, t.place))
      (t.perform text task rest ++ threads) := by
  have hmono : ∀ key, visited.contains key = true →
      (visited.insert (task.address, t.place)).contains key = true := by
    intro key hkey
    simp [hkey]
  have hnow : Seen (visited.insert (task.address, t.place)) t := ⟨task, rest, htasks, by simp⟩
  rintro u v hu ⟨first, others, hfirst, hcontains⟩ hstep
  rw [Std.HashSet.contains_insert, Bool.or_eq_true, beq_iff_eq] at hcontains
  rcases hcontains with hkey | hbefore
  · -- The thread is where `t` is, so its steps are those that `t` takes now.
    obtain ⟨haddress, hplace⟩ := Prod.mk.inj hkey
    have hshape := ht.shape_eq hu htasks hfirst haddress hplace
    simp only [shape, htasks, hfirst, List.map_cons, Prod.mk.injEq, List.cons.injEq] at hshape
    obtain ⟨first', others', hfirst', hmem⟩ := hstep.shape_mem
    cases hfirst.symm.trans hfirst'
    rw [← hshape.1, ← hshape.2.1, ← hshape.2.2, ← map_shape_perform] at hmem
    obtain ⟨w, hw, hwv⟩ := List.mem_map.1 hmem
    exact .inr ⟨w, List.mem_append_left _ hw, hwv⟩
  · rcases hclosed u v hu ⟨first, others, hfirst, hbefore⟩ hstep with hv | ⟨w, hw, hshape⟩
    · exact .inl (hv.mono hmono)
    · rcases List.mem_cons.1 hw with rfl | hw
      · exact .inl (hnow.of_shape_eq hshape)
      · exact .inr ⟨w, List.mem_append_right _ hw, hshape⟩

/-- From where a thread has been no steps lead to the end, once no thread waits. -/
theorem Closed.tasks_ne_nil {visited : Visited} (hclosed : Closed text e visited [])
    {t u : Thread} (halong : Along text e t) (hseen : Seen visited t) (hleads : Leads text t u) :
    u.tasks ≠ [] := by
  induction hleads using Relation.ReflTransGen.head_induction_on with
  | refl =>
    obtain ⟨task, rest, htasks, -⟩ := hseen
    simp [htasks]
  | head hstep _ ih =>
    rcases hclosed _ _ halong hseen hstep with hnext | ⟨v, hv, -⟩
    · exact ih (halong.step hstep) hnext
    · cases hv

end Thread

namespace Expr

open HttpRouter.Thread

/-- The number of addresses and places where no thread has been. -/
def unseen (text : Array Char) (e : Expr) (visited : Visited) : Nat :=
  ((Finset.range e.width ×ˢ Finset.range (text.size + 1)).filter
    fun key => ¬visited.contains key = true).card

theorem unseen_le (text : Array Char) (e : Expr) (visited : Visited) :
    unseen text e visited ≤ e.width * (text.size + 1) := by
  have hcard := Finset.card_filter_le (Finset.range e.width ×ˢ Finset.range (text.size + 1))
    fun key => ¬visited.contains key = true
  simpa [unseen, Finset.card_product] using hcard

/-- Each thread that goes on does so at an address and a place that no thread has been at. -/
theorem unseen_insert_lt {visited : Visited} {t : Thread} (halong : Along text e t) {task : Task}
    {rest : List Task} (htasks : t.tasks = task :: rest)
    (hnew : ¬visited.contains (task.address, t.place) = true) :
    unseen text e (visited.insert (task.address, t.place)) < unseen text e visited := by
  have hwithin : Within [take e 0] (task.bare :: rest.map bare) := by
    simpa [htasks] using halong.within
  obtain ⟨_, _, hfound, -, haddress⟩ := hwithin.address_bounds rfl
  cases hfound
  have hextent := extent_take_le e 0
  have hplace := halong.place_le
  apply Finset.card_lt_card
  refine Finset.ssubset_iff_subset_ne.2 ⟨?_, ?_⟩
  · intro key hkey
    simp only [Finset.mem_filter, Std.HashSet.contains_insert, Bool.or_eq_true, not_or] at hkey ⊢
    exact ⟨hkey.1, hkey.2.2⟩
  · intro heq
    have hmem : (task.address, t.place) ∈ (Finset.range e.width ×ˢ
        Finset.range (text.size + 1)).filter fun key => ¬visited.contains key = true := by
      simp only [Finset.mem_filter, Finset.mem_product, Finset.mem_range]
      simp only [address_bare, address_take] at haddress
      exact ⟨⟨by omega, by omega⟩, hnew⟩
    rw [← heq] at hmem
    simp at hmem

private theorem length_onward_le (task : Task) (rest : List Task) :
    (onward task rest).length ≤ 2 := by
  have hprefer (greedy : Bool) (more fewer : List Task) :
      (prefer greedy more fewer).length = 2 := by cases greedy <;> rfl
  unfold onward
  split <;> try simp [hprefer]
  unfold rounds
  dsimp only
  split <;> try simp [hprefer]
  split <;> simp [hprefer]

/-- A thread goes on as two others at most. -/
theorem length_perform_le (text : Array Char) (t : Thread) (task : Task) (rest : List Task) :
    (t.perform text task rest).length ≤ 2 := by
  have hlength := congrArg List.length (@map_shape_perform text t task rest)
  rw [List.length_map] at hlength
  rw [hlength]
  unfold outcomes
  split
  · simpa using length_onward_le _ _
  · simp

/-- When no thread comes to its end, every thread that waited has been where it was, and so has
    everything that it leads to. -/
theorem follow_none {fuel : Nat} {threads : List Thread} {visited visited' : Visited}
    (hfollow : follow text fuel threads visited = (none, visited'))
    (hfuel : threads.length + 2 * unseen text e visited < fuel)
    (halong : ∀ t ∈ threads, Along text e t) (hclosed : Closed text e visited threads) :
    Closed text e visited' [] ∧
      (∀ key, visited.contains key = true → visited'.contains key = true) ∧
      ∀ t ∈ threads, Seen visited' t := by
  fun_induction follow text fuel threads visited with
  | case1 => omega
  | case2 =>
    cases hfollow
    exact ⟨hclosed, fun _ hkey => hkey, by simp⟩
  | case3 => cases hfollow
  | case4 fuel t threads visited task rest htasks hcontains ih =>
    have hseen : Seen visited t := ⟨task, rest, htasks, hcontains⟩
    rw [List.length_cons] at hfuel
    obtain ⟨hdone, hmono, hall⟩ := ih hfollow (by omega)
      (fun u hu => halong u (.tail _ hu)) (hclosed.drop hseen)
    exact ⟨hdone, hmono, List.forall_mem_cons.2 ⟨hseen.mono hmono, hall⟩⟩
  | case5 fuel t threads visited task rest htasks hnew ih =>
    have ht := halong t (.head _)
    have hless := unseen_insert_lt ht htasks hnew
    have hfew := length_perform_le text t task rest
    rw [List.length_cons] at hfuel
    obtain ⟨hdone, hmono, hall⟩ := ih hfollow
      (by rw [List.length_append]; omega)
      (fun u hu => (List.mem_append.1 hu).elim (fun hu => ht.step ⟨task, rest, htasks, hu⟩)
        fun hu => halong u (.tail _ hu))
      (hclosed.perform ht htasks)
    refine ⟨hdone, fun key hkey => hmono key (by simp [hkey]), List.forall_mem_cons.2 ⟨?_, ?_⟩⟩
    · exact ⟨task, rest, htasks, hmono _ (by simp)⟩
    · exact fun u hu => hall u (List.mem_append_right _ hu)

/-- A thread that is found has come to its end from one that waited. -/
theorem follow_some {fuel : Nat} {threads : List Thread} {visited visited' : Visited} {t : Thread}
    (hfollow : follow text fuel threads visited = (some t, visited')) :
    t.tasks = [] ∧ ∃ u ∈ threads, Leads text u t := by
  fun_induction follow text fuel threads visited with
  | case1 | case2 => cases hfollow
  | case3 fuel u threads visited htasks =>
    cases hfollow
    exact ⟨htasks, _, .head _, .refl⟩
  | case4 fuel u threads visited task rest _ _ ih =>
    obtain ⟨hdone, v, hv, hleads⟩ := ih hfollow
    exact ⟨hdone, v, .tail _ hv, hleads⟩
  | case5 fuel u threads visited task rest htasks _ ih =>
    obtain ⟨hdone, v, hv, hleads⟩ := ih hfollow
    refine ⟨hdone, ?_⟩
    rcases List.mem_append.1 hv with hv | hv
    · exact ⟨u, .head _, .head ⟨task, rest, htasks, hv⟩ hleads⟩
    · exact ⟨v, .tail _ hv, hleads⟩

private theorem searchFrom_none {starts : List Nat} {visited : Visited}
    (hsearch : searchFrom text e starts visited = none) (hstarts : ∀ i ∈ starts, i ≤ text.size)
    (hclosed : Closed text e visited []) : ∀ i ∈ starts, ∀ j, ¬Matches text e i j := by
  fun_induction searchFrom text e starts visited with
  | case1 => simp
  | case2 => cases hsearch
  | case3 start starts visited visited' hfollow ih =>
    obtain ⟨hstart, hlater⟩ := List.forall_mem_cons.1 hstarts
    have halong : ∀ t ∈ [(⟨start, [], [take e 0]⟩ : Thread)], Along text e t := by
      simpa using along_start hstart
    have hsmall := unseen_le text e visited
    obtain ⟨hdone, -, hall⟩ := follow_none hfollow (by rw [List.length_singleton]; omega) halong
      fun t u ht hseen hstep => (hclosed t u ht hseen hstep).imp_right (by simp)
    refine List.forall_mem_cons.2 ⟨fun j hmatches => ?_, ih hsearch hlater hdone⟩
    obtain ⟨s, htakes⟩ := hmatches.takes []
    exact hdone.tasks_ne_nil (halong _ (.head _)) (hall _ (.head _)) (leads_of_takes htakes 0 []) rfl

private theorem searchFrom_some {starts : List Nat} {visited : Visited} {start : Nat} {t : Thread}
    (hsearch : searchFrom text e starts visited = some (start, t)) :
    start ∈ starts ∧ e.Takes text start [] t.place t.spans := by
  fun_induction searchFrom text e starts visited with
  | case1 => cases hsearch
  | case2 first starts visited t' visited' hfollow =>
    cases hsearch
    obtain ⟨hdone, u, hu, hleads⟩ := follow_some hfollow
    obtain rfl := List.mem_singleton.1 hu
    obtain ⟨k, r, htakes, rfl, rfl⟩ := hleads.allDo hdone
    exact ⟨.head _, htakes⟩
  | case3 first starts visited visited' _ ih =>
    obtain ⟨hmem, htakes⟩ := ih hsearch
    exact ⟨.tail _ hmem, htakes⟩

/-- What a search finds is a match with the captures on its way. -/
theorem takes_of_search {start : Nat} {t : Thread} (hsearch : search text e = some (start, t)) :
    start ≤ text.size ∧ e.Takes text start [] t.place t.spans := by
  obtain ⟨hmem, htakes⟩ := searchFrom_some hsearch
  exact ⟨Nat.le_of_lt_succ (List.mem_range.1 hmem), htakes⟩

/-- A search finds something exactly when there is a match. -/
theorem search_isSome_iff :
    (search text e).isSome = true ↔ ∃ i j, i ≤ text.size ∧ Matches text e i j := by
  constructor
  · intro hsome
    obtain ⟨⟨start, t⟩, hsearch⟩ := Option.isSome_iff_exists.1 hsome
    obtain ⟨hstart, htakes⟩ := takes_of_search hsearch
    exact ⟨start, t.place, hstart, htakes.matches⟩
  · rintro ⟨i, j, hi, hmatches⟩
    by_contra hnone
    rw [Option.not_isSome_iff_eq_none] at hnone
    refine searchFrom_none hnone (fun k hk => ?_) closed_empty i (List.mem_range.2 (by omega)) j
      hmatches
    exact Nat.le_of_lt_succ (List.mem_range.1 hk)

end Expr

end HttpRouter
