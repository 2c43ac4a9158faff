import HttpRouter.Expression.Compile
import HttpRouter.Proofs.Expression.Reading
import HttpRouter.Proofs.Expression.Takes
import Mathlib.Algebra.GroupWithZero.Nat
import Mathlib.Algebra.Order.BigOperators.Group.List
import Mathlib.Algebra.Order.Group.Nat

namespace HttpRouter

namespace Meter

variable {α β σ : Type}

/-- With so many bytes left the computation goes through, and leaves those that its answer says.
    What was left beyond that is not touched. -/
def Affords (m : Meter α) (credit : Nat) (remains : α → Nat) : Prop :=
  ∀ (footprint : Footprint) (spare : Nat), footprint.left = credit + spare →
    ∃ a after, m.run footprint = some (a, after) ∧ remains a + spare ≤ after.left

theorem Affords.mono {m : Meter α} {credit credit' : Nat} {remains remains' : α → Nat}
    (h : Affords m credit remains) (hcredit : credit ≤ credit')
    (hremains : ∀ a, remains' a ≤ remains a) : Affords m credit' remains' := by
  intro footprint spare hleft
  obtain ⟨a, after, hrun, hafter⟩ := h footprint (credit' - credit + spare) (by omega)
  have ha := hremains a
  exact ⟨a, after, hrun, by omega⟩

/-- More bytes do no harm. -/
theorem Affords.le {m : Meter α} {credit credit' : Nat} {remains : α → Nat}
    (h : Affords m credit remains) (hcredit : credit ≤ credit') : Affords m credit' remains :=
  h.mono hcredit fun _ => Nat.le_refl _

/-- What is not paid stays. -/
theorem Affords.frame {m : Meter α} {credit : Nat} {remains : α → Nat}
    (h : Affords m credit remains) (more : Nat) :
    Affords m (credit + more) fun a => remains a + more := by
  intro footprint spare hleft
  obtain ⟨a, after, hrun, hafter⟩ := h footprint (more + spare) (by omega)
  refine ⟨a, after, hrun, ?_⟩
  dsimp only
  omega

theorem affords_pure (a : α) (remains : α → Nat) : Affords (pure a) (remains a) remains := by
  intro footprint spare hleft
  exact ⟨a, footprint, rfl, by omega⟩

/-- One computation after the other spends what the first one leaves. -/
theorem Affords.bind {m : Meter α} {f : α → Meter β} {credit : Nat} {remains : α → Nat}
    {remains' : β → Nat} (hm : Affords m credit remains)
    (hf : ∀ a, Affords (f a) (remains a) remains') : Affords (m >>= f) credit remains' := by
  intro footprint spare hleft
  obtain ⟨a, between, hrun, hbetween⟩ := hm footprint spare hleft
  obtain ⟨b, after, hrun', hafter⟩ := hf a between (between.left - remains a) (by omega)
  refine ⟨b, after, ?_, by omega⟩
  rw [StateT.run_bind, hrun]
  exact hrun'

/-- Costs that do not depend on what is answered add up. -/
theorem Affords.andThen {m : Meter α} {f : α → Meter β} {cost rest : Nat} {remains : β → Nat}
    (hm : Affords m cost fun _ => 0) (hf : ∀ a, Affords (f a) rest remains) :
    Affords (m >>= f) (cost + rest) remains :=
  (hm.frame rest).bind fun a => (hf a).mono (Nat.le_add_left _ _) fun _ => Nat.le_refl _

theorem affords_spend (bytes : Nat) : Affords (spend bytes) bytes fun _ => 0 := by
  intro footprint spare hleft
  refine ⟨(), { footprint with left := footprint.left - bytes }, ?_, ?_⟩
  · exact if_pos (by omega)
  · show 0 + spare ≤ footprint.left - bytes
    omega

theorem affords_state (further : Nat) : Affords (state further) (32 + further) fun _ => 0 := by
  refine (affords_spend (32 + further)).bind fun _ footprint spare hleft => ?_
  refine ⟨footprint.states, { footprint with states := footprint.states + 1 }, rfl, ?_⟩
  dsimp only
  omega

theorem Affords.discard {m : Meter α} {credit : Nat} (h : Affords m credit fun _ => 0) :
    Affords (do let _ ← m) credit fun _ => 0 :=
  h.bind fun _ => affords_pure () fun _ => 0

theorem affords_plain (further : Nat) : Affords (plain further) (32 + further) fun _ => 0 :=
  (affords_state further).discard

theorem affords_join (endsInFork : Bool) : Affords (join endsInFork) 4 fun _ => 0 := by
  cases endsInFork with
  | true => exact affords_spend (ways 1)
  | false => exact (affords_pure () fun _ => 0).mono (Nat.zero_le _) fun _ => Nat.le_refl _

/-- Counting for each item of a list costs what the items cost. -/
theorem affords_forM {f : α → Meter Unit} (cost : α → Nat)
    (hf : ∀ a, Affords (f a) (cost a) fun _ => 0) (l : List α) :
    Affords (l.forM f) (l.map cost).sum fun _ => 0 := by
  induction l with
  | nil => exact affords_pure () fun _ => 0
  | cons a l ih =>
    rw [List.map_cons, List.sum_cons]
    exact (hf a).andThen fun _ => ih

/-- Steps that each pay for what they add to a potential pay for the whole run. -/
theorem affords_foldlM {f : σ → α → Meter σ} (potential : σ → Nat) (cost : α → Nat)
    (hf : ∀ s a, Affords (f s a) (potential s + cost a) potential) (l : List α) (s : σ) :
    Affords (l.foldlM f s) (potential s + (l.map cost).sum) potential := by
  induction l generalizing s with
  | nil => exact affords_pure s potential
  | cons a l ih =>
    rw [List.foldlM_cons, List.map_cons, List.sum_cons, ← Nat.add_assoc]
    exact ((hf s a).frame _).bind fun next => ih next

end Meter

open Meter

/-- A state is found or counted. -/
theorem StateMemory.affords_findOrAdd {κ : Type} [DecidableEq κ] (memory : StateMemory κ) (slot : Nat)
    (contents : κ) (further : Nat) :
    Affords (memory.findOrAdd slot contents further) (32 + further) fun _ => 0 := by
  unfold findOrAdd
  split
  · exact (affords_pure _ fun _ => 0).mono (Nat.zero_le _) fun _ => Nat.le_refl _
  · exact (affords_state further).bind fun _ => affords_pure _ fun _ => 0

/-- The number of entries of a table, the pending one included. -/
def OpenTable.size (table : OpenTable) : Nat :=
  table.finished.length + table.pending.toList.length

theorem OpenTable.length_close (table : OpenTable) (next : Nat) :
    (table.close next).length = table.size := by
  cases hpending : table.pending <;> simp [close, size, hpending]

namespace ClassTables

/-- What it takes to count the tables that are under way. -/
def due (under : List OpenTable) : Nat :=
  (under.map fun table => 32 + entries table.size).sum

@[simp] theorem due_nil : due [] = 0 := rfl

@[simp] theorem due_cons (table : OpenTable) (under : List OpenTable) :
    due (table :: under) = 32 + entries table.size + due under := by
  rw [due, List.map_cons, List.sum_cons]
  rfl

theorem due_append (under below : List OpenTable) : due (under ++ below) = due under + due below := by
  rw [due, List.map_append, List.sum_append]
  rfl

theorem affords_count (memory : StateMemory (List TableEntry)) (table : List TableEntry) :
    Affords (count memory table) (32 + entries table.length) fun _ => 0 :=
  memory.affords_findOrAdd _ _ _

/-- The tables that are closed pay for themselves. The range that the next one waited for becomes
    one of its entries, which is as many as before. -/
theorem affords_close (n next : Nat) (tables : ClassTables) :
    Affords (tables.close n next) (due tables.under) fun after => due after.under := by
  obtain ⟨under, memory⟩ := tables
  induction n generalizing next under memory with
  | zero =>
    cases under with
    | nil => exact affords_pure _ fun after : ClassTables => due after.under
    | cons table below =>
      have hsize : OpenTable.size { finished := table.close next } = table.size :=
        table.length_close next
      refine (affords_pure _ fun after : ClassTables => due after.under).le ?_
      simp only [due_cons, hsize, Nat.le_refl]
  | succ n ih =>
    cases under with
    | nil => exact affords_pure _ fun after : ClassTables => due after.under
    | cons table below =>
      have hcount := affords_count memory (table.close next)
      rw [OpenTable.length_close] at hcount
      rw [due_cons]
      exact hcount.andThen fun found => ih found.1 below found.2

/-- A table with nothing but a pending range takes 40 bytes. -/
theorem due_pending (ranges : List Text.ByteRange) :
    due (ranges.map fun range => { pending := some range }).reverse = 40 * ranges.length := by
  rw [due, List.map_reverse, List.sum_reverse, List.map_map]
  simp [Function.comp_def, OpenTable.size, entries, Nat.mul_comm]

/-- Each range of a row takes a table of its own at most, with one entry. -/
theorem affords_add (target : Nat) (tables : ClassTables) (row : List Text.ByteRange) :
    Affords (tables.add target row) (due tables.under + 40 * row.length)
      fun after => due after.under := by
  unfold add
  refine ((affords_close _ target tables).frame (40 * row.length)).bind fun ⟨under, memory⟩ => ?_
  dsimp only
  split
  · rename_i table below range rest hrest
    have hlength : rest.length + 1 ≤ row.length := by
      rw [← List.length_cons, ← hrest]
      exact (List.drop_sublist _ _).length_le
    have hsize : OpenTable.size { table with pending := some range } ≤ table.size + 1 := by
      simp [OpenTable.size]
    refine (affords_pure _ fun after : ClassTables => due after.under).le ?_
    simp only [due_append, due_cons, due_pending, entries]
    omega
  · exact (affords_pure _ fun after : ClassTables => due after.under).le (Nat.le_add_right _ _)

theorem affords_addAll (target : Nat) (tables : ClassTables) (rows : List (List Text.ByteRange)) :
    Affords (rows.foldlM (add target) tables)
      (due tables.under + (rows.map fun row => 40 * row.length).sum) fun after => due after.under :=
  affords_foldlM (fun after => due after.under) (fun row => 40 * row.length) (affords_add target)
    rows tables

/-- The finished entries of the tables are among those that their count pays for. -/
theorem finished_le_due (under : List OpenTable) :
    entries (under.flatMap (·.finished)).length ≤ due under := by
  induction under with
  | nil => exact Nat.le_refl _
  | cons table under ih =>
    simp only [List.flatMap_cons, List.length_append, due_cons, OpenTable.size, entries] at ih ⊢
    omega

end ClassTables

namespace CharClass

/-- Forward, each row pays for the tables that it opens, and the first table is there from the
    beginning. -/
theorem affords_countForward (cls : CharClass) :
    Affords cls.countForward (96 + (cls.byteRows.map fun row => 40 * row.length).sum)
      fun _ => 0 := by
  have hlast (tables : ClassTables) (target : Nat) : Affords (do
      let closed ← tables.close (tables.under.length - 1) target
      let _ ← ClassTables.count closed.memory (closed.under.flatMap (·.finished)))
      (ClassTables.due tables.under + 32) fun _ => 0 := by
    refine ((tables.affords_close (tables.under.length - 1) target).frame 32).bind
      fun closed => ?_
    have hfinished := ClassTables.finished_le_due closed.under
    have hcount := ClassTables.affords_count closed.memory (closed.under.flatMap (·.finished))
    exact hcount.discard.le (by omega)
  have hrows (target : Nat) : Affords (cls.byteRows.foldlM (ClassTables.add target) {})
      (64 + (cls.byteRows.map fun row => 40 * row.length).sum)
      fun tables => ClassTables.due tables.under + 32 := by
    refine ((ClassTables.affords_addAll target {} cls.byteRows).frame 32).le ?_
    have hfirst : ClassTables.due [{}] = 32 := rfl
    dsimp only
    omega
  have hall (target : Nat) := (hrows target).bind fun tables => hlast tables target
  exact ((affords_state 0).andThen hall).le (by omega)

/-- Backward, each range of a row takes a state at most, and each row a way out of the fork. -/
theorem affords_countBackward (cls : CharClass) :
    Affords cls.countBackward (64 + (cls.byteRows.map fun row => 32 * row.length + 4).sum)
      fun _ => 0 := by
  have hrow (target : Nat) (memory : StateMemory (Nat × Text.ByteRange))
      (row : List Text.ByteRange) : Affords (do
        let found ← row.foldlM (fun found range => countRange found.1 found.2 range)
          (target, memory)
        spend (ways 1)
        return found.2) (0 + (32 * row.length + 4)) fun _ => 0 := by
    have hranges : Affords (row.foldlM (fun found range => countRange found.1 found.2 range)
        (target, memory)) (32 * row.length) fun _ => 0 := by
      refine (affords_foldlM (fun _ => 0) (fun _ => 32) (fun found range => ?_) row
        (target, memory)).le ?_
      · exact (found.2.affords_findOrAdd _ _ 0).le (Nat.le_refl _)
      · simp [Nat.mul_comm]
    have hways (memory : StateMemory (Nat × Text.ByteRange)) : Affords (do
        spend (ways 1)
        return memory) 4 fun _ => 0 :=
      (affords_spend (ways 1)).bind fun _ => affords_pure memory fun _ => 0
    exact (hranges.andThen fun found => hways found.2).le (by omega)
  have hrows (target : Nat) := affords_foldlM (fun _ => 0) (fun row => 32 * row.length + 4)
    (hrow target) cls.byteRows {}
  have hall (target : Nat) := (hrows target).discard
  exact ((affords_plain 0).andThen fun _ => (affords_state 0).andThen hall).le (by omega)

/-- What it takes to count the states that read one character of the class, in either direction. -/
def price (cls : CharClass) : Nat :=
  if cls.isAscii then 64 + entries cls.ranges.length
  else 96 + (cls.byteRows.map fun row => 40 * row.length + 4).sum

/-- Whichever states are shared, a class costs no more than its ranges or its rows of bytes. -/
theorem affords_count (direction : Direction) (cls : CharClass) :
    Affords (cls.count direction) cls.price fun _ => 0 := by
  have hforward : (cls.byteRows.map fun row => 40 * row.length).sum ≤
      (cls.byteRows.map fun row => 40 * row.length + 4).sum :=
    List.sum_le_sum fun row _ => Nat.le_add_right _ _
  have hbackward : (cls.byteRows.map fun row => 32 * row.length + 4).sum ≤
      (cls.byteRows.map fun row => 40 * row.length + 4).sum :=
    List.sum_le_sum fun row _ => by omega
  unfold count price
  split
  · exact ((affords_plain 0).andThen fun _ => affords_plain _).le (by omega)
  · cases direction with
    | forward => exact cls.affords_countForward.le (by omega)
    | backward => exact cls.affords_countBackward.le (by omega)

/-- The class of a kind of capture is small. -/
theorem price_cls_le (kind : CaptureKind) : price kind.cls ≤ 1400 := by
  cases kind <;> decide +kernel

end CharClass

namespace Expr

/-- A piece that an accepted template without fragments has in its expression. -/
inductive IsPlain : Expr → Prop where
  | literal (text : List Char) : IsPlain (.literal text)
  | look (a : Assertion) : IsPlain (.look a)
  | capture (index : Nat) (name : Option String) (kind : CaptureKind) :
      IsPlain (.capture index name (.repeat 1 none false (.one kind.cls)))

/-- What it takes to count the states that read such a piece, in either direction. -/
def price : Expr → Nat
  | literal text => 128 * text.length
  | look _ => 32
  | _ => 2048

theorem affords_literal (direction : Direction) (text : List Char) :
    Affords ((literal text).count direction .first) (128 * text.length) fun _ => 0 := by
  have hsize (length : Nat) : text.foldl (fun length c => length + c.utf8Size) length ≤
      length + 4 * text.length := by
    induction text generalizing length with
    | nil => exact Nat.le_refl _
    | cons c text ih =>
      have hrest := ih (length + c.utf8Size)
      have hchar := c.utf8Size_le_four
      simp only [List.foldl_cons, List.length_cons]
      omega
  have hstates := affords_forM (f := fun _ => plain 0) (fun _ => 32) (fun _ => affords_plain 0)
    (List.range (text.foldl (fun length c => length + c.utf8Size) 0))
  have hcount := hstates.andThen fun _ => affords_pure false fun _ => 0
  refine Affords.le hcount ?_
  have hsize := hsize 0
  simp only [List.map_const', List.length_range, List.sum_replicate_nat]
  omega

/-- The rounds of the class loop through one fork, and the group has a state on either side. -/
theorem affords_capture (direction : Direction) (index : Nat) (name : Option String)
    (kind : CaptureKind) :
    Affords ((capture index name (.repeat 1 none false (.one kind.cls))).count direction .first)
      2048 fun _ => 0 := by
  have hclass : Affords ((one kind.cls).count direction .first) 1400 fun _ => 0 :=
    ((kind.cls.affords_count direction).andThen fun _ =>
      affords_pure false fun _ => 0).le (CharClass.price_cls_le kind)
  have hrounds (takesSomething : Bool) (body : Meter Bool) (hbody : Affords body 1400 fun _ => 0) :
      Affords (countRounds 1 none takesSomething body) 1440 fun _ => 0 := by
    refine Affords.le (hbody.andThen fun endsInFork => (affords_join endsInFork).andThen fun _ =>
      (affords_plain (ways 1)).andThen fun _ => affords_pure true fun _ => 0) ?_
    decide
  have hrepeat : Affords ((Expr.repeat 1 none false (.one kind.cls)).count direction .first) 1440
      fun _ => 0 :=
    (hrounds _ _ hclass).andThen fun endsInFork => affords_pure endsInFork fun _ => 0
  cases direction with
  | forward =>
    refine Affords.le ((affords_plain 0).andThen fun _ => hrepeat.andThen fun endsInFork =>
      (affords_plain 0).andThen fun _ => (affords_join endsInFork).andThen fun _ =>
        affords_pure false fun _ => 0) ?_
    decide
  | backward =>
    exact (hrepeat.andThen fun endsInFork => affords_pure endsInFork fun _ => 0).le (by decide)

theorem IsPlain.affords {e : Expr} (h : e.IsPlain) (direction : Direction) :
    Affords (e.count direction .first) e.price fun _ => 0 := by
  cases h with
  | literal text => exact affords_literal direction text
  | look a => exact (affords_plain 0).andThen fun _ => affords_pure false fun _ => 0
  | capture index name kind => exact affords_capture direction index name kind

/-- A row joins its items one after the other, whichever of them comes first. -/
theorem affords_row (direction : Direction) {es : List Expr} (hplain : ∀ e ∈ es, e.IsPlain) :
    Affords ((row es).count direction .first) (32 + (es.map fun e => e.price + 4).sum)
      fun _ => 0 := by
  fun_induction row es with
  | case1 => exact (affords_plain 0).andThen fun _ => affords_pure false fun _ => 0
  | case2 e =>
    refine ((hplain e (List.mem_singleton_self e)).affords direction).le ?_
    simp
    omega
  | case3 e rest hrest ih =>
    rw [List.forall_mem_cons] at hplain
    have hfirst := hplain.1.affords direction
    have hothers := ih hplain.2
    rw [List.map_cons, List.sum_cons]
    cases direction with
    | forward =>
      refine Affords.le (hfirst.andThen fun endsInFork => (affords_join endsInFork).andThen fun _ =>
        hothers.andThen fun endsInFork => affords_pure endsInFork fun _ => 0) ?_
      omega
    | backward =>
      refine Affords.le (hothers.andThen fun endsInFork => (affords_join endsInFork).andThen fun _ =>
        hfirst.andThen fun endsInFork => affords_pure endsInFork fun _ => 0) ?_
      omega

/-- Joined literals are pieces again, and take no more than they did apart. -/
theorem isPlain_joinLiterals {es : List Expr} (hplain : ∀ e ∈ es, e.IsPlain) :
    (∀ e ∈ joinLiterals es, e.IsPlain) ∧
      ((joinLiterals es).map fun e => e.price + 4).sum ≤ (es.map fun e => e.price + 4).sum := by
  fun_induction joinLiterals es with
  | case1 => exact ⟨hplain, Nat.le_refl _⟩
  | case2 s rest t tail hjoin ih =>
    rw [List.forall_mem_cons] at hplain
    obtain ⟨hitems, hsum⟩ := ih hplain.2
    rw [hjoin] at hitems hsum
    refine ⟨List.forall_mem_cons.mpr ⟨.literal _, (List.forall_mem_cons.mp hitems).2⟩, ?_⟩
    simp only [List.map_cons, List.sum_cons, price, List.length_append] at hsum ⊢
    omega
  | case3 s rest _ ih | case4 e rest _ ih =>
    rw [List.forall_mem_cons] at hplain
    obtain ⟨hitems, hsum⟩ := ih hplain.2
    refine ⟨List.forall_mem_cons.mpr ⟨hplain.1, hitems⟩, ?_⟩
    rw [List.map_cons, List.map_cons, List.sum_cons, List.sum_cons]
    omega

theorem flatMap_items_of_isPlain {es : List Expr} (hplain : ∀ e ∈ es, e.IsPlain) :
    es.flatMap items = es := by
  induction es with
  | nil => rfl
  | cons e es ih =>
    rw [List.forall_mem_cons] at hplain
    have hitems : e.items = [e] := by cases hplain.1 <;> rfl
    rw [List.flatMap_cons, hitems, ih hplain.2, List.singleton_append]

/-- A whole machine has a few states more than those for its expression. -/
theorem affords_countAll (direction : Direction) {e : Expr} {cost : Nat}
    (h : Affords (e.count direction .first) cost fun _ => 0) :
    Affords (e.countAll direction) (cost + 212) fun _ => 0 := by
  have hbefore (fixed : Bool) {machine : Meter Unit} (hmachine : Affords machine (cost + 100)
      fun _ => 0) : Affords (do
        if fixed then plain 0
        else
          plain (ways 2)
          plain 0
          plain (entries 1)
        machine) (cost + 212) fun _ => 0 := by
    cases fixed with
    | true => exact ((affords_plain 0).andThen fun _ => hmachine).le (by omega)
    | false =>
      refine Affords.le ((affords_plain (ways 2)).andThen fun _ => (affords_plain 0).andThen fun _ =>
        (affords_plain (entries 1)).andThen fun _ => hmachine) ?_
      simp only [ways, entries]
      omega
  cases direction with
  | forward =>
    refine hbefore e.startsText (Affords.le ((affords_plain 0).andThen fun _ =>
      h.andThen fun endsInFork => (affords_plain 0).andThen fun _ =>
        (affords_join endsInFork).andThen fun _ => affords_plain 0) ?_)
    omega
  | backward =>
    refine hbefore e.endsText (Affords.le (h.andThen fun endsInFork =>
      (affords_plain 0).andThen fun _ => affords_join endsInFork) ?_)
    omega

/-- Pieces in a row fit if there is room for each of them. -/
theorem fits_concat {limit : Nat} {es : List Expr} (hplain : ∀ e ∈ es, e.IsPlain)
    (hsum : (es.map fun e => e.price + 4).sum + 244 ≤ limit) : (concat es).fits limit = true := by
  have hfits (direction : Direction) :
      (((concat es).countAll direction).run { left := limit }).isSome = true := by
    obtain ⟨hitems, hjoined⟩ := isPlain_joinLiterals hplain
    rw [concat, flatMap_items_of_isPlain hplain]
    have hall : Affords ((row (joinLiterals es)).countAll direction) limit fun _ => 0 :=
      (affords_countAll direction (affords_row direction hitems)).le (by omega)
    obtain ⟨a, after, hrun, -⟩ := hall { left := limit } 0 rfl
    rw [hrun]
    rfl
  rw [fits, hfits, hfits, Bool.and_self]

end Expr

end HttpRouter
