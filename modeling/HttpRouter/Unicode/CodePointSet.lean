namespace HttpRouter.Unicode

/-- A set of code points given by its steps: the distances between the points where membership
    changes, the first of them from zero. Any steps give a set, and the empty set has none. -/
structure CodePointSet where
  steps : List Nat
  deriving Inhabited, DecidableEq, Repr

namespace CodePointSet

/-- Whether a point lies inside, starting from the given side and crossing over at every step. -/
def side : Bool → List Nat → Nat → Bool
  | inside, [], _ => inside
  | inside, step :: steps, point =>
    if point < step then inside else side (!inside) steps (point - step)

/-- Whether a point belongs to the set. -/
def contains (s : CodePointSet) (point : Nat) : Bool :=
  side false s.steps point

instance : Membership Nat CodePointSet := ⟨fun s point => s.contains point = true⟩

instance (s : CodePointSet) (point : Nat) : Decidable (point ∈ s) :=
  inferInstanceAs (Decidable (s.contains point = true))

/-- The set without points. -/
def empty : CodePointSet := ⟨[]⟩

/-- The points from the first to the last, both included. -/
def range (first last : Nat) : CodePointSet := ⟨[first, last + 1 - first]⟩

/-- The set of one point. -/
def single (point : Nat) : CodePointSet := range point point

/-- Goes on after a place where the side may change. The distance up to that place makes a step if
    it does, and counts towards the next step otherwise. -/
@[inline]
def cross (before after : Bool) (distance : Nat) (rest : Nat → List Nat) : List Nat :=
  if after = before then rest distance else distance :: rest 0

/-- The steps of a set that is put together from two others, which are at the sides `a` and `b`.
    The distance already covered since the last step is `gap`. -/
def combineSteps (op : Bool → Bool → Bool) : Bool → Bool → Nat → List Nat → List Nat → List Nat
  | _, _, _, [], [] => []
  | a, b, gap, x :: xs, [] =>
    cross (op a b) (op (!a) b) (gap + x) fun gap => combineSteps op (!a) b gap xs []
  | a, b, gap, [], y :: ys =>
    cross (op a b) (op a (!b)) (gap + y) fun gap => combineSteps op a (!b) gap [] ys
  | a, b, gap, x :: xs, y :: ys =>
    if x < y then
      cross (op a b) (op (!a) b) (gap + x) fun gap => combineSteps op (!a) b gap xs ((y - x) :: ys)
    else if y < x then
      cross (op a b) (op a (!b)) (gap + y) fun gap => combineSteps op a (!b) gap ((x - y) :: xs) ys
    else
      cross (op a b) (op (!a) (!b)) (gap + x) fun gap => combineSteps op (!a) (!b) gap xs ys
  termination_by _ _ _ xs ys => xs.length + ys.length

/-- The points that are in or out of the result as the operation decides from their being in the
    first and in the second set. The operation must keep out what is in neither. -/
def combine (op : Bool → Bool → Bool) (s t : CodePointSet) : CodePointSet :=
  ⟨combineSteps op false false 0 s.steps t.steps⟩

/-- The points of either set. -/
def union (s t : CodePointSet) : CodePointSet := combine (· || ·) s t

/-- The points of both sets. -/
def inter (s t : CodePointSet) : CodePointSet := combine (· && ·) s t

/-- The points of the first set that are not in the second. -/
def diff (s t : CodePointSet) : CodePointSet := combine (fun a b => a && !b) s t

/-- The points of exactly one of the sets. -/
def symmDiff (s t : CodePointSet) : CodePointSet := combine (fun a b => a != b) s t

instance : Union CodePointSet := ⟨union⟩

instance : Inter CodePointSet := ⟨inter⟩

instance : SDiff CodePointSet := ⟨diff⟩

/-- The points of all the sets. -/
def unionAll (sets : List CodePointSet) : CodePointSet :=
  sets.foldl union empty

/-- All code points but the surrogates, which no character has. -/
def scalars : CodePointSet := ⟨[0, 0xD800, 0x800, 0x102000]⟩

/-- The characters that are not in the set. -/
def compl (s : CodePointSet) : CodePointSet := scalars \ s

/-- The ranges that steps outline, beginning at a place outside. -/
private def rangesFrom (place : Nat) : List Nat → List (Nat × Nat)
  | before :: within :: steps =>
    (place + before, place + before + within - 1) :: rangesFrom (place + before + within) steps
  | _ => []

/-- The first and last points of the ranges that make up the set, in increasing order. -/
def ranges (s : CodePointSet) : List (Nat × Nat) :=
  rangesFrom 0 s.steps

private def stepsOfRanges (place : Nat) : List (Nat × Nat) → List Nat
  | [] => []
  | (first, last) :: rest =>
    (first - place) :: (last + 1 - first) :: stepsOfRanges (last + 1) rest

/-- The set that ranges make up. They are in increasing order and do not touch. -/
def ofRanges (ranges : List (Nat × Nat)) : CodePointSet :=
  ⟨stepsOfRanges 0 ranges⟩

/-- The ranges that increasing points make up, the first of them under way. -/
private def rangesOfPoints (first last : Nat) : List Nat → List (Nat × Nat)
  | [] => [(first, last)]
  | point :: points =>
    if point = last + 1 then rangesOfPoints first point points
    else (first, last) :: rangesOfPoints point point points

/-- The set of the listed points, which are in increasing order. -/
def ofPoints : List Nat → CodePointSet
  | [] => empty
  | point :: points => ofRanges (rangesOfPoints point point points)

/-- The value of a hexadecimal digit in lower case, and zero for any other character. -/
private def stepDigit (c : Char) : Nat :=
  if c.isDigit then c.toNat - '0'.toNat
  else if 'a' ≤ c ∧ c ≤ 'f' then c.toNat - 'a'.toNat + 10
  else 0

/-- Reads steps in hexadecimal digits with blanks between two of them, the latest step first. -/
private def readSteps : List Char → Option Nat → List Nat → List Nat
  | [], step, steps => step.toList ++ steps
  | c :: rest, step, steps =>
    if c.isWhitespace then readSteps rest none (step.toList ++ steps)
    else readSteps rest (some (step.getD 0 * 16 + stepDigit c)) steps

/-- Reads a set from its written steps. -/
def ofSteps (text : String) : CodePointSet :=
  ⟨(readSteps text.toList none []).reverse⟩

private theorem side_lt {inside : Bool} {steps : List Nat} {step point : Nat} (h : point < step) :
    side inside (step :: steps) point = inside := by
  simp [side, h]

private theorem side_add {inside : Bool} {steps : List Nat} {step point : Nat} :
    side inside (step :: steps) (step + point) = side (!inside) steps point := by
  have hsub : step + point - step = point := by omega
  simp [side, Nat.not_lt.2 (Nat.le_add_right step point), hsub]

private theorem side_sub {inside : Bool} {steps : List Nat} {step past point : Nat}
    (h : past ≤ step) :
    side inside (step :: steps) (past + point) = side inside ((step - past) :: steps) point := by
  have hiff : past + point < step ↔ point < step - past := by omega
  have hsub : past + point - step = point - (step - past) := by omega
  simp [side, hiff, hsub]

/-- Before the distance already covered has ended, nothing changes. -/
private theorem side_combineSteps_lt {op : Bool → Bool → Bool} {a b inside : Bool}
    {gap point : Nat} {xs ys : List Nat} (h : point < gap) :
    side inside (combineSteps op a b gap xs ys) point = inside := by
  fun_induction combineSteps op a b gap xs ys with
  | case1 => rfl
  | _ =>
    unfold cross
    split
    · apply_assumption
      omega
    · exact side_lt (by omega)

/-- Both sides of a place where the side may change, given what holds up to it and after it. -/
private theorem side_cross {before after : Bool} {distance point : Nat} {rest : Nat → List Nat}
    {value : Bool} (hlt : ∀ gap point, point < gap → side before (rest gap) point = before)
    (hge : ∀ gap q, point = distance + q → side after (rest gap) (gap + q) = value)
    (hbefore : point < distance → value = before) :
    side before (cross before after distance rest) point = value := by
  rcases Nat.lt_or_ge point distance with h | h
  · rw [hbefore h]
    unfold cross
    split
    · exact hlt _ _ h
    · exact side_lt h
  · obtain ⟨q, rfl⟩ := Nat.exists_eq_add_of_le h
    unfold cross
    split
    · next hsame => rw [← hsame]; exact hge _ q rfl
    · next hdiff =>
      have hflip : (!before) = after := by cases before <;> cases after <;> simp_all
      rw [side_add, hflip, ← hge 0 q rfl, Nat.zero_add]

private theorem side_combineSteps (op : Bool → Bool → Bool) (a b : Bool) (gap point : Nat)
    (xs ys : List Nat) :
    side (op a b) (combineSteps op a b gap xs ys) (gap + point) =
      op (side a xs point) (side b ys point) := by
  fun_induction combineSteps op a b gap xs ys generalizing point with
  | case1 => rfl
  | case2 a b gap x xs ih =>
    refine side_cross (fun _ _ h => side_combineSteps_lt h) (fun gap q h => ?_) (fun h => ?_)
    · obtain rfl : point = x + q := by omega
      rw [ih, side_add]; rfl
    · rw [side_lt (by omega)]; rfl
  | case3 a b gap y ys ih =>
    refine side_cross (fun _ _ h => side_combineSteps_lt h) (fun gap q h => ?_) (fun h => ?_)
    · obtain rfl : point = y + q := by omega
      rw [ih, side_add]; rfl
    · have hlt : side b (y :: ys) point = b := side_lt (by omega)
      rw [hlt]; rfl
  | case4 a b gap x xs y ys hxy ih =>
    refine side_cross (fun _ _ h => side_combineSteps_lt h) (fun gap q h => ?_) (fun h => ?_)
    · obtain rfl : point = x + q := by omega
      rw [ih, side_add, side_sub (by omega)]
    · rw [side_lt (by omega), side_lt (by omega)]
  | case5 a b gap x xs y ys _ hyx ih =>
    refine side_cross (fun _ _ h => side_combineSteps_lt h) (fun gap q h => ?_) (fun h => ?_)
    · obtain rfl : point = y + q := by omega
      rw [ih, side_add, side_sub (by omega)]
    · rw [side_lt (by omega), side_lt (by omega)]
  | case6 a b gap x xs y ys hxy hyx ih =>
    obtain rfl : x = y := by omega
    refine side_cross (fun _ _ h => side_combineSteps_lt h) (fun gap q h => ?_) (fun h => ?_)
    · obtain rfl : point = x + q := by omega
      rw [ih, side_add, side_add]
    · rw [side_lt (by omega), side_lt (by omega)]

/-- The law of every operation: a point is in the result as the operation decides. -/
theorem contains_combine {op : Bool → Bool → Bool} (hop : op false false = false)
    (s t : CodePointSet) (point : Nat) :
    (combine op s t).contains point = op (s.contains point) (t.contains point) := by
  have h := side_combineSteps op false false 0 point s.steps t.steps
  rwa [hop, Nat.zero_add] at h

@[simp]
theorem contains_empty (point : Nat) : empty.contains point = false := rfl

@[simp]
theorem contains_range (first last point : Nat) :
    (range first last).contains point = (decide (first ≤ point) && decide (point ≤ last)) := by
  simp only [contains, range, side]
  split
  · simp [show ¬first ≤ point by omega]
  · split
    · simp [show first ≤ point by omega, show point ≤ last by omega]
    · simp [show ¬point ≤ last by omega]

@[simp]
theorem contains_union (s t : CodePointSet) (point : Nat) :
    (s ∪ t).contains point = (s.contains point || t.contains point) :=
  contains_combine rfl s t point

@[simp]
theorem contains_inter (s t : CodePointSet) (point : Nat) :
    (s ∩ t).contains point = (s.contains point && t.contains point) :=
  contains_combine rfl s t point

@[simp]
theorem contains_sdiff (s t : CodePointSet) (point : Nat) :
    (s \ t).contains point = (s.contains point && !t.contains point) :=
  contains_combine rfl s t point

/-- Every character lies among the scalar values. -/
theorem contains_scalars (c : Char) : scalars.contains c.toNat = true := by
  have hvalid : c.toNat < 0xD800 ∨ (0xDFFF < c.toNat ∧ c.toNat < 0x110000) := c.valid
  simp only [contains, scalars, side]
  split
  · omega
  · split
    · rfl
    · split
      · omega
      · split
        · rfl
        · omega

theorem contains_compl (s : CodePointSet) (c : Char) :
    s.compl.contains c.toNat = !s.contains c.toNat := by
  simp [compl, contains_scalars]

end CodePointSet

end HttpRouter.Unicode
