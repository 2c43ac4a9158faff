namespace HttpRouter.Assoc

variable {Value : Type}

/-- The value of the first pair with the key. -/
def find? (key : String) (pairs : List (String × Value)) : Option Value :=
  (pairs.find? (·.1 == key)).map (·.2)

/-- Replaces all pairs of a key by one in the place of the first, or adds the pair at the end. -/
def put (key : String) (value : Value) : List (String × Value) → List (String × Value)
  | [] => [(key, value)]
  | (other, old) :: rest =>
    if other = key then (key, value) :: rest.filter (·.1 ≠ key)
    else (other, old) :: put key value rest

@[simp] theorem find?_nil (key : String) : find? key ([] : List (String × Value)) = none := rfl

theorem find?_cons (key other : String) (value : Value) (rest : List (String × Value)) :
    find? key ((other, value) :: rest) = if other = key then some value else find? key rest := by
  by_cases hkey : other = key <;> simp [find?, hkey]

/-- Writing leaves a single pair under its key, and all pairs under every other one. -/
theorem filter_put (key other : String) (value : Value) (pairs : List (String × Value)) :
    (put key value pairs).filter (·.1 == other) =
      if key = other then [(key, value)] else pairs.filter (·.1 == other) := by
  induction pairs with
  | nil => by_cases hother : key = other <;> simp [put, hother]
  | cons pair rest ih =>
    obtain ⟨name, old⟩ := pair
    by_cases hname : name = key
    · subst hname
      rw [put, if_pos rfl]
      by_cases hother : name = other
      · subst hother
        simp [List.filter_filter]
      · have hrest : (rest.filter (·.1 ≠ name)).filter (·.1 == other) =
            rest.filter (·.1 == other) := by
          rw [List.filter_filter]
          refine List.filter_congr fun pair _ => ?_
          by_cases hpair : pair.1 = other <;> simp [hpair, Ne.symm hother]
        rw [List.filter_cons_of_neg (by simpa using hother), hrest, if_neg hother,
          List.filter_cons_of_neg (by simpa using hother)]
    · rw [put, if_neg hname, List.filter_cons, ih, List.filter_cons]
      by_cases hother : key = other
      · subst hother
        simp [hname]
      · simp [hother]

/-- A written value is found under its key, and every other key keeps its value. -/
theorem find?_put (key other : String) (value : Value) (pairs : List (String × Value)) :
    find? other (put key value pairs) = if key = other then some value else find? other pairs := by
  rw [find?, ← List.head?_filter, filter_put]
  split
  · rfl
  · rw [List.head?_filter]
    rfl

/-- A key has a value unless it is among those of the pairs. -/
theorem find?_eq_none_iff {key : String} {pairs : List (String × Value)} :
    find? key pairs = none ↔ key ∉ pairs.map (·.1) := by
  induction pairs with
  | nil => simp
  | cons pair rest ih =>
    obtain ⟨other, value⟩ := pair
    by_cases hkey : other = key
    · simp [find?_cons, hkey]
    · simp [find?_cons, hkey, ih, Ne.symm hkey]

/-- Where keys differ, every pair is found under its key. -/
theorem find?_eq_some_iff {key : String} {value : Value} {pairs : List (String × Value)}
    (hkeys : (pairs.map (·.1)).Nodup) : find? key pairs = some value ↔ (key, value) ∈ pairs := by
  induction pairs with
  | nil => simp
  | cons pair rest ih =>
    obtain ⟨other, old⟩ := pair
    rw [List.map_cons, List.nodup_cons] at hkeys
    rw [find?_cons, List.mem_cons, Prod.mk.injEq]
    by_cases hkey : other = key
    · subst hkey
      have hrest : (other, value) ∉ rest := fun h => hkeys.1 (List.mem_map.mpr ⟨_, h, rfl⟩)
      simp [hrest, eq_comm]
    · simp [hkey, Ne.symm hkey, ih hkeys.2]

/-- A new key is written at the end. -/
theorem put_of_notMem {key : String} {pairs : List (String × Value)}
    (hkey : key ∉ pairs.map (·.1)) (value : Value) :
    put key value pairs = pairs ++ [(key, value)] := by
  induction pairs with
  | nil => rfl
  | cons pair rest ih =>
    obtain ⟨other, old⟩ := pair
    rw [List.map_cons, List.mem_cons, not_or] at hkey
    rw [put, if_neg (Ne.symm hkey.1), ih hkey.2]
    rfl

end HttpRouter.Assoc
