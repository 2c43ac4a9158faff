namespace HttpRouter

variable {State Item Value : Type}

/-- What is written last by items, if any of them writes. -/
def lastWrite? (write : Item → Option Value) (items : List Item) : Option Value :=
  (items.filterMap write).getLast?

theorem lastWrite?_cons (write : Item → Option Value) (item : Item) (rest : List Item) :
    lastWrite? write (item :: rest) = (lastWrite? write rest).or (write item) := by
  rw [lastWrite?, List.filterMap_cons]
  cases write item with
  | none => exact Option.or_none.symm
  | some value =>
    rw [List.getLast?_cons]
    cases hlast : (rest.filterMap write).getLast? <;> simp [lastWrite?, hlast]

/-- What is written last is written by one of the items. -/
theorem exists_write_of_lastWrite? {write : Item → Option Value} {items : List Item} {value : Value}
    (hlast : lastWrite? write items = some value) : ∃ item ∈ items, write item = some value :=
  List.mem_filterMap.mp (List.mem_of_getLast? hlast)

theorem lastWrite?_map {Other : Type} (f : Value → Other) (write : Item → Option Value)
    (items : List Item) :
    lastWrite? (fun item => (write item).map f) items = (lastWrite? write items).map f := by
  rw [lastWrite?, ← List.map_filterMap, List.getLast?_map]
  rfl

/-- What every step either writes anew or leaves is in the end what is written last. -/
theorem foldl_lastWrite (step : State → Item → State) (read : State → Value)
    (write : Item → Option Value)
    (hstep : ∀ state item, read (step state item) = (write item).getD (read state))
    (items : List Item) (state : State) :
    read (items.foldl step state) = (lastWrite? write items).getD (read state) := by
  induction items generalizing state with
  | nil => rfl
  | cons item rest ih =>
    rw [List.foldl_cons, ih, hstep, lastWrite?_cons]
    cases lastWrite? write rest <;> rfl

/-- What no step changes is in the end as it was. -/
theorem foldl_unwritten (step : State → Item → State) (read : State → Value) {items : List Item}
    (hstep : ∀ item ∈ items, ∀ state, read (step state item) = read state) (state : State) :
    read (items.foldl step state) = read state := by
  induction items generalizing state with
  | nil => rfl
  | cons item rest ih =>
    rw [List.forall_mem_cons] at hstep
    rw [List.foldl_cons, ih hstep.2, hstep.1]

end HttpRouter
