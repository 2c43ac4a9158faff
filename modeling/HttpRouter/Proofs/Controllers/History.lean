import HttpRouter.Proofs.Controllers.Registering

namespace HttpRouter.Controllers

variable {World : Type}

/-- A handler under the names of its controller and its action. -/
structure Entry (World : Type) where
  controller : String
  action : String
  handler : Handler World

/-- Whether an entry has the names of a reference. -/
def Entry.Answers (entry : Entry World) (reference : ActionRef) : Prop :=
  SameName entry.controller reference.controller ∧ SameName entry.action reference.action

instance (reference : ActionRef) : DecidablePred fun entry : Entry World => entry.Answers reference :=
  fun _ => inferInstanceAs (Decidable (_ ∧ _))

/-- The entries that a registration makes, in their order. -/
def Registration.entries : Registration World → List (Entry World)
  | .action controller name handler => [⟨controller, name, handler⟩]
  | .resource controller handlers =>
    [⟨controller, "Index", handlers.index⟩, ⟨controller, "Create", handlers.create⟩,
      ⟨controller, "Read", handlers.read⟩, ⟨controller, "Update", handlers.update⟩,
      ⟨controller, "Destroy", handlers.destroy⟩]

/-- A registration makes entries for one controller. -/
theorem Registration.controller_of_mem_entries {registration : Registration World}
    {entry : Entry World} (hentry : entry ∈ registration.entries) :
    entry.controller = registration.controller := by
  cases registration with
  | action controller name handler =>
    obtain rfl := List.mem_singleton.mp hentry
    rfl
  | resource controller handlers =>
    have hall : ∀ made ∈ entries (.resource controller handlers), made.controller = controller := by
      simp [entries]
    exact hall entry hentry

/-- The table after entries, one after the other. -/
def enterAll (controllers : Controllers World) (entries : List (Entry World)) : Controllers World :=
  entries.foldl (fun controllers entry =>
    controllers.register entry.controller entry.action entry.handler) controllers

theorem take_eq_enterAll (controllers : Controllers World) (registration : Registration World) :
    controllers.take registration = controllers.enterAll registration.entries := by
  cases registration <;> rfl

/-- Registrations come down to their entries. -/
theorem takeAll_eq_enterAll (controllers : Controllers World)
    (registrations : List (Registration World)) :
    controllers.takeAll registrations =
      controllers.enterAll (registrations.flatMap Registration.entries) := by
  rw [takeAll, enterAll, List.foldl_flatMap]
  congr 1
  funext controllers registration
  exact controllers.take_eq_enterAll registration

/-- The latest entry under two names is found under them, and what was found before otherwise. -/
theorem find?_enterAll (controllers : Controllers World) (entries : List (Entry World))
    (reference : ActionRef) :
    (controllers.enterAll entries).find? reference.controller reference.action =
      ((entries.reverse.find? (·.Answers reference)).map (·.handler)).or
        (controllers.find? reference.controller reference.action) := by
  induction entries generalizing controllers with
  | nil => rfl
  | cons entry rest ih =>
    rw [enterAll, List.foldl_cons]
    change (enterAll _ rest).find? _ _ = _
    rw [ih, find?_register, List.reverse_cons, List.find?_append, Option.map_or, Option.or_assoc]
    congr 1
    by_cases hanswers : entry.Answers reference
    · have hnames : SameName entry.controller reference.controller ∧
          SameName entry.action reference.action := hanswers
      rw [if_pos hnames, List.find?_cons_of_pos (by simpa using hanswers)]
      rfl
    · have hnames : ¬(SameName entry.controller reference.controller ∧
          SameName entry.action reference.action) := hanswers
      rw [if_neg hnames, List.find?_cons_of_neg (by simpa using hanswers)]
      rfl

/-- A registered controller is known, and every other one as before. -/
theorem contains_register (controllers : Controllers World) (controller action : String)
    (handler : Handler World) (other : String) :
    (controllers.register controller action handler).contains other = true ↔
      SameName controller other ∨ controllers.contains other = true := by
  rw [contains, register, Assoc.find?_put]
  by_cases hname : Http.lowerCase controller = Http.lowerCase other
  · rw [if_pos hname]
    exact iff_of_true rfl (.inl hname)
  · rw [if_neg hname]
    exact (or_iff_right hname).symm

/-- The controllers of all entries are known. -/
theorem contains_enterAll (controllers : Controllers World) (entries : List (Entry World))
    (name : String) :
    (controllers.enterAll entries).contains name = true ↔
      (∃ entry ∈ entries, SameName entry.controller name) ∨ controllers.contains name = true := by
  induction entries generalizing controllers with
  | nil => simp [enterAll]
  | cons entry rest ih =>
    rw [enterAll, List.foldl_cons]
    change (enterAll _ rest).contains _ = true ↔ _
    rw [ih, contains_register]
    simp only [List.mem_cons, exists_eq_or_imp]
    rw [or_left_comm, or_assoc]

/-- A reference that no entry answers is refused as before, unless the entries make its controller
    known. -/
theorem resolve_enterAll_of_unanswered (controllers : Controllers World)
    {entries : List (Entry World)} {reference : ActionRef}
    (hnone : ∀ entry ∈ entries, ¬entry.Answers reference) :
    (controllers.enterAll entries).resolve reference = controllers.resolve reference ∨
      controllers.resolve reference = .error (.unknownController reference.controller) ∧
        (∃ entry ∈ entries, SameName entry.controller reference.controller) ∧
        (controllers.enterAll entries).resolve reference =
          .error (.unknownAction reference.controller reference.action) := by
  have hfind : (controllers.enterAll entries).find? reference.controller reference.action =
      controllers.find? reference.controller reference.action := by
    have hlatest : entries.reverse.find? (·.Answers reference) = none := by
      rw [List.find?_eq_none]
      simpa using hnone
    rw [find?_enterAll, hlatest]
    rfl
  rw [resolve_eq, resolve_eq, hfind]
  cases hfound : controllers.find? reference.controller reference.action with
  | some handler => exact .inl rfl
  | none =>
    dsimp only
    by_cases hknown : controllers.contains reference.controller = true
    · rw [if_pos hknown, if_pos ((controllers.contains_enterAll entries _).mpr (.inr hknown))]
      exact .inl rfl
    · rw [if_neg hknown]
      by_cases hmade : ∃ entry ∈ entries, SameName entry.controller reference.controller
      · rw [if_pos ((controllers.contains_enterAll entries _).mpr (.inl hmade))]
        exact .inr ⟨rfl, hmade, rfl⟩
      · rw [if_neg]
        · exact .inl rfl
        · rw [contains_enterAll, not_or]
          exact ⟨hmade, hknown⟩

/-- An entry that counts for a reference is the last of those that answer it. -/
theorem find?_reverse_eq_some_iff {entries : List (Entry World)} {reference : ActionRef}
    {entry : Entry World} :
    entries.reverse.find? (·.Answers reference) = some entry ↔
      ∃ before after, entries = before ++ entry :: after ∧ entry.Answers reference ∧
        ∀ later ∈ after, ¬later.Answers reference := by
  rw [List.find?_eq_some_iff_append]
  constructor
  · rintro ⟨hanswers, after, before, hsplit, hafter⟩
    refine ⟨before.reverse, after.reverse, ?_, by simpa using hanswers, by simpa using hafter⟩
    rw [← List.reverse_reverse entries, hsplit]
    simp
  · rintro ⟨before, after, rfl, hanswers, hafter⟩
    refine ⟨by simpa using hanswers, after.reverse, before.reverse, by simp, by simpa using hafter⟩

/-- After any registrations with an empty table, in any letter case, a reference stands for the
    handler of the latest entry under its names. Where there is none, its action is unknown if some
    entry is for its controller, and its controller is unknown otherwise, each reported as it is
    written in the reference. A controller is known if some entry is for it. One more registration
    changes nothing for a reference that it does not answer, except that its controller becomes
    known. -/
theorem resolve_after_history (registrations : List (Registration World)) :
    let table := (empty : Controllers World).takeAll registrations
    let entries := registrations.flatMap Registration.entries
    (∀ reference : ActionRef,
      (∀ handler, table.resolve reference = .ok handler ↔
        ∃ before entry after, entries = before ++ entry :: after ∧ entry.Answers reference ∧
          (∀ later ∈ after, ¬later.Answers reference) ∧ entry.handler = handler) ∧
      (table.resolve reference = .error (.unknownAction reference.controller reference.action) ↔
        (∀ entry ∈ entries, ¬entry.Answers reference) ∧
          ∃ entry ∈ entries, SameName entry.controller reference.controller) ∧
      (table.resolve reference = .error (.unknownController reference.controller) ↔
        ∀ entry ∈ entries, ¬SameName entry.controller reference.controller)) ∧
    (∀ name, table.contains name = true ↔ ∃ entry ∈ entries, SameName entry.controller name) ∧
    ∀ (registration : Registration World) (reference : ActionRef),
      (∀ entry ∈ registration.entries, ¬entry.Answers reference) →
        (table.take registration).resolve reference = table.resolve reference ∨
          table.resolve reference = .error (.unknownController reference.controller) ∧
            SameName registration.controller reference.controller ∧
            (table.take registration).resolve reference =
              .error (.unknownAction reference.controller reference.action) := by
  intro table entries
  have htable : table = enterAll empty entries := takeAll_eq_enterAll empty registrations
  have hcontains : ∀ name, table.contains name = true ↔
      ∃ entry ∈ entries, SameName entry.controller name := by
    intro name
    rw [htable, contains_enterAll]
    exact or_iff_left Bool.false_ne_true
  have hfind : ∀ reference : ActionRef, table.find? reference.controller reference.action =
      (entries.reverse.find? (·.Answers reference)).map (·.handler) := by
    intro reference
    rw [htable, find?_enterAll]
    exact Option.or_none
  refine ⟨fun reference => ?_, hcontains, fun registration reference hnone => ?_⟩
  · rw [resolve_eq, hfind]
    cases hlatest : entries.reverse.find? (·.Answers reference) with
    | some entry =>
      obtain ⟨before, after, hsplit, hanswers, hafter⟩ := find?_reverse_eq_some_iff.mp hlatest
      have hentry : entry ∈ entries := by
        rw [hsplit]
        exact List.mem_append_right _ List.mem_cons_self
      refine ⟨fun handler => ⟨fun h => ?_, ?_⟩, ?_, ?_⟩
      · exact ⟨before, entry, after, hsplit, hanswers, hafter, Except.ok.inj h⟩
      · rintro ⟨before', entry', after', hsplit', hanswers', hafter', rfl⟩
        have hsame := find?_reverse_eq_some_iff.mpr ⟨before', after', hsplit', hanswers', hafter'⟩
        rw [hlatest, Option.some.injEq] at hsame
        rw [hsame]
        rfl
      · exact iff_of_false nofun fun h => h.1 entry hentry hanswers
      · exact iff_of_false nofun fun h => h entry hentry hanswers.1
    | none =>
      have hnone : ∀ entry ∈ entries, ¬entry.Answers reference := by
        simpa using List.find?_eq_none.mp hlatest
      have hunanswered : ∀ handler : Handler World, ¬∃ before entry after,
          entries = before ++ entry :: after ∧ entry.Answers reference ∧
            (∀ later ∈ after, ¬later.Answers reference) ∧ entry.handler = handler := by
        rintro handler ⟨before, entry, after, hsplit, hanswers, -⟩
        refine hnone entry ?_ hanswers
        rw [hsplit]
        exact List.mem_append_right _ List.mem_cons_self
      dsimp only [Option.map_none]
      by_cases hknown : table.contains reference.controller = true
      · have hentry := (hcontains _).mp hknown
        rw [if_pos hknown]
        refine ⟨fun handler => iff_of_false nofun (hunanswered handler),
          iff_of_true rfl ⟨hnone, hentry⟩, iff_of_false nofun fun h => ?_⟩
        obtain ⟨entry, hmem, hname⟩ := hentry
        exact h entry hmem hname
      · have hentry := mt (hcontains _).mpr hknown
        rw [if_neg hknown]
        exact ⟨fun handler => iff_of_false nofun (hunanswered handler),
          iff_of_false nofun fun h => hentry h.2,
          iff_of_true rfl fun entry hmem hname => hentry ⟨entry, hmem, hname⟩⟩
  · rw [take_eq_enterAll]
    obtain hsame | ⟨hunknown, ⟨entry, hentry, hname⟩, hknown⟩ :=
      table.resolve_enterAll_of_unanswered hnone
    · exact .inl hsame
    · exact .inr ⟨hunknown, registration.controller_of_mem_entries hentry ▸ hname, hknown⟩

end HttpRouter.Controllers
