import HttpRouter.Controllers.ActionRef
import HttpRouter.Proofs.Text.Trimming
import Mathlib.Data.List.TakeDrop
import Mathlib.Data.List.TakeWhile

namespace HttpRouter

namespace ActionRef

/-- What a written reference holds before its first at sign: all of it, if there is none. -/
def controllerPart (written : String) : String :=
  .ofList (written.toList.takeWhile (· ≠ '@'))

/-- What a written reference holds after its first at sign: nothing, if there is none. -/
def actionPart (written : String) : String :=
  .ofList ((written.toList.dropWhile (· ≠ '@')).drop 1)

/-- Whether a text is the name of a controller or of an action as references give it: it is not
    empty, and it has no at sign and no blanks at its ends. -/
structure IsName (name : String) : Prop where
  ne_empty : name ≠ ""
  at_notMem : '@' ∉ name.toList
  trimmed : Text.IsTrimmed name

/-- The reading of a reference by its two parts. -/
theorem parse_eq (written : String) :
    parse written =
      if Text.trim (controllerPart written) = "" ∨ '@' ∈ (Text.trim (actionPart written)).toList then
        .error (.invalidAction written)
      else .ok ⟨Text.trim (controllerPart written),
        if Text.trim (actionPart written) = "" then defaultAction
        else Text.trim (actionPart written)⟩ := by
  unfold parse controllerPart actionPart
  rw [List.span_eq_takeWhile_dropWhile]
  simp only [String.isEmpty_iff]

theorem at_notMem_controllerPart (written : String) : '@' ∉ (controllerPart written).toList := by
  rw [controllerPart, String.toList_ofList]
  intro hmem
  simpa using List.mem_takeWhile_imp hmem

/-- The at signs of a written reference behind the first one are those of its second part. -/
theorem count_at_le_one_iff (written : String) :
    written.toList.count '@' ≤ 1 ↔ '@' ∉ (actionPart written).toList := by
  have hfront : (written.toList.takeWhile (· ≠ '@')).count '@' = 0 := by
    simpa [controllerPart] using List.count_eq_zero.mpr (at_notMem_controllerPart written)
  have hsplit : written.toList.count '@' = (written.toList.dropWhile (· ≠ '@')).count '@' := by
    conv_lhs => rw [← List.takeWhile_append_dropWhile (p := (· ≠ '@')) (l := written.toList)]
    rw [List.count_append, hfront, Nat.zero_add]
  rw [hsplit, actionPart, String.toList_ofList]
  cases hrest : written.toList.dropWhile (· ≠ '@') with
  | nil => simp
  | cons c rest =>
    have hfirst := List.head?_dropWhile_not (· ≠ '@') written.toList
    rw [hrest] at hfirst
    obtain rfl : c = '@' := by simpa using hfirst
    rw [List.count_cons_self, List.drop_one, List.tail_cons, ← List.count_eq_zero]
    omega

/-- What is read of a reference, and when. -/
theorem parse_eq_ok_iff {written : String} {reference : ActionRef} :
    parse written = .ok reference ↔
      (written.toList.count '@' ≤ 1 ∧ ¬Text.IsBlankText (controllerPart written)) ∧
        reference.controller = Text.trim (controllerPart written) ∧
        reference.action = if Text.IsBlankText (actionPart written) then defaultAction
          else Text.trim (actionPart written) := by
  obtain ⟨controller, action⟩ := reference
  rw [parse_eq, count_at_le_one_iff]
  simp only [Text.trim_eq_empty_iff, Text.mem_trim_iff (rfl : Text.isBlank '@' = false)]
  by_cases hbad : Text.IsBlankText (controllerPart written) ∨ '@' ∈ (actionPart written).toList
  · rw [if_pos hbad]
    refine iff_of_false nofun fun h => ?_
    exact hbad.elim h.1.2 h.1.1
  · rw [if_neg hbad, Except.ok.injEq, ActionRef.mk.injEq, eq_comm, eq_comm (b := action)]
    rw [not_or] at hbad
    exact (and_iff_right ⟨hbad.2, hbad.1⟩).symm

theorem isName_defaultAction : IsName defaultAction where
  ne_empty := by decide
  at_notMem := by decide
  trimmed := by decide +kernel

/-- A text without at signs is a name without the blanks at its ends, unless it is blank. -/
theorem isName_trim {s : String} (hblank : ¬Text.IsBlankText s) (hat : '@' ∉ s.toList) :
    IsName (Text.trim s) where
  ne_empty := mt Text.trim_eq_empty_iff.mp hblank
  at_notMem := mt (Text.mem_trim_iff rfl).mp hat
  trimmed := Text.isTrimmed_trim s

/-- A reference that is read consists of names. -/
theorem isName_of_parse {written : String} {reference : ActionRef}
    (hparse : parse written = .ok reference) :
    IsName reference.controller ∧ IsName reference.action := by
  obtain ⟨⟨hcount, hblank⟩, hcontroller, haction⟩ := parse_eq_ok_iff.mp hparse
  rw [hcontroller, haction]
  refine ⟨isName_trim hblank (at_notMem_controllerPart written), ?_⟩
  split
  · exact isName_defaultAction
  · rename_i hnamed
    exact isName_trim hnamed ((count_at_le_one_iff written).mp hcount)

/-- A name is not blank, and trimming leaves it as it is. -/
theorem IsName.not_isBlankText {name : String} (hname : IsName name) : ¬Text.IsBlankText name := by
  rw [← Text.trim_eq_empty_iff, Text.trim_eq_self_iff.mpr hname.trimmed]
  exact hname.ne_empty

/-- The two parts of the written form of a reference, if the controller has no at sign. -/
theorem parts_text {controller : String} (hat : '@' ∉ controller.toList) (action : String) :
    controllerPart (text ⟨controller, action⟩) = controller ∧
      actionPart (text ⟨controller, action⟩) = action := by
  have htext : (text ⟨controller, action⟩).toList = controller.toList ++ '@' :: action.toList := by
    simp [text, String.toList_append]
  have hfront : ∀ c ∈ controller.toList, decide (c ≠ '@') = true := by
    intro c hc
    rw [decide_eq_true_eq]
    rintro rfl
    exact hat hc
  constructor
  · rw [controllerPart, htext, List.takeWhile_append_of_pos hfront,
      List.takeWhile_cons_of_neg (by simp), List.append_nil, String.ofList_toList]
  · rw [actionPart, htext, List.dropWhile_append_of_pos hfront,
      List.dropWhile_cons_of_neg (by simp), List.drop_one, List.tail_cons, String.ofList_toList]

/-- The written form of a reference is read as the same reference exactly if it consists of names. -/
theorem parse_text_iff {controller action : String} :
    parse (text ⟨controller, action⟩) = .ok ⟨controller, action⟩ ↔
      IsName controller ∧ IsName action := by
  refine ⟨isName_of_parse, fun ⟨hcontroller, haction⟩ => ?_⟩
  obtain ⟨hfirst, hsecond⟩ := parts_text hcontroller.at_notMem action
  rw [parse_eq_ok_iff, count_at_le_one_iff, hfirst, hsecond, if_neg haction.not_isBlankText,
    Text.trim_eq_self_iff.mpr hcontroller.trimmed, Text.trim_eq_self_iff.mpr haction.trimmed]
  exact ⟨⟨haction.at_notMem, hcontroller.not_isBlankText⟩, rfl, rfl⟩

end ActionRef

end HttpRouter
