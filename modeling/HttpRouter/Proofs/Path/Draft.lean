import HttpRouter.Path.Pattern
import HttpRouter.Proofs.Expression.Confinement
import Mathlib.Data.List.Nodup

namespace HttpRouter

open ParseState (IsPlainName captureText groupText)

/-- The segments of a template. -/
def Template.segments (template : String) : List Segment :=
  (elements template.toList).map Segment.read

namespace Segment

/-- The text of the expression for a segment. -/
def expression : Segment → List Char
  | literal text => quote text
  | fragment text => groupText text
  | capture name kind => captureText name kind

/-- The parameter that a segment declares. -/
def parameter? : Segment → Option Parameter
  | capture name kind => some ⟨.ofList name, kind⟩
  | _ => none

/-- The parameters of the captures among segments. -/
def parameters (segments : List Segment) : List Parameter :=
  segments.filterMap parameter?

@[simp]
theorem parameters_nil : parameters [] = [] := rfl

@[simp]
theorem parameters_cons (segment : Segment) (segments : List Segment) :
    parameters (segment :: segments) = segment.parameter?.toList ++ parameters segments := by
  rw [parameters, List.filterMap_cons]
  cases segment.parameter? <;> rfl

/-- Whether a segment that is a capture has a plain name. -/
def PlainlyNamed : Segment → Prop
  | capture name _ => IsPlainName name
  | _ => True

/-- The name of a capture holds nothing but letters and digits. -/
theorem isAlphanum_of_read {element name : List Char} {kind : CaptureKind}
    (h : read element = capture name kind) : ∀ c ∈ name, c.isAlphanum = true := by
  have hname : ∀ rest, captureName rest = name → ∀ c ∈ name, c.isAlphanum = true := by
    rintro rest rfl c hc
    exact (List.mem_filter.mp hc).2
  rw [read] at h
  split at h
  · cases h
  · rename_i token rest _
    simp only at h
    split at h
    · cases h
    · split at h
      · split at h
        · split at h
          · cases h
          · cases h
            exact hname rest rfl
        · cases h
          exact hname rest rfl
      · cases h
        exact hname rest rfl

end Segment

namespace Draft

/-- Adding a segment writes its expression after a slash and lists the parameter that it declares,
    the name of which is plain and new. -/
theorem addSegment_eq_ok {draft draft' : Draft} {element : List Char}
    (h : draft.addSegment element = .ok draft') :
    draft'.text.reverse = draft.text.reverse ++ '/' :: (Segment.read element).expression ∧
      draft'.parameters = (Segment.read element).parameter?.toList ++ draft.parameters ∧
      (Segment.read element).PlainlyNamed ∧
      ∀ parameter ∈ (Segment.read element).parameter?,
        ∀ other ∈ draft.parameters, parameter.name ≠ other.name := by
  rw [addSegment] at h
  cases hread : Segment.read element with
  | literal text =>
    simp only [hread] at h
    cases h
    simp [write, Segment.expression, Segment.parameter?, Segment.PlainlyNamed]
  | fragment text =>
    simp only [hread] at h
    cases h
    simp [write, Segment.expression, Segment.parameter?, Segment.PlainlyNamed, groupText]
  | capture name kind =>
    simp only [hread] at h
    obtain _ | ⟨first, name⟩ := name
    · cases h
    · simp only at h
      split at h
      · cases h
      · rename_i hdigit
        split at h
        · cases h
        · rename_i hnew
          cases h
          have hplain : IsPlainName (first :: name) :=
            ⟨Segment.isAlphanum_of_read hread, first, rfl, by simpa using hdigit⟩
          have hnew : ∀ other ∈ draft.parameters, String.ofList (first :: name) ≠ other.name := by
            intro other hother heq
            refine hnew (List.any_eq_true.mpr ⟨other, hother, ?_⟩)
            rw [heq]
            exact beq_self_eq_true _
          refine ⟨?_, rfl, hplain, ?_⟩
          · simp [write, Segment.expression, captureText]
          · simpa [Segment.parameter?] using hnew

/-- Adding segments one after the other writes all their expressions and lists all their
    parameters. -/
theorem foldlM_addSegment_eq_ok {draft draft' : Draft} {elements : List (List Char)}
    (h : elements.foldlM addSegment draft = .ok draft')
    (hnames : (draft.parameters.map (·.name)).Nodup) :
    draft'.text.reverse = draft.text.reverse ++
        (elements.map Segment.read).flatMap (fun segment => '/' :: segment.expression) ∧
      draft'.parameters.reverse = draft.parameters.reverse ++
        Segment.parameters (elements.map Segment.read) ∧
      (∀ segment ∈ elements.map Segment.read, segment.PlainlyNamed) ∧
      (draft'.parameters.map (·.name)).Nodup := by
  induction elements generalizing draft with
  | nil =>
    cases h
    simpa using hnames
  | cons element elements ih =>
    rw [List.foldlM_cons, bind_eq_ok] at h
    obtain ⟨next, hadd, h⟩ := h
    obtain ⟨htext, hparameters, hplain, hnew⟩ := addSegment_eq_ok hadd
    have hnext : (next.parameters.map (·.name)).Nodup := by
      rw [hparameters]
      cases hparameter : (Segment.read element).parameter? with
      | none => simpa using hnames
      | some parameter =>
        rw [hparameter] at hnew
        simp only [Option.toList_some, List.singleton_append, List.map_cons, List.nodup_cons]
        refine ⟨?_, hnames⟩
        simpa [eq_comm] using hnew parameter rfl
    obtain ⟨htext', hparameters', hplain', hnames'⟩ := ih h hnext
    refine ⟨?_, ?_, ?_, hnames'⟩
    · rw [htext', htext]
      simp
    · rw [hparameters', hparameters, List.map_cons, Segment.parameters_cons]
      cases (Segment.read element).parameter? <;> simp
    · rw [List.map_cons, List.forall_mem_cons]
      exact ⟨hplain, hplain'⟩

end Draft

namespace Pattern

/-- The expression of an accepted template has the segments between the anchors. -/
theorem draft_eq_ok {template : String} {text : List Char} {parameters : List Parameter}
    (h : draft template.toList = .ok (text, parameters)) :
    text = ['^'] ++
        (Template.segments template).flatMap (fun segment => '/' :: segment.expression) ++ ['$'] ∧
      parameters = Segment.parameters (Template.segments template) ∧
      (∀ segment ∈ Template.segments template, segment.PlainlyNamed) ∧
      (parameters.map (·.name)).Nodup := by
  rw [draft] at h
  split at h
  · rename_i hroot
    cases h
    have hsegments : Template.segments template = [.literal []] := by
      obtain hroot | hroot := hroot <;> rw [Template.segments, hroot] <;> rfl
    rw [hsegments]
    refine ⟨rfl, rfl, ?_, List.nodup_nil⟩
    simp [Segment.PlainlyNamed]
  · simp only at h
    split at h
    · cases h
    · simp only [bind_eq_ok] at h
      obtain ⟨draft, hfold, h⟩ := h
      cases h
      obtain ⟨htext, hparameters, hplain, hnames⟩ :=
        Draft.foldlM_addSegment_eq_ok hfold List.nodup_nil
      refine ⟨?_, hparameters, hplain, ?_⟩
      · rw [List.reverse_cons, htext]
        rfl
      · rw [List.map_reverse, List.nodup_reverse]
        exact hnames

end Pattern

end HttpRouter
