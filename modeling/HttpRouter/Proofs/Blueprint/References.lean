import HttpRouter.Proofs.Blueprint.Flat
import HttpRouter.Proofs.Controllers.References

namespace HttpRouter

variable {World : Type}

namespace Blueprint

/-- What declaring by a reference comes to: the action is what the controllers make of the reference.
    A route is then the one that the handler makes by itself, beside the written reference, and
    otherwise the error of the controllers is recorded, unless the place that clients may be sent to
    has been refused before. -/
structure Follows (blueprint : Blueprint World) (reference : ActionRef) : Prop where
  action : blueprint.resolveAction reference.toAction =
    (blueprint.controllers.resolve reference).map fun handler => (handler, some reference.text)
  route : ∀ handler, blueprint.controllers.resolve reference = .ok handler → ∀ template options,
    blueprint.route template reference.toAction options =
      (blueprint.route template (.handler handler) options).map fun route =>
        { route with action := some reference.text }
  error : ∀ e, blueprint.controllers.resolve reference = .error e → ∀ template options,
    blueprint.route template reference.toAction options =
      .error ((blueprint.here template reference.toAction options).fallbackFault?.getD e)

/-- Declaring by a reference follows the reference, if its written form is read as itself. -/
theorem follows_of_parse (blueprint : Blueprint World) {reference : ActionRef}
    (hparse : ActionRef.parse reference.text = .ok reference) : blueprint.Follows reference := by
  have haction : blueprint.resolveAction reference.toAction =
      (blueprint.controllers.resolve reference).map fun handler => (handler, some reference.text) :=
    blueprint.resolveAction_named hparse
  refine ⟨haction, fun handler hresolve template options => ?_, fun e hresolve template options => ?_⟩
  · have hfault : (blueprint.here template (.handler handler) options).fallbackFault? =
        (blueprint.here template reference.toAction options).fallbackFault? := rfl
    have htemplate : (blueprint.here template (.handler handler) options).fullTemplate =
        (blueprint.here template reference.toAction options).fullTemplate := rfl
    rw [route_eq, route_eq, hfault, htemplate, haction, hresolve]
    cases (blueprint.here template reference.toAction options).fallbackFault? with
    | some e => rfl
    | none =>
      cases Pattern.compile
        (blueprint.here template reference.toAction options).fullTemplate "" <;> rfl
  · rw [route_eq, haction, hresolve]
    cases (blueprint.here template reference.toAction options).fallbackFault? <;> rfl

end Blueprint

namespace ActionRef

/-- A text is read as a reference exactly if it has at most one at sign and what stands before that is
    not blank; any other text is reported as it is. What is read are names: the two parts without the
    blanks at their ends, where a blank action is `Index`. The written form of a reference is read as
    the same reference exactly if it consists of names. So it is for every reference that was read, and
    declaring by it comes to what the controllers make of it. -/
theorem parse_exact (World : Type) :
    (∀ written : String,
      ((∃ reference, parse written = .ok reference) ↔
        written.toList.count '@' ≤ 1 ∧ ¬Text.IsBlankText (controllerPart written)) ∧
      (∀ e, parse written = .error e → e = .invalidAction written) ∧
      ∀ reference, parse written = .ok reference →
        reference.controller = Text.trim (controllerPart written) ∧
        (reference.action = if Text.IsBlankText (actionPart written) then "Index"
          else Text.trim (actionPart written)) ∧
        IsName reference.controller ∧ IsName reference.action ∧
        parse reference.text = .ok reference ∧
        ∀ blueprint : Blueprint World, blueprint.Follows reference) ∧
    ∀ controller action, parse (text ⟨controller, action⟩) = .ok ⟨controller, action⟩ ↔
      IsName controller ∧ IsName action := by
  refine ⟨fun written => ⟨?_, fun e => eq_invalidAction_of_parse, fun reference hparse => ?_⟩,
    fun controller action => parse_text_iff⟩
  · constructor
    · rintro ⟨reference, hparse⟩
      exact (parse_eq_ok_iff.mp hparse).1
    · intro hform
      exact ⟨⟨Text.trim (controllerPart written), _⟩, parse_eq_ok_iff.mpr ⟨hform, rfl, by dsimp only⟩⟩
  · obtain ⟨-, hcontroller, haction⟩ := parse_eq_ok_iff.mp hparse
    have hnames := isName_of_parse hparse
    have hagain : parse reference.text = .ok reference := parse_text_iff.mpr hnames
    exact ⟨hcontroller, haction, hnames.1, hnames.2, hagain,
      fun blueprint => blueprint.follows_of_parse hagain⟩

/-- Blanks around the controller, and nothing but blanks for the action. -/
theorem parse_exact_blanks :
    parse " Posts @ " = .ok ⟨"Posts", "Index"⟩ ∧
      parse (text ⟨"Posts", "Index"⟩) = .ok ⟨"Posts", "Index"⟩ ∧
      parse (text ⟨" Posts", "Index"⟩) ≠ .ok ⟨" Posts", "Index"⟩ := by
  obtain ⟨hread, hwritten⟩ := parse_exact Unit
  have hparse : parse " Posts @ " = .ok ⟨"Posts", "Index"⟩ := by decide +kernel
  refine ⟨hparse, ((hread " Posts @ ").2.2 _ hparse).2.2.2.2.1, ?_⟩
  rw [Ne, hwritten]
  intro hnames
  exact absurd hnames.1.trimmed (by decide)

end ActionRef

end HttpRouter
