import HttpRouter.Controllers.Basic
import HttpRouter.Proofs.LastWrite

namespace HttpRouter

variable {World : Type}

namespace Controllers

/-- Whether two names differ in nothing but the case of their letters. -/
def SameName (a b : String) : Prop :=
  Http.lowerCase a = Http.lowerCase b

instance : DecidableRel SameName :=
  fun a b => inferInstanceAs (Decidable (Http.lowerCase a = Http.lowerCase b))

/-- The handler of an action of a controller. -/
def find? (controllers : Controllers World) (controller action : String) : Option (Handler World) :=
  (Assoc.find? (Http.lowerCase controller) controllers.entries).bind
    (Assoc.find? (Http.lowerCase action))

/-- A reference stands for the handler that is found under its names. Where there is none, the error
    tells whether the controller is known. -/
theorem resolve_eq (controllers : Controllers World) (reference : ActionRef) :
    controllers.resolve reference =
      match controllers.find? reference.controller reference.action with
      | some handler => .ok handler
      | none =>
        if controllers.contains reference.controller then
          .error (.unknownAction reference.controller reference.action)
        else .error (.unknownController reference.controller) := by
  unfold resolve find? contains
  cases Assoc.find? (Http.lowerCase reference.controller) controllers.entries with
  | none => rfl
  | some actions =>
    rw [Option.bind_some]
    cases hfound : Assoc.find? (Http.lowerCase reference.action) actions with
    | none => simp only [hfound]; rfl
    | some handler => simp only [hfound]

/-- A registered handler is found under its names, and every other one is found as before. -/
theorem find?_register (controllers : Controllers World) (controller action : String)
    (handler : Handler World) (otherController otherAction : String) :
    (controllers.register controller action handler).find? otherController otherAction =
      if SameName controller otherController ∧ SameName action otherAction then some handler
      else controllers.find? otherController otherAction := by
  unfold find? register
  rw [Assoc.find?_put]
  by_cases hcontroller : Http.lowerCase controller = Http.lowerCase otherController
  · rw [if_pos hcontroller, Option.bind_some, Assoc.find?_put]
    by_cases haction : Http.lowerCase action = Http.lowerCase otherAction
    · have hsame : SameName controller otherController ∧ SameName action otherAction :=
        ⟨hcontroller, haction⟩
      rw [if_pos haction, if_pos hsame]
    · have hdiffer : ¬(SameName controller otherController ∧ SameName action otherAction) :=
        fun h => haction h.2
      rw [if_neg haction, if_neg hdiffer, ← hcontroller]
      cases Assoc.find? (Http.lowerCase controller) controllers.entries <;> rfl
  · have hdiffer : ¬(SameName controller otherController ∧ SameName action otherAction) :=
      fun h => hcontroller h.1
    rw [if_neg hcontroller, if_neg hdiffer]

end Controllers

namespace Controllers

/-- A registration with a table of controllers: of a single action, or of a resource. -/
inductive Registration (World : Type) where
  | action (controller action : String) (handler : Handler World)
  | resource (controller : String) (handlers : ResourceController World)

/-- The controller that a registration is for. -/
def Registration.controller : Registration World → String
  | action controller _ _ => controller
  | resource controller _ => controller

/-- The table after a registration. -/
def take (controllers : Controllers World) : Registration World → Controllers World
  | .action controller action handler => controllers.register controller action handler
  | .resource controller handlers => controllers.registerResource controller handlers

/-- The table after registrations, one after the other. -/
def takeAll (controllers : Controllers World) (registrations : List (Registration World)) :
    Controllers World :=
  registrations.foldl take controllers

end Controllers

end HttpRouter
