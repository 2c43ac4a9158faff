import HttpRouter.Proofs.Blueprint.Flat

namespace HttpRouter

variable {World : Type}

/-- A single route is registered or something is wrong with it, never both and never neither. -/
theorem RouteDeclaration.route?_or_fault? (declaration : RouteDeclaration World) :
    (∃ route, declaration.route? = some route ∧ declaration.fault? = none) ∨
      ∃ e, declaration.route? = none ∧ declaration.fault? = some e := by
  obtain ⟨groups, template, action, options, controllers⟩ := declaration
  obtain ⟨route, _, hroute, hfault⟩ | ⟨e, _, hroute, hfault⟩ :=
    Blueprint.route_cases { scopes := groups, controllers } template action options
  · exact .inl ⟨route, hroute, hfault⟩
  · exact .inr ⟨e, hroute, hfault⟩

namespace FlatDeclaration

/-- Whether a declaration is one of a route. -/
def isRoute : FlatDeclaration World → Bool
  | route _ => true
  | fallback .. => false

/-- Each route declared is registered or leaves an error. -/
theorem length_routes_add_faults (declarations : List (FlatDeclaration World)) :
    (declarations.filterMap (·.route?)).length +
        ((declarations.filter (·.isRoute)).filterMap (·.fault?)).length =
      declarations.countP (·.isRoute) := by
  induction declarations with
  | nil => rfl
  | cons declaration rest ih =>
    cases declaration with
    | fallback action controllers =>
      rw [List.filterMap_cons_none rfl, List.filter_cons_of_neg Bool.false_ne_true,
        List.countP_cons_of_neg Bool.false_ne_true]
      exact ih
    | route declaration =>
      have hcases : (∃ added, (route declaration).route? = some added ∧
            (route declaration).fault? = none) ∨
          ∃ e, (route declaration).route? = none ∧ (route declaration).fault? = some e :=
        declaration.route?_or_fault?
      rw [List.filter_cons_of_pos rfl, List.countP_cons_of_pos rfl]
      obtain ⟨added, hroute, hfault⟩ | ⟨e, hroute, hfault⟩ := hcases
      · simp only [List.filterMap_cons, hroute, hfault, List.length_cons]
        omega
      · simp only [List.filterMap_cons, hroute, hfault, List.length_cons]
        omega

end FlatDeclaration

/-- The number of single routes that a declaration stands for. -/
def Declaration.routeCount : Declaration World → Nat
  | add .. => 1
  | resource .. => 5
  | fallback _ => 0
  | .controllers _ => 0

/-- The number of single routes that are declared in a tree. -/
def Declarations.routeCount : Declarations World → Nat
  | done => 0
  | declare declaration rest => declaration.routeCount + rest.routeCount
  | group _ _ body rest => body.routeCount + rest.routeCount

theorem Declaration.countP_flat (declaration : Declaration World) (groups : List (Scope World))
    (controllers : Controllers World) :
    (declaration.flat groups controllers).countP (·.isRoute) = declaration.routeCount := by
  cases declaration <;> rfl

theorem Declarations.countP_flat (declarations : Declarations World) (groups : List (Scope World))
    (controllers : Controllers World) :
    (declarations.flat groups controllers).countP (·.isRoute) = declarations.routeCount := by
  induction declarations generalizing groups controllers with
  | done => rfl
  | declare declaration rest ih =>
    rw [flat, List.countP_append, declaration.countP_flat, ih, routeCount]
  | group mount options body rest ihBody ihRest =>
    rw [flat, List.countP_append, ihBody, ihRest, routeCount]

namespace Blueprint

/-- Building fails with the first error that was recorded, if there is one. -/
theorem build_eq_error_iff (blueprint : Blueprint World) (e : RouterError) :
    blueprint.build = .error e ↔ blueprint.errors.head? = some e := by
  unfold build toTable
  cases blueprint.errors with
  | nil => simp [Except.map]
  | cons first rest => simp [Except.map]

/-- Building succeeds if no error was recorded. -/
theorem exists_build_eq_ok_iff (blueprint : Blueprint World) :
    (∃ router, blueprint.build = .ok router) ↔ blueprint.errors = [] := by
  unfold build toTable
  cases blueprint.errors with
  | nil => simp [Except.map]
  | cons first rest => simp [Except.map]

/-- No declaration is lost or takes effect in part: each route, those of a resource one by one, and each
    handler for other requests is accepted as a whole or leaves one error. A router is built if all of
    them are accepted, and otherwise the outcome is what is wrong with the first one that is not. -/
theorem declareAll_accounts (controllers : Controllers World) (declarations : Declarations World) :
    let declared := (({ controllers } : Blueprint World).declareAll declarations).value
    let flat := declarations.flat [] controllers
    (∀ (blueprint : Blueprint World) template action options,
        let declaration := blueprint.here template action options
        let after := (blueprint.declare (.add template action options)).value
        (∃ route, declaration.route? = some route ∧ declaration.fault? = none ∧
            after = blueprint.withRoute route) ∨
          ∃ e, declaration.route? = none ∧ declaration.fault? = some e ∧
            after = blueprint.withError e) ∧
      (∀ (blueprint : Blueprint World) base name options,
        let gets := Declaration.resourceRoutes.map fun (suffix, action) =>
          (base ++ suffix, (.named (name ++ "Controller" ++ "@" ++ action) : Action World))
        let after := (blueprint.declare (.resource base name options)).value
        after = gets.foldl (fun blueprint (template, action) =>
            (blueprint.declare (.get template action options)).value) blueprint ∧
          after = blueprint.takeAll (gets.map fun (template, action) =>
            .route (blueprint.here template action { options with method := some .get }))) ∧
      (∀ (blueprint : Blueprint World) action,
        let after := (blueprint.declare (.fallback action)).value
        (∃ found, action.find? blueprint.controllers = some found ∧
            action.fault? blueprint.controllers = none ∧ after = blueprint.withDefault found.1) ∨
          ∃ e, action.find? blueprint.controllers = none ∧
            action.fault? blueprint.controllers = some e ∧ after = blueprint.withError e) ∧
      declared.errors = flat.filterMap (·.fault?) ∧
      declared.table.routes.length +
          ((flat.filter (·.isRoute)).filterMap (·.fault?)).length = declarations.routeCount ∧
      ((∃ router, declared.build = .ok router) ↔ ∀ declaration ∈ flat, declaration.fault? = none) ∧
      ∀ e, declared.build = .error e ↔ flat.findSome? (·.fault?) = some e := by
  intro declared flat
  have hdeclared := ({ controllers } : Blueprint World).declareAll_value declarations
  have hroutes : declared.table.routes = flat.filterMap (·.route?) := by
    simp only [declared, hdeclared]
    rfl
  have herrors : declared.errors = flat.filterMap (·.fault?) := by
    simp only [declared, hdeclared]
    rfl
  refine ⟨?_, ?_, ?_, herrors, ?_, ?_, ?_⟩
  · intro blueprint template action options
    exact blueprint.register_cases template action options
  · intro blueprint base name options
    refine ⟨?_, ?_⟩
    · rw [List.foldl_map]
      exact blueprint.registerResource_value base name options
    · rw [List.map_map]
      exact blueprint.registerResource_takeAll base name options
  · intro blueprint action
    exact blueprint.setFallback_cases action
  · rw [hroutes, FlatDeclaration.length_routes_add_faults]
    exact declarations.countP_flat [] controllers
  · rw [exists_build_eq_ok_iff, herrors]
    exact List.filterMap_eq_nil_iff
  · intro e
    rw [build_eq_error_iff, herrors, List.head?_filterMap]

end Blueprint

end HttpRouter
