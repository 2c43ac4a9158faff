import HttpRouter.Blueprint.Basic
import Mathlib.Tactic.Set

namespace HttpRouter

variable {World : Type}

/-- The options that count among layers of them, the innermost first. Each setting by itself is that
    of the first layer which sets it. -/
def RouteOptions.innermost (layers : List (RouteOptions World)) : RouteOptions World where
  method := layers.findSome? (·.method)
  guard := layers.findSome? (·.guard)
  fallback := layers.findSome? (·.fallback)

namespace Action

/-- The handler of an action among controllers, and the full reference to it if it is named. -/
def find? (controllers : Controllers World) : Action World → Option (Handler World × Option String)
  | .handler call => some (call, none)
  | named written => (ActionRef.parse written).toOption.bind fun reference =>
    (controllers.resolve reference).toOption.map fun handler => (handler, some reference.text)

/-- What is wrong with an action among controllers: the form of its reference, else the controller,
    else the action of that controller. -/
def fault? (controllers : Controllers World) : Action World → Option RouterError
  | handler _ => none
  | named written =>
    match ActionRef.parse written with
    | .error _ => some (.invalidAction written)
    | .ok reference =>
      if !controllers.contains reference.controller then
        some (.unknownController reference.controller)
      else if (controllers.resolve reference).toOption.isNone then
        some (.unknownAction reference.controller reference.action)
      else none

end Action

/-- A route as it is declared: the groups it stands in, the outermost first, its own template, action
    and options, and the controllers known at that point. -/
structure RouteDeclaration (World : Type) where
  groups : List (Scope World)
  template : String
  action : Action World
  options : RouteOptions World
  controllers : Controllers World

namespace RouteDeclaration

/-- The template with the texts of the groups in front of it. -/
def fullTemplate (declaration : RouteDeclaration World) : String :=
  .join (declaration.groups.map (·.mount)) ++ declaration.template

/-- The options that count for the route: its own, then those of the groups from the innermost on. -/
def settled (declaration : RouteDeclaration World) : RouteOptions World :=
  .innermost (declaration.options :: (declaration.groups.map (·.options)).reverse)

/-- The route that is registered, if nothing is wrong with the declaration. -/
def route? (declaration : RouteDeclaration World) : Option (Route World) :=
  if declaration.settled.fallback.all Http.isHeaderValue then do
    let (handler, action) ← declaration.action.find? declaration.controllers
    let pattern ← (Pattern.compile declaration.fullTemplate "").toOption
    return { pattern, handler, options := declaration.settled, action }
  else none

/-- What is wrong with the place that clients may be sent to. -/
def fallbackFault? (declaration : RouteDeclaration World) : Option RouterError :=
  declaration.settled.fallback.bind fun target =>
    if Http.isHeaderValue target then none else some (.invalidRedirect target)

/-- What is wrong with the template. -/
def templateFault? (declaration : RouteDeclaration World) : Option RouterError :=
  match Pattern.compile declaration.fullTemplate "" with
  | .error e => some e
  | .ok _ => none

/-- The first thing that is wrong with the declaration: the place that clients may be sent to, else
    the action, else the template. -/
def fault? (declaration : RouteDeclaration World) : Option RouterError :=
  declaration.fallbackFault? <|> declaration.action.fault? declaration.controllers <|>
    declaration.templateFault?

/-- The place that clients may be sent to can be sent in a header, or it is what is wrong. -/
theorem fallbackFault?_cases (declaration : RouteDeclaration World) :
    declaration.settled.fallback.all Http.isHeaderValue = true ∧ declaration.fallbackFault? = none ∨
      ∃ target, declaration.settled.fallback.all Http.isHeaderValue = false ∧
        declaration.fallbackFault? = some (.invalidRedirect target) := by
  unfold fallbackFault?
  cases declaration.settled.fallback with
  | none => exact .inl ⟨rfl, rfl⟩
  | some target =>
    by_cases htarget : Http.isHeaderValue target = true
    · exact .inl ⟨htarget, if_pos htarget⟩
    · exact .inr ⟨target, Bool.eq_false_iff.mpr htarget, if_neg htarget⟩

/-- What is known of a route that is registered: it matches the whole template, has the handler of its
    action with the full reference to it, and has the options that count, which name a place that can
    be sent. -/
structure Registers (declaration : RouteDeclaration World) (route : Route World) : Prop where
  compile : Pattern.compile declaration.fullTemplate "" = .ok route.pattern
  action : declaration.action.find? declaration.controllers = some (route.handler, route.action)
  options : route.options = declaration.settled
  fallback : route.options.fallback.all Http.isHeaderValue = true

theorem registers_of_route? (declaration : RouteDeclaration World) {route : Route World}
    (hroute : declaration.route? = some route) : declaration.Registers route := by
  unfold route? at hroute
  by_cases hfallback : declaration.settled.fallback.all Http.isHeaderValue = true
  · rw [if_pos hfallback] at hroute
    obtain ⟨found, hfound, hroute⟩ := Option.bind_eq_some_iff.mp hroute
    obtain ⟨pattern, hpattern, hroute⟩ := Option.bind_eq_some_iff.mp hroute
    cases hroute
    cases hcompile : Pattern.compile declaration.fullTemplate "" with
    | error e =>
      rw [hcompile] at hpattern
      cases hpattern
    | ok compiled =>
      rw [hcompile] at hpattern
      cases hpattern
      exact ⟨hcompile, hfound, rfl, hfallback⟩
  · rw [if_neg hfallback] at hroute
    cases hroute

/-- A route that is registered has the handler of its action and the full reference to it. -/
theorem find?_of_route? (declaration : RouteDeclaration World) {route : Route World}
    (hroute : declaration.route? = some route) :
    declaration.action.find? declaration.controllers = some (route.handler, route.action) :=
  (declaration.registers_of_route? hroute).action

/-- A route that is registered is what a table makes of the whole template and the options that
    count. -/
theorem add_of_route? (declaration : RouteDeclaration World) {route : Route World}
    (hroute : declaration.route? = some route) (table : RouteTable World) :
    ∃ added, table.add declaration.fullTemplate route.handler declaration.settled = .ok added ∧
      added.value.routes = table.routes ++ [{ route with action := none }] := by
  have hregisters := declaration.registers_of_route? hroute
  unfold RouteTable.add
  rw [hregisters.compile, ← hregisters.options]
  exact ⟨_, rfl, rfl⟩

end RouteDeclaration

/-- A declaration of a single route, or of the default handler among the controllers known at that
    point. -/
inductive FlatDeclaration (World : Type) where
  | route (declaration : RouteDeclaration World)
  | fallback (action : Action World) (controllers : Controllers World)

namespace FlatDeclaration

/-- The route that the declaration adds. -/
def route? : FlatDeclaration World → Option (Route World)
  | route declaration => declaration.route?
  | fallback .. => none

/-- The default handler that the declaration sets. -/
def default? : FlatDeclaration World → Option (Handler World)
  | route _ => none
  | fallback action controllers => (action.find? controllers).map (·.1)

/-- The error that the declaration leaves. -/
def fault? : FlatDeclaration World → Option RouterError
  | route declaration => declaration.fault?
  | fallback action controllers => action.fault? controllers

end FlatDeclaration

/-- The five routes of a resource: what each adds to the template, and the name of its action. -/
def Declaration.resourceRoutes : List (String × String) :=
  [("", "Index"), ("/add", "Create"), ("/view/int:id", "Read"), ("/edit/int:id", "Update"),
    ("/delete/int:id", "Destroy")]

namespace Declaration

/-- The single declarations that a declaration stands for within groups. -/
def flat (groups : List (Scope World)) (controllers : Controllers World) :
    Declaration World → List (FlatDeclaration World)
  | add template action options => [.route ⟨groups, template, action, options, controllers⟩]
  | resource base name options => resourceRoutes.map fun (suffix, action) =>
    .route ⟨groups, base ++ suffix, .named (name ++ "Controller" ++ "@" ++ action),
      { options with method := some .get }, controllers⟩
  | fallback action => [.fallback action controllers]
  | .controllers _ => []

section Single

variable (groups : List (Scope World)) (controllers : Controllers World) (template : String)
  (action : Action World) (options : RouteOptions World)

/-- A route that is asked for is a single route with its own options but for the method. -/
theorem flat_get : (Declaration.get template action options).flat groups controllers =
    [.route ⟨groups, template, action, { options with method := some .get }, controllers⟩] :=
  rfl

/-- A route that is submitted to is a single route with its own options but for the method. -/
theorem flat_post : (Declaration.post template action options).flat groups controllers =
    [.route ⟨groups, template, action, { options with method := some .post }, controllers⟩] :=
  rfl

/-- The route of the root path is a single route that sets no options of its own. -/
theorem flat_home : (Declaration.home action).flat groups controllers =
    [.route ⟨groups, "/", action, {}, controllers⟩] :=
  rfl

end Single

/-- The controllers known after a declaration. -/
def controllersAfter (before : Controllers World) : Declaration World → Controllers World
  | .controllers change => change before
  | _ => before

/-- Whether every route that a declaration stands for is limited to a method, whatever the options of
    the declaration and of the groups around it say. -/
def Limits (declaration : Declaration World) (method : Http.Method) : Prop :=
  ∀ groups controllers route, .route route ∈ declaration.flat groups controllers →
    route.settled.method = some method

/-- The method that a route sets itself counts before those of the groups around it. -/
theorem Limits.add (template : String) (action : Action World) (options : RouteOptions World)
    {method : Http.Method} (hmethod : options.method = some method) :
    (Declaration.add template action options).Limits method := by
  intro groups controllers route hroute
  cases List.mem_singleton.mp hroute
  simp [RouteDeclaration.settled, RouteOptions.innermost, hmethod]

theorem Limits.resource (base name : String) (options : RouteOptions World) :
    (Declaration.resource base name options).Limits .get := by
  intro groups controllers route hroute
  obtain ⟨_, _, heq⟩ := List.mem_map.mp hroute
  cases heq
  rfl

end Declaration

namespace Declarations

/-- The controllers known after declarations. -/
def controllersAfter (before : Controllers World) : Declarations World → Controllers World
  | done => before
  | declare declaration rest => rest.controllersAfter (declaration.controllersAfter before)
  | group _ _ body rest => rest.controllersAfter (body.controllersAfter before)

/-- The single declarations of a tree in order, within groups. -/
def flat (groups : List (Scope World)) (controllers : Controllers World) :
    Declarations World → List (FlatDeclaration World)
  | done => []
  | declare declaration rest => declaration.flat groups controllers ++
    rest.flat groups (declaration.controllersAfter controllers)
  | group mount options body rest => body.flat (groups ++ [⟨mount, options⟩]) controllers ++
    rest.flat groups (body.controllersAfter controllers)

end Declarations

/-- Nothing is lost when the texts before a template are made part of it. -/
theorem Pattern.compile_mount (template mount : String) :
    Pattern.compile template mount = Pattern.compile (mount ++ template) "" := by
  simp [Pattern.compile]

/-- Looking a controller and its action up finds a handler, misses the controller, or misses the
    action. -/
theorem Controllers.resolve_cases (controllers : Controllers World) (reference : ActionRef) :
    (∃ handler, controllers.resolve reference = .ok handler ∧
        controllers.contains reference.controller = true) ∨
      controllers.resolve reference = .error (.unknownController reference.controller) ∧
        controllers.contains reference.controller = false ∨
      controllers.resolve reference =
          .error (.unknownAction reference.controller reference.action) ∧
        controllers.contains reference.controller = true := by
  unfold Controllers.resolve Controllers.contains
  cases Assoc.find? (Http.lowerCase reference.controller) controllers.entries with
  | none => exact .inr (.inl ⟨rfl, rfl⟩)
  | some actions =>
    dsimp only
    cases Assoc.find? (Http.lowerCase reference.action) actions with
    | none => exact .inr (.inr ⟨rfl, rfl⟩)
    | some handler => exact .inl ⟨handler, rfl, rfl⟩

/-- Setting the default handler keeps the routes. -/
theorem RouteTable.setDefault_value (table : RouteTable World) (handler : Handler World) :
    (table.setDefault handler).value = { table with default := some handler } := by
  unfold setDefault
  split <;> rfl

/-- A reference that cannot be read is reported as it is written. -/
theorem ActionRef.eq_invalidAction_of_parse {written : String} {e : RouterError}
    (h : ActionRef.parse written = .error e) : e = .invalidAction written := by
  unfold ActionRef.parse at h
  dsimp only at h
  split at h
  · cases h
    rfl
  · cases h

namespace RouteOptions

/-- A layer that stands for two of them may be replaced by the two. -/
private theorem findSome?_concat_or {Layer Setting : Type} (setting : Layer → Option Setting)
    (layers : List Layer) (inner outer merged : Layer)
    (hmerged : setting merged = (setting inner).or (setting outer)) :
    (layers ++ [merged]).findSome? setting = (layers ++ [inner, outer]).findSome? setting := by
  rw [List.findSome?_append, List.findSome?_append]
  congr 1
  cases hinner : setting inner with
  | none => simp [List.findSome?_cons, hmerged, hinner]
  | some value => simp [hmerged, hinner]

/-- Options that are merged count as the inner layer with the outer one behind it. -/
theorem innermost_merge (layers : List (RouteOptions World)) (outer inner : RouteOptions World) :
    innermost (layers ++ [outer.merge inner]) = innermost (layers ++ [inner, outer]) := by
  have hmethod := findSome?_concat_or (·.method) layers inner outer (outer.merge inner)
    Option.orElse_eq_or
  have hguard := findSome?_concat_or (·.guard) layers inner outer (outer.merge inner)
    Option.orElse_eq_or
  have hfallback := findSome?_concat_or (·.fallback) layers inner outer
    (outer.merge inner) Option.orElse_eq_or
  unfold innermost
  rw [hmethod, hguard, hfallback]

/-- Options that set nothing do not count. -/
theorem innermost_concat_empty (layers : List (RouteOptions World)) :
    innermost (layers ++ [({ } : RouteOptions World)]) = innermost layers := by
  simp [innermost, List.findSome?_append]

/-- Merging the options of groups from the outermost one inwards gives the innermost settings. -/
theorem foldl_merge (scopes : List (Scope World)) (outer : RouteOptions World) :
    scopes.foldl (fun outer scope => outer.merge scope.options) outer =
      innermost ((scopes.map (·.options)).reverse ++ [outer]) := by
  induction scopes generalizing outer with
  | nil => simp [innermost]
  | cons scope rest ih =>
    rw [List.foldl_cons, ih, innermost_merge]
    simp

end RouteOptions

namespace Blueprint

/-- The options of a declaration are merged with those of the groups as their innermost layer. -/
theorem merge_options (blueprint : Blueprint World) (options : RouteOptions World) :
    blueprint.options.merge options =
      .innermost (options :: (blueprint.scopes.map (·.options)).reverse) := by
  have hmerged := RouteOptions.foldl_merge (blueprint.scopes ++ [⟨"", options⟩]) {}
  rw [List.foldl_append, RouteOptions.innermost_concat_empty] at hmerged
  simpa [Blueprint.options] using hmerged

/-- A reference that can be read stands for what the controllers make of it. -/
theorem resolveAction_named (blueprint : Blueprint World) {written : String} {reference : ActionRef}
    (hparse : ActionRef.parse written = .ok reference) :
    blueprint.resolveAction (.named written) =
      (blueprint.controllers.resolve reference).map fun handler =>
        (handler, some reference.text) := by
  simp only [resolveAction, hparse]
  change (blueprint.controllers.resolve reference >>= fun handler =>
    pure (handler, some reference.text)) = _
  cases blueprint.controllers.resolve reference <;> rfl

/-- An action is resolved if nothing is wrong with it, and otherwise the error is what is wrong. -/
theorem resolveAction_cases (blueprint : Blueprint World) (action : Action World) :
    (∃ found, blueprint.resolveAction action = .ok found ∧
        action.find? blueprint.controllers = some found ∧
        action.fault? blueprint.controllers = none) ∨
      ∃ e, blueprint.resolveAction action = .error e ∧ action.find? blueprint.controllers = none ∧
        action.fault? blueprint.controllers = some e := by
  cases action with
  | handler call => exact .inl ⟨(call, none), rfl, rfl, rfl⟩
  | named written =>
    cases hparse : ActionRef.parse written with
    | error e =>
      have hinvalid := ActionRef.eq_invalidAction_of_parse hparse
      refine .inr ⟨e, ?_, ?_, ?_⟩
      · simp only [resolveAction, hparse]
        rfl
      · simp only [Action.find?, hparse]
        rfl
      · simp only [Action.fault?, hparse, hinvalid]
    | ok reference =>
      have hfound : Action.find? blueprint.controllers (.named written) =
          (blueprint.controllers.resolve reference).toOption.map fun handler =>
            (handler, some reference.text) := by
        simp only [Action.find?, hparse]
        rfl
      rw [blueprint.resolveAction_named hparse, hfound]
      simp only [Action.fault?, hparse]
      obtain ⟨handler, hresolve, hknown⟩ | ⟨hresolve, hknown⟩ | ⟨hresolve, hknown⟩ :=
        blueprint.controllers.resolve_cases reference
      · rw [hresolve, hknown]
        exact .inl ⟨(handler, some reference.text), rfl, rfl, rfl⟩
      · rw [hresolve, hknown]
        exact .inr ⟨.unknownController reference.controller, rfl, rfl, rfl⟩
      · rw [hresolve, hknown]
        exact .inr ⟨.unknownAction reference.controller reference.action, rfl, rfl, rfl⟩

/-- A single route as it is declared at this point. -/
def here (blueprint : Blueprint World) (template : String) (action : Action World)
    (options : RouteOptions World) : RouteDeclaration World :=
  ⟨blueprint.scopes, template, action, options, blueprint.controllers⟩

/-- A route is made from its declaration alone: the place that clients may be sent to is checked, and
    the action and the template are read. -/
theorem route_eq (blueprint : Blueprint World) (template : String) (action : Action World)
    (options : RouteOptions World) :
    blueprint.route template action options =
      match (blueprint.here template action options).fallbackFault? with
      | some e => .error e
      | none => do
        let (handler, name) ← blueprint.resolveAction action
        let pattern ← Pattern.compile (blueprint.here template action options).fullTemplate ""
        return { pattern, handler, options := (blueprint.here template action options).settled,
                 action := name } := by
  have hmount : blueprint.mount ++ template = (blueprint.here template action options).fullTemplate :=
    rfl
  have hsettled : blueprint.options.merge options =
      (blueprint.here template action options).settled := blueprint.merge_options options
  unfold Blueprint.route RouteDeclaration.fallbackFault?
  rw [Pattern.compile_mount, hmount, hsettled]
  cases hfallback : (blueprint.here template action options).settled.fallback with
  | none =>
    dsimp only
    rw [hfallback]
    rfl
  | some target =>
    dsimp only
    rw [hfallback]
    cases htarget : Http.isHeaderValue target with
    | true =>
      simp only [Option.bind_some, htarget]
      rfl
    | false =>
      simp only [Option.bind_some, htarget]
      rfl

/-- A route is made if nothing is wrong with its declaration, and otherwise the error is what is
    wrong. -/
theorem route_cases (blueprint : Blueprint World) (template : String) (action : Action World)
    (options : RouteOptions World) :
    (∃ route, blueprint.route template action options = .ok route ∧
        (blueprint.here template action options).route? = some route ∧
        (blueprint.here template action options).fault? = none) ∨
      ∃ e, blueprint.route template action options = .error e ∧
        (blueprint.here template action options).route? = none ∧
        (blueprint.here template action options).fault? = some e := by
  set here := blueprint.here template action options
  have hcontrollers : here.controllers = blueprint.controllers := rfl
  have haction : here.action = action := rfl
  rw [route_eq]
  unfold RouteDeclaration.route? RouteDeclaration.fault?
  rw [hcontrollers, haction]
  obtain ⟨hall, hfault⟩ | ⟨target, hall, hfault⟩ := here.fallbackFault?_cases
  · rw [hall, hfault]
    obtain ⟨found, hresolve, hfound, haction⟩ | ⟨e, hresolve, hfound, haction⟩ :=
      blueprint.resolveAction_cases action
    · rw [hresolve, hfound, haction]
      unfold RouteDeclaration.templateFault?
      cases hcompile : Pattern.compile here.fullTemplate "" with
      | ok pattern => exact .inl ⟨_, rfl, rfl, rfl⟩
      | error e => exact .inr ⟨e, rfl, rfl, rfl⟩
    · rw [hresolve, hfound, haction]
      exact .inr ⟨e, rfl, rfl, rfl⟩
  · rw [hall, hfault]
    exact .inr ⟨.invalidRedirect target, rfl, rfl, rfl⟩

/-- The state with one more route, behind all others. -/
def withRoute (blueprint : Blueprint World) (route : Route World) : Blueprint World :=
  { blueprint with table := { blueprint.table with routes := blueprint.table.routes ++ [route] } }

/-- The state with another handler for the requests that no route takes. -/
def withDefault (blueprint : Blueprint World) (handler : Handler World) : Blueprint World :=
  { blueprint with table := { blueprint.table with default := some handler } }

/-- The state with one more error, behind all others. -/
def withError (blueprint : Blueprint World) (e : RouterError) : Blueprint World :=
  { blueprint with errors := blueprint.errors ++ [e] }

/-- A single route is added if nothing is wrong with it, and otherwise one error is recorded. Nothing
    else changes. -/
theorem register_cases (blueprint : Blueprint World) (template : String) (action : Action World)
    (options : RouteOptions World) :
    (∃ route, (blueprint.here template action options).route? = some route ∧
        (blueprint.here template action options).fault? = none ∧
        (blueprint.register template action options).value = blueprint.withRoute route) ∨
      ∃ e, (blueprint.here template action options).route? = none ∧
        (blueprint.here template action options).fault? = some e ∧
        (blueprint.register template action options).value = blueprint.withError e := by
  unfold register
  obtain ⟨route, hroute, hroute?, hfault?⟩ | ⟨e, hroute, hroute?, hfault?⟩ :=
    blueprint.route_cases template action options
  · rw [hroute]
    exact .inl ⟨route, hroute?, hfault?, rfl⟩
  · rw [hroute]
    exact .inr ⟨e, hroute?, hfault?, rfl⟩

/-- The default handler is replaced if nothing is wrong with the new one, and otherwise one error is
    recorded. Nothing else changes. -/
theorem setFallback_cases (blueprint : Blueprint World) (action : Action World) :
    (∃ found, action.find? blueprint.controllers = some found ∧
        action.fault? blueprint.controllers = none ∧
        (blueprint.setFallback action).value = blueprint.withDefault found.1) ∨
      ∃ e, action.find? blueprint.controllers = none ∧
        action.fault? blueprint.controllers = some e ∧
        (blueprint.setFallback action).value = blueprint.withError e := by
  unfold setFallback
  obtain ⟨found, hresolve, hfound, hfault⟩ | ⟨e, hresolve, hfound, hfault⟩ :=
    blueprint.resolveAction_cases action
  · have hdefault := blueprint.table.setDefault_value found.1
    rw [hresolve]
    refine .inl ⟨found, hfound, hfault, ?_⟩
    unfold withDefault
    rw [← hdefault]
    rfl
  · rw [hresolve]
    exact .inr ⟨e, hfound, hfault, rfl⟩

/-- The state after single declarations: their routes are behind all others and their errors behind
    all others, and the last handler that they set is the default one. -/
def takeAll (blueprint : Blueprint World) (declarations : List (FlatDeclaration World)) :
    Blueprint World :=
  { blueprint with
    table := ⟨blueprint.table.routes ++ declarations.filterMap (·.route?),
      (declarations.filterMap (·.default?)).getLast?.or blueprint.table.default⟩
    errors := blueprint.errors ++ declarations.filterMap (·.fault?) }

theorem takeAll_nil (blueprint : Blueprint World) : blueprint.takeAll [] = blueprint := by
  simp [takeAll]

theorem takeAll_append (blueprint : Blueprint World)
    (first second : List (FlatDeclaration World)) :
    blueprint.takeAll (first ++ second) = (blueprint.takeAll first).takeAll second := by
  simp [takeAll, List.getLast?_append, Option.or_assoc]

/-- Declaring a single route takes it as it is declared at this point. -/
theorem register_value (blueprint : Blueprint World) (template : String) (action : Action World)
    (options : RouteOptions World) :
    (blueprint.register template action options).value =
      blueprint.takeAll [.route (blueprint.here template action options)] := by
  obtain ⟨route, hroute, hfault, hvalue⟩ | ⟨e, hroute, hfault, hvalue⟩ :=
    blueprint.register_cases template action options
  · simp [hvalue, withRoute, takeAll, FlatDeclaration.route?, FlatDeclaration.default?,
      FlatDeclaration.fault?, hroute, hfault]
  · simp [hvalue, withError, takeAll, FlatDeclaration.route?, FlatDeclaration.default?,
      FlatDeclaration.fault?, hroute, hfault]

/-- Declaring the default handler takes it among the controllers known at this point. -/
theorem setFallback_value (blueprint : Blueprint World) (action : Action World) :
    (blueprint.setFallback action).value =
      blueprint.takeAll [.fallback action blueprint.controllers] := by
  obtain ⟨found, hfound, hfault, hvalue⟩ | ⟨e, hfound, hfault, hvalue⟩ :=
    blueprint.setFallback_cases action
  · simp [hvalue, withDefault, takeAll, FlatDeclaration.route?, FlatDeclaration.default?,
      FlatDeclaration.fault?, hfound, hfault]
  · simp [hvalue, withError, takeAll, FlatDeclaration.route?, FlatDeclaration.default?,
      FlatDeclaration.fault?, hfound, hfault]

/-- A resource is its five routes for requests that ask for something, one after the other. -/
theorem registerResource_value (blueprint : Blueprint World) (base name : String)
    (options : RouteOptions World) :
    (blueprint.registerResource base name options).value =
      Declaration.resourceRoutes.foldl (fun blueprint (suffix, action) =>
        (blueprint.declare (.get (base ++ suffix)
          (.named (name ++ "Controller" ++ "@" ++ action)) options)).value) blueprint :=
  rfl

/-- Declaring a resource takes its five routes, all as they are declared at this point. -/
theorem registerResource_takeAll (blueprint : Blueprint World) (base name : String)
    (options : RouteOptions World) :
    (blueprint.registerResource base name options).value =
      blueprint.takeAll ((Declaration.resource base name options).flat blueprint.scopes
        blueprint.controllers) := by
  rw [registerResource_value]
  simp only [Declaration.flat]
  -- A route that is taken, or refused, leaves the groups and the controllers as they are, so that the
  -- next one is declared as if it were the first.
  generalize Declaration.resourceRoutes = routes
  induction routes generalizing blueprint with
  | nil => exact blueprint.takeAll_nil.symm
  | cons route rest ih =>
    obtain ⟨suffix, action⟩ := route
    have hget : (blueprint.declare (.get (base ++ suffix)
        (.named (name ++ "Controller" ++ "@" ++ action)) options)).value = _ :=
      blueprint.register_value (base ++ suffix) (.named (name ++ "Controller" ++ "@" ++ action))
        { options with method := some .get }
    rw [List.foldl_cons, ih, hget, List.map_cons]
    exact (blueprint.takeAll_append [_] _).symm

/-- A single declaration is taken as the list it stands for, and changes the controllers behind it. -/
theorem declare_value (blueprint : Blueprint World) (declaration : Declaration World) :
    (blueprint.declare declaration).value =
      { blueprint.takeAll (declaration.flat blueprint.scopes blueprint.controllers) with
        controllers := declaration.controllersAfter blueprint.controllers } := by
  cases declaration with
  | add template action options => exact blueprint.register_value template action options
  | resource base name options => exact blueprint.registerResource_takeAll base name options
  | fallback action => exact blueprint.setFallback_value action
  | controllers change =>
    unfold Declaration.flat
    rw [takeAll_nil]
    rfl

/-- Declaring a tree takes its declarations as the flat list they stand for, and ends in the groups
    it began in. -/
theorem declareAll_value (blueprint : Blueprint World) (declarations : Declarations World) :
    (blueprint.declareAll declarations).value =
      { blueprint.takeAll (declarations.flat blueprint.scopes blueprint.controllers) with
        controllers := declarations.controllersAfter blueprint.controllers } := by
  induction declarations generalizing blueprint with
  | done => exact blueprint.takeAll_nil.symm
  | declare declaration rest ih =>
    change ((blueprint.declare declaration).value.declareAll rest).value = _
    rw [ih, declare_value, Declarations.flat, takeAll_append]
    rfl
  | group mount options body rest ihBody ihRest =>
    -- The body ends in the groups it began in, so that the one to be left is the one entered.
    have hleft : ((blueprint.enter mount options).declareAll body).value.leave =
        { blueprint.takeAll (body.flat (blueprint.scopes ++ [⟨mount, options⟩])
            blueprint.controllers) with
          controllers := body.controllersAfter blueprint.controllers } := by
      rw [ihBody]
      unfold leave takeAll enter
      rw [List.dropLast_concat]
    change (((blueprint.enter mount options).declareAll body).value.leave.declareAll rest).value = _
    rw [ihRest, hleft, Declarations.flat, takeAll_append]
    rfl

/-- Declaring a tree gives the routes of the flat list that it stands for, in that order, and the last
    accepted handler for other requests is the default one. Nothing that is declared later changes a
    route, and behind a group the groups are those before it. The declarations that fix the method or
    the template stand for one route each. -/
theorem declareAll_flat (controllers : Controllers World) (declarations : Declarations World) :
    let declared := (({ controllers } : Blueprint World).declareAll declarations).value
    let flat := declarations.flat [] controllers
    declared.table.routes = flat.filterMap (·.route?) ∧
      declared.table.default = (flat.filterMap (·.default?)).getLast? ∧
      (∀ (declaration : RouteDeclaration World) (route : Route World) (table : RouteTable World),
        declaration.route? = some route →
          declaration.action.find? declaration.controllers = some (route.handler, route.action) ∧
            ∃ added, table.add declaration.fullTemplate route.handler declaration.settled = .ok added ∧
              added.value.routes = table.routes ++ [{ route with action := none }]) ∧
      (∀ later, declared.table.routes <+: (declared.declareAll later).value.table.routes) ∧
      (∀ (blueprint : Blueprint World) mount options body,
        ((blueprint.enter mount options).declareAll body).value.leave.scopes = blueprint.scopes) ∧
      (∀ (template : String) (action : Action World) options,
        (Declaration.get template action options).Limits .get ∧
          (Declaration.post template action options).Limits .post) ∧
      (∀ base name (options : RouteOptions World),
        (Declaration.resource base name options).Limits .get) ∧
      ∀ (groups : List (Scope World)) (known : Controllers World) (template : String)
        (action : Action World) (options : RouteOptions World),
          (Declaration.get template action options).flat groups known =
              [.route ⟨groups, template, action, { options with method := some .get }, known⟩] ∧
            (Declaration.post template action options).flat groups known =
              [.route ⟨groups, template, action, { options with method := some .post }, known⟩] ∧
            (Declaration.home action).flat groups known =
              [.route ⟨groups, "/", action, {}, known⟩] := by
  intro declared flat
  have hdeclared := ({ controllers } : Blueprint World).declareAll_value declarations
  refine ⟨?_, ?_, ?_, ?_, ?_, ?_, ?_, ?_⟩
  · simp only [declared, hdeclared]
    rfl
  · simp only [declared, hdeclared]
    exact Option.or_none
  · intro declaration route table hroute
    exact ⟨declaration.find?_of_route? hroute, declaration.add_of_route? hroute table⟩
  · intro later
    rw [declareAll_value]
    exact List.prefix_append _ _
  · intro blueprint mount options body
    rw [declareAll_value]
    exact List.dropLast_concat
  · intro template action options
    exact ⟨.add template action _ rfl, .add template action _ rfl⟩
  · intro base name options
    exact .resource base name options
  · intro groups known template action options
    exact ⟨Declaration.flat_get .., Declaration.flat_post .., Declaration.flat_home ..⟩

/-- A group for users who are logged in, and in it a group that sends refused clients to the root. -/
def adminGroups : List (Scope Nat) :=
  [⟨"/admin", { guard := some .authenticated, fallback := some "/login" }⟩,
    ⟨"/users", { fallback := some "/" }⟩]

/-- A route in both groups, declared behind one whose controller is not known. -/
def adminTree : Declarations Nat :=
  .group "/admin" { guard := some .authenticated, fallback := some "/login" }
    (.declare (.get "/log" (.named "Log"))
      (.group "/users" { fallback := some "/" }
        (.declare (.get "/int:id" (.handler .notFound)) .done) .done)) .done

theorem declareAll_flat_admin :
    ∃ route, (({ } : Blueprint Nat).declareAll adminTree).value.table.routes = [route] ∧
      ∃ added, RouteTable.empty.add "/admin/users/int:id" .notFound
          { method := some .get, guard := some .authenticated, fallback := some "/" } = .ok added ∧
        added.value.routes = [{ route with action := none }] := by
  let unknown : RouteDeclaration Nat :=
    ⟨adminGroups.take 1, "/log", .named "Log", { method := some .get }, .empty⟩
  let record : RouteDeclaration Nat :=
    ⟨adminGroups, "/int:id", .handler .notFound, { method := some .get }, .empty⟩
  have hunknown : unknown.route? = none := Option.isNone_iff_eq_none.mp (by decide +kernel)
  obtain ⟨route, hroute⟩ : ∃ route, record.route? = some route :=
    Option.isSome_iff_exists.mp (by decide +kernel)
  obtain ⟨hroutes, -, hmade, -⟩ := declareAll_flat .empty adminTree
  obtain ⟨hfound, added, hadded, happended⟩ := hmade record route .empty hroute
  have hhandler : route.handler = .notFound := congrArg Prod.fst (Option.some.inj hfound).symm
  have hflat : adminTree.flat [] .empty = [.route unknown, .route record] := rfl
  refine ⟨route, ?_, added, ?_, happended⟩
  · rw [hroutes, hflat]
    simp [FlatDeclaration.route?, hunknown, hroute]
  · rw [← hadded, hhandler]
    rfl

end Blueprint

end HttpRouter
