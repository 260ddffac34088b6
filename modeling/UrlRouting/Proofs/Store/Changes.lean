import UrlRouting.Proofs.Store.Calls

/-!
# Routes after any calls

A route is at any time what is built of its declaration, with the calls that were accepted put into
it one after another (`Store.route_follows_changes`).  Calls for all routes of a table come to calls
for single routes.
-/

namespace UrlRouting

/-! ### Declarations that change -/

namespace Declaration

theorem build_eq_ok_iff {declaration : Declaration} {route : Route} :
    declaration.build = .ok route ↔
      route.path = declaration.path ∧ route.defaults = declaration.defaults ∧
        route.requirements = declaration.requirements ∧
        route.methods = .ofNames declaration.methods ∧
        CompiledTemplate.compile declaration.path declaration.defaults declaration.requirements =
          .ok route.compiled := by
  unfold build Route.make
  constructor
  · intro built
    split at built
    · cases built
      exact ⟨rfl, rfl, rfl, rfl, ‹_›⟩
    · cases built
  · rintro ⟨path_eq, defaults_eq, requirements_eq, methods_eq, compile_eq⟩
    split
    · rename_i compiled equation
      rcases route with ⟨_, _, _, _, _, _, _⟩
      cases path_eq
      cases defaults_eq
      cases requirements_eq
      cases methods_eq
      cases equation.symm.trans compile_eq
      rfl
    · rename_i fault equation
      cases equation.symm.trans compile_eq

theorem isOk_build (declaration : Declaration) :
    declaration.build.isOk =
      (CompiledTemplate.compile declaration.path declaration.defaults
        declaration.requirements).isOk := by
  unfold build Route.make
  split
  · rename_i equation
    exact (congrArg Except.isOk equation).symm
  · rename_i equation
    exact (congrArg Except.isOk equation).symm

theorem build_of_compile_error {declaration : Declaration} {fault : CompileFault}
    (refused : CompiledTemplate.compile declaration.path declaration.defaults
      declaration.requirements = .error fault) : declaration.build = .error (.compile fault) := by
  unfold build Route.make
  split
  · rename_i equation
    cases equation.symm.trans refused
  · rename_i equation
    cases equation.symm.trans refused
    rfl

theorem exists_build (declaration : Declaration)
    (compiles : (CompiledTemplate.compile declaration.path declaration.defaults
      declaration.requirements).isOk = true) : ∃ route, declaration.build = .ok route := by
  rw [← isOk_build] at compiles
  cases built : declaration.build with
  | ok route => exact ⟨route, rfl⟩
  | error failure =>
      rw [built] at compiles
      cases compiles

/-- The declaration that a call asks for, if what it is given can be read. -/
def revised (declaration : Declaration) : Route.Change → Except Failure Declaration
  | .setPath path => .ok { declaration with path := path }
  | .setDefaults defaults => .ok { declaration with defaults := defaults }
  | .setDefault name value =>
      .ok { declaration with defaults := declaration.defaults.putName name value }
  | .setRequirements requirements => .ok { declaration with requirements := requirements }
  | .addRequirement name source =>
      .ok { declaration with requirements := declaration.requirements.put (.text name) source }
  | .setMethods methods =>
      match methods.methodNames with
      | .error fault => .error (.methods fault)
      | .ok names => .ok { declaration with methods := names }

/-- The declaration that a call asks for and the route that is built of it. -/
def attempt (declaration : Declaration) (change : Route.Change) :
    Except Failure (Declaration × Route) :=
  match declaration.revised change with
  | .error failure => .error failure
  | .ok revised => revised.build.map fun route => (revised, route)

/-- What is declared after a call: a call that fails does not count. -/
def changed (declaration : Declaration) (change : Route.Change) : Declaration :=
  match declaration.attempt change with
  | .ok (revised, _) => revised
  | .error _ => declaration

def after (declaration : Declaration) (changes : List Route.Change) : Declaration :=
  changes.foldl changed declaration

theorem build_of_attempt {declaration revised : Declaration} {change : Route.Change}
    {route : Route} (accepted : declaration.attempt change = .ok (revised, route)) :
    revised.build = .ok route := by
  unfold attempt at accepted
  split at accepted
  · cases accepted
  · rename_i other _
    cases built : other.build with
    | error failure =>
        rw [built] at accepted
        cases accepted
    | ok route =>
        rw [built] at accepted
        cases accepted
        exact built

theorem map_attempt (declaration : Declaration) (change : Route.Change) :
    (declaration.attempt change).map (·.2) = (declaration.revised change).bind build := by
  unfold attempt
  cases declaration.revised change with
  | error failure => rfl
  | ok revised =>
      simp only [Except.bind]
      cases revised.build <;> rfl

/-- What a call asks for is declared from then on if it compiles. -/
theorem changed_eq {declaration revised : Declaration} {change : Route.Change}
    (asksFor : declaration.revised change = .ok revised) :
    declaration.changed change =
      if (CompiledTemplate.compile revised.path revised.defaults revised.requirements).isOk
      then revised else declaration := by
  rw [← isOk_build, changed, attempt, asksFor]
  dsimp only
  cases revised.build <;> rfl

/-- A call makes of a route what is built of the declaration that the call asks for. -/
theorem on_eq_attempt {declaration : Declaration} {route : Route}
    (isBuilt : declaration.build = .ok route) (change : Route.Change) :
    change.on route = (declaration.attempt change).map (·.2) := by
  obtain ⟨path_eq, defaults_eq, requirements_eq, methods_eq, compile_eq⟩ :=
    build_eq_ok_iff.mp isBuilt
  rcases route with ⟨path, defaults, requirements, methods, compiled, _, isNormal⟩
  dsimp only at path_eq defaults_eq requirements_eq methods_eq
  subst path_eq defaults_eq requirements_eq methods_eq
  rw [map_attempt]
  cases change with
  | setMethods methods =>
      rw [Route.Change.on_setMethods, revised]
      cases methods.methodNames with
      | error fault => rfl
      | ok names =>
          symm
          exact build_eq_ok_iff.mpr ⟨rfl, rfl, rfl, rfl, compile_eq⟩
  | setPath | setDefaults | setDefault | setRequirements | addRequirement =>
      simp only [Route.Change.on_setPath, Route.Change.on_setDefaults, Route.Change.on_setDefault,
        Route.Change.on_setRequirements, Route.Change.on_addRequirement, revised, Except.bind,
        build, Route.setPath, Route.setDefaults, Route.setDefault, Route.setRequirements,
        Route.addRequirement]

end Declaration

/-! ### Single calls -/

namespace Arena

/-- A cell holds the route of a declaration. -/
def Declares (routes : Arena Route) (handle : Handle Route) (declaration : Declaration) : Prop :=
  ∃ route, routes.get? handle = some route ∧ declaration.build = .ok route

variable {routes : Arena Route} {handle : Handle Route} {declaration : Declaration}

theorem Declares.edit_of_ne (declares : routes.Declares handle declaration) {other : Handle Route}
    (different : other ≠ handle) (change : Route → Except Failure Route) :
    (routes.edit other change).2.Declares handle declaration := by
  obtain ⟨route, isThere, isBuilt⟩ := declares
  refine ⟨route, ?_, isBuilt⟩
  unfold edit
  cases routes.get? other with
  | none => exact isThere
  | some found =>
      dsimp only
      cases change found with
      | error failure => exact isThere
      | ok changed => exact (get?_set_of_ne routes different changed).trans isThere

/-- What a call does to a route and what it does to its declaration. -/
theorem edit_eq_attempt {route : Route} (isThere : routes.get? handle = some route)
    (isBuilt : declaration.build = .ok route) (change : Route.Change) :
    routes.edit handle change.on =
      match declaration.attempt change with
      | .ok (_, changed) => (.ok (), routes.set handle changed)
      | .error failure => (.error failure, routes) := by
  unfold edit
  rw [isThere]
  dsimp only
  rw [Declaration.on_eq_attempt isBuilt]
  cases declaration.attempt change <;> rfl

theorem Declares.edit_self (declares : routes.Declares handle declaration)
    (change : Route.Change) :
    (routes.edit handle change.on).2.Declares handle (declaration.changed change) := by
  obtain ⟨route, isThere, isBuilt⟩ := declares
  rw [edit_eq_attempt isThere isBuilt, Declaration.changed]
  cases attempted : declaration.attempt change with
  | error failure => exact ⟨route, isThere, isBuilt⟩
  | ok result =>
      exact ⟨result.2, get?_set_self isThere result.2, Declaration.build_of_attempt attempted⟩

end Arena

/-- The calls for one route among calls for several. -/
def changesOf (handle : Handle Route) (made : List (Handle Route × Route.Change)) :
    List Route.Change :=
  made.filterMap fun (other, change) => if other = handle then some change else none

theorem changesOf_cons_self (handle : Handle Route) (change : Route.Change)
    (rest : List (Handle Route × Route.Change)) :
    changesOf handle ((handle, change) :: rest) = change :: changesOf handle rest := by
  simp [changesOf]

theorem changesOf_cons_of_ne {handle other : Handle Route} (different : other ≠ handle)
    (change : Route.Change) (rest : List (Handle Route × Route.Change)) :
    changesOf handle ((other, change) :: rest) = changesOf handle rest := by
  simp [changesOf, different]

theorem changesOf_append (handle : Handle Route) (made more : List (Handle Route × Route.Change)) :
    changesOf handle (made ++ more) = changesOf handle made ++ changesOf handle more := by
  simp [changesOf]

theorem Declaration.after_append (declaration : Declaration)
    (changes more : List Route.Change) :
    declaration.after (changes ++ more) = (declaration.after changes).after more := by
  simp [after]

theorem Arena.Declares.edit {routes : Arena Route} {handle : Handle Route}
    {declaration : Declaration} (declares : routes.Declares handle declaration)
    (other : Handle Route) (change : Route.Change) :
    (routes.edit other change.on).2.Declares handle
      (declaration.after (changesOf handle [(other, change)])) := by
  by_cases isHandle : other = handle
  · subst isHandle
    rw [changesOf_cons_self]
    exact declares.edit_self change
  · rw [changesOf_cons_of_ne isHandle]
    exact declares.edit_of_ne isHandle change.on

/-! ### Calls for all routes of a table -/

namespace Arena

/-- The calls for single routes that a call for all routes makes, up to the first that fails. -/
def changesMade (change : Route → Route.Change) :
    List (String × Handle Route) → Arena Route → List (Handle Route × Route.Change)
  | [], _ => []
  | (_, handle) :: rest, routes =>
      match routes.get? handle with
      | none => changesMade change rest routes
      | some route =>
          (handle, change route) ::
            match routes.edit handle (change route).on with
            | (.ok (), reached) => changesMade change rest reached
            | (.error _, _) => []

theorem edit_congr {routes : Arena Route} {handle : Handle Route} {route : Route}
    (isThere : routes.get? handle = some route) {first second : Route → Except Failure Route}
    (same : first route = second route) : routes.edit handle first = routes.edit handle second := by
  unfold Arena.edit
  rw [isThere]
  dsimp only
  rw [same]

theorem Declares.sweep {handle : Handle Route} {declaration : Declaration}
    (change : Route → Route.Change) (entries : List (String × Handle Route))
    {routes : Arena Route} (declares : routes.Declares handle declaration) :
    (routes.sweep (fun route => (change route).on route) entries).2.Declares handle
      (declaration.after (changesOf handle (routes.changesMade change entries))) := by
  induction entries generalizing routes declaration with
  | nil => exact declares
  | cons first rest inductionHypothesis =>
      rw [Arena.sweep, changesMade]
      cases isThere : routes.get? first.2 with
      | none =>
          simp only [Arena.edit, isThere]
          exact inductionHypothesis declares
      | some route =>
          have step := declares.edit first.2 (change route)
          dsimp only
          have edit_eq : routes.edit first.2 (fun route => (change route).on route) =
              routes.edit first.2 (change route).on := edit_congr isThere rfl
          rw [edit_eq, ← List.singleton_append, changesOf_append, Declaration.after_append]
          generalize routes.edit first.2 (change route).on = edited at step ⊢
          rcases edited with ⟨answer, reached⟩
          cases answer with
          | error failure => exact step
          | ok _ => exact inductionHypothesis step

end Arena

namespace Session

/-- Makes calls for single routes one after another, up to the first that fails. -/
def changeAll : List (Handle Route × Route.Change) → Session Unit
  | [] => return ()
  | (handle, change) :: rest => do
      Session.change handle change
      changeAll rest

theorem perform_change_of_get? {store : Store} {handle : Handle Route} {route : Route}
    (isThere : store.routes.get? handle = some route) (change : Route.Change) :
    perform (Session.change handle change) store =
      ((store.routes.edit handle change.on).1,
        { store with routes := (store.routes.edit handle change.on).2 }) := by
  rw [perform_change]
  cases edited : change.edit with
  | error failure => simp only [Arena.edit, isThere, Route.Change.on, edited, Except.bind]
  | ok edit =>
      have same : edit route = change.on route := by rw [Route.Change.on, edited]; rfl
      simp only [Arena.edit_congr isThere same]

/-- Changing all routes of a table comes to calls for single routes. -/
theorem perform_changeAll (change : Route → Route.Change) (entries : List (String × Handle Route))
    (store : Store) :
    perform (changeAll (store.routes.changesMade change entries)) store =
      ((store.routes.sweep (fun route => (change route).on route) entries).1,
        { store with
          routes := (store.routes.sweep (fun route => (change route).on route) entries).2 }) := by
  induction entries generalizing store with
  | nil => rfl
  | cons first rest inductionHypothesis =>
      rw [Arena.sweep, Arena.changesMade]
      cases isThere : store.routes.get? first.2 with
      | none =>
          simp only [Arena.edit, isThere]
          exact inductionHypothesis store
      | some route =>
          dsimp only
          have edit_eq : store.routes.edit first.2 (fun route => (change route).on route) =
              store.routes.edit first.2 (change route).on := Arena.edit_congr isThere rfl
          rw [changeAll, perform_bind, perform_change_of_get? isThere, edit_eq]
          rcases store.routes.edit first.2 (change route).on with ⟨answer, reached⟩
          cases answer with
          | error failure => rfl
          | ok _ => exact inductionHypothesis { store with routes := reached }

end Session

/-! ### Runs -/

/-- The calls for single routes that a call makes. -/
def Call.changesMade (call : Call) (store : Store) : List (Handle Route × Route.Change) :=
  match call with
  | .change handle asked => [(handle, asked)]
  | .sweep table asked =>
      match asked.changes? with
      | .ok (some asked) => store.routes.changesMade asked (store.table table).entries
      | _ => []
  | _ => []

def Store.changesMade (store : Store) : List Call → List (Handle Route × Route.Change)
  | [] => []
  | call :: rest =>
      call.changesMade store ++ ((Session.call call).perform store).2.changesMade rest

namespace Arena.Declares

variable {store : Store} {handle : Handle Route} {declaration : Declaration}

theorem newRoute (declares : store.routes.Declares handle declaration) (route : Route) :
    ((Session.newRoute route).perform store).2.routes.Declares handle declaration := by
  obtain ⟨old, isThere, isBuilt⟩ := declares
  exact ⟨old, get?_alloc_of_get? isThere route, isBuilt⟩

theorem shareTable (declares : store.routes.Declares handle declaration)
    (table : RouteTable Route) :
    ((Session.shareTable table).perform store).2.routes.Declares handle declaration := by
  obtain ⟨old, isThere, isBuilt⟩ := declares
  rw [Session.perform_shareTable]
  exact ⟨old, get?_allocAll_of_get? table.entries isThere, isBuilt⟩

theorem change (declares : store.routes.Declares handle declaration) (other : Handle Route)
    (change : Route.Change) :
    ((Session.change other change).perform store).2.routes.Declares handle
      (declaration.after (changesOf handle [(other, change)])) := by
  cases isThere : store.routes.get? other with
  | some route =>
      rw [Session.perform_change_of_get? isThere]
      exact declares.edit other change
  | none =>
      have different : other ≠ handle := by
        rintro rfl
        obtain ⟨route, isRoute, -⟩ := declares
        cases isThere.symm.trans isRoute
      rw [changesOf_cons_of_ne different, Session.perform_change]
      cases change.edit with
      | error failure => exact declares
      | ok edit => exact declares.edit_of_ne different edit

theorem sweepTable (declares : store.routes.Declares handle declaration)
    (table : Handle SharedTable) (sweep : Sweep) :
    ((Session.sweep table sweep).perform store).2.routes.Declares handle
      (declaration.after (changesOf handle ((Call.sweep table sweep).changesMade store))) := by
  rw [Session.perform_sweep, Call.changesMade]
  rcases sweep.changes? with failure | _ | change
  · exact declares
  · exact declares
  · exact Declares.sweep change _ declares

theorem call (declares : store.routes.Declares handle declaration) (call : Call) :
    ((Session.call call).perform store).2.routes.Declares handle
      (declaration.after (changesOf handle (call.changesMade store))) := by
  cases call with
  | make path defaults requirements methods =>
      rw [Session.call, Session.perform_bind_pure, Session.perform_makeRoute]
      cases (Session.declarationOf path defaults requirements methods).bind Declaration.build with
      | error failure => exact declares
      | ok route => exact declares.newRoute route
  | change other change =>
      rw [Session.call, Session.perform_bind_pure]
      exact declares.change other change
  | declare configuration =>
      rw [Session.call, Session.perform_bind_pure, Session.perform_declareTable]
      generalize (RouteTable.ofConfiguration configuration).run = declared
      rcases declared with ⟨events, failure | table⟩
      · exact declares
      · have told : ({ store with events := store.events ++ events } : Store).routes.Declares
            handle declaration := declares
        exact shareTable told table
  | add table name route =>
      rw [Session.call, Session.perform_bind_pure, Session.perform_addRoute]
      cases (store.table table).add name route <;> exact declares
  | merge table other overriding =>
      rw [Session.call, Session.perform_bind_pure, Session.perform_mergeTable]
      cases (store.table table).merge (store.table other) overriding <;> exact declares
  | sweep table sweep =>
      rw [Session.call, Session.perform_bind_pure]
      exact declares.sweepTable table sweep
  | create | remove | clear | prefixNames => exact declares

end Arena.Declares

theorem Store.declares_after {handle : Handle Route} (calls : List Call) {store : Store}
    {declaration : Declaration} (declares : store.routes.Declares handle declaration) :
    (store.after calls).routes.Declares handle
      (declaration.after (changesOf handle (store.changesMade calls))) := by
  induction calls generalizing store declaration with
  | nil => exact declares
  | cons call rest inductionHypothesis =>
      rw [Store.changesMade, changesOf_append, Declaration.after_append]
      exact inductionHypothesis (declares.call call)

/-- A call for one route is accepted, or it changes nothing. -/
theorem Session.perform_change_eq_attempt {store : Store} {handle : Handle Route} {route : Route}
    {declaration : Declaration} (isThere : store.routes.get? handle = some route)
    (isBuilt : declaration.build = .ok route) (change : Route.Change) :
    (Session.change handle change).perform store =
      match declaration.attempt change with
      | .ok (_, changed) => (.ok (), { store with routes := store.routes.set handle changed })
      | .error failure => (.error failure, store) := by
  rw [perform_change_of_get? isThere, Arena.edit_eq_attempt isThere isBuilt]
  cases declaration.attempt change <;> rfl

/-- After any calls, a route is what its constructor makes of its declaration, into which the calls
that were accepted are put.  Each further call is accepted or changes nothing, and a call for all
routes of a table does what calls for single routes do. -/
theorem Store.route_follows_changes {store : Store} {handle : Handle Route} {route : Route}
    {declaration : Declaration} (isThere : store.routes.get? handle = some route)
    (isBuilt : declaration.build = .ok route) (calls : List Call) :
    let reached := store.after calls
    let declared := declaration.after (changesOf handle (store.changesMade calls))
    (∃ current, reached.routes.get? handle = some current ∧
      current.path = declared.path ∧ current.defaults = declared.defaults ∧
      current.requirements = declared.requirements ∧
      current.methods = .ofNames declared.methods ∧
      CompiledTemplate.compile current.path current.defaults current.requirements =
        .ok current.compiled) ∧
    (∀ change, (Session.change handle change).perform reached =
      match declared.attempt change with
      | .ok (_, changed) =>
          (.ok (), { reached with routes := reached.routes.set handle changed })
      | .error failure => (.error failure, reached)) ∧
    ∀ table sweep, (Session.sweep table sweep).perform reached =
      match sweep.changes? with
      | .error failure => (.error failure, reached)
      | .ok none => (.ok (), reached)
      | .ok (some change) =>
          (Session.changeAll
            (reached.routes.changesMade change (reached.table table).entries)).perform reached := by
  intro reached declared
  obtain ⟨current, isCurrent, isBuiltNow⟩ :=
    Store.declares_after calls ⟨route, isThere, isBuilt⟩
  refine ⟨⟨current, isCurrent, ?_⟩, Session.perform_change_eq_attempt isCurrent isBuiltNow, ?_⟩
  · obtain ⟨path_eq, defaults_eq, requirements_eq, methods_eq, -⟩ :=
      Declaration.build_eq_ok_iff.mp isBuiltNow
    exact ⟨path_eq, defaults_eq, requirements_eq, methods_eq, current.compile_eq⟩
  · intro table sweep
    rw [Session.perform_sweep]
    rcases sweep.changes? with failure | _ | change
    · rfl
    · rfl
    · exact (Session.perform_changeAll change _ reached).symm

/-- The route of an item gets a template that names a variable twice, and then a method. -/
theorem Store.item_follows_changes : ∃ (store : Store) (route : Route),
    store.routes.get? ⟨0⟩ = some route ∧
      Declaration.build ⟨"/items/\x7bid\x7d", [], [], ["get"]⟩ = .ok route ∧
      ∃ current, (store.after [.change ⟨0⟩ (.setPath "/\x7bid\x7d/\x7bid\x7d"),
          .change ⟨0⟩ (.setMethods (.text "post"))]).routes.get? ⟨0⟩ = some current ∧
        current.path = "/items/\x7bid\x7d" ∧ current.methods = ⟨["POST"]⟩ := by
  have accepted : (CompiledTemplate.compile "/items/\x7bid\x7d" [] []).isOk = true := by
    decide +kernel
  have refused : ¬ (CompiledTemplate.compile "/\x7bid\x7d/\x7bid\x7d" [] []).isOk = true := by
    decide +kernel
  obtain ⟨route, isBuilt⟩ :=
    Declaration.exists_build ⟨_, _, _, ["get"]⟩ accepted
  have isThere : ({ Store.empty with routes := ⟨#[route]⟩ } : Store).routes.get? ⟨0⟩ =
      some route := rfl
  obtain ⟨⟨current, isCurrent, path_eq, -, -, methods_eq, -⟩, -⟩ :=
    Store.route_follows_changes isThere isBuilt
      [.change ⟨0⟩ (.setPath "/\x7bid\x7d/\x7bid\x7d"), .change ⟨0⟩ (.setMethods (.text "post"))]
  have declared_eq : Declaration.after ⟨"/items/\x7bid\x7d", [], [], ["get"]⟩
      [.setPath "/\x7bid\x7d/\x7bid\x7d", .setMethods (.text "post")] =
        ⟨"/items/\x7bid\x7d", [], [], ["post"]⟩ := by
    rw [Declaration.after, List.foldl_cons, Declaration.changed_eq rfl, if_neg refused,
      List.foldl_cons, Declaration.changed_eq rfl, if_pos accepted, List.foldl_nil]
  refine ⟨_, route, isThere, isBuilt, current, isCurrent, ?_, ?_⟩
  · exact path_eq.trans (congrArg Declaration.path declared_eq)
  · have inUpperCase : MethodSet.ofNames ["post"] = ⟨["POST"]⟩ := by decide +kernel
    exact methods_eq.trans ((congrArg (MethodSet.ofNames ·.methods) declared_eq).trans inUpperCase)

end UrlRouting
