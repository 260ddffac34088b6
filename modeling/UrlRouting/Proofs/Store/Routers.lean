import UrlRouting.Proofs.Store.Calls

/-!
# Routers

A router builds its matcher and its generator when they are first needed, and keeps them.  Both hold
the table itself, so that a router answers as a new matcher or a new generator does on the table as
it is then, whatever has been done to it since the router was made (`Store.router_never_stale`).
-/

namespace UrlRouting

/-! ### Questions -/

inductive UrlMatcher.Question where
  | parameters (path method : String)
  | name (path method : String)
  | hasMatch (path method : String)

inductive UrlGenerator.Question where
  | link (name : String) (parameters : Parameters) (absolute : Bool)
  | links (strict : Option Bool) (batch : List (String × Parameters))
  | linkWithQuery (name : String) (parameters query : Parameters)

namespace Router

inductive Question where
  | matching (question : UrlMatcher.Question)
  | generating (question : UrlGenerator.Question)

inductive Answer where
  | parameters (parameters : Attributes)
  | name (name : Value)
  | hasMatch (isMatched : Bool)
  | link (url : String)
  | links (urls : List (String × String))

end Router

def UrlMatcher.Question.answer (table : RouteTable Route) : Question → Reported Router.Answer
  | parameters path method => .parameters <$> table.resolveParameters path method
  | name path method => .name <$> table.resolveName path method
  | hasMatch path method => .hasMatch <$> table.hasMatch path method

def UrlGenerator.Question.answer (table : RouteTable Route) (config : Config) :
    Question → Reported Router.Answer
  | link name parameters absolute => .link <$> table.link config name parameters absolute
  | links strict batch => .links <$> table.links config strict batch
  | linkWithQuery name parameters query =>
      .link <$> table.linkWithQuery config name parameters query

def Router.Question.answer (table : RouteTable Route) (config : Config) :
    Question → Reported Answer
  | matching question => question.answer table
  | generating question => question.answer table config

/-! ### Runs with routers -/

/-- Something that is done while a router is in use: a call on routes and tables, a call on a router,
or one that makes something new that uses a table. -/
inductive Action where
  | call (call : Call)
  | newMatcher (table : Handle SharedTable)
  | newGenerator (table : Handle SharedTable) (config : Config)
  | newRouter (table : Handle SharedTable) (config : Config)
  | addRoute (router : Handle Router) (name : String) (route : Handle Route)
  | matcherOf (router : Handle Router)
  | generatorOf (router : Handle Router)
  | ask (router : Handle Router) (question : Router.Question)

namespace Session

def addRouteBy (handle : Handle Router) (name : String) (route : Handle Route) : Session Unit := do
  match (← get).routers.get? handle with
  | none => return ()
  | some router => addRoute router.table name route

def ask (handle : Handle Router) : Router.Question → Session Router.Answer
  | .matching question => routerMatching handle fun table => question.answer table
  | .generating question => routerGenerating handle fun table config => question.answer table config

/-- Asks a matcher or a generator that is made for the question. -/
def askNew (table : Handle SharedTable) (config : Config) :
    Router.Question → Session Router.Answer
  | .matching question => do matching (← newMatcher table) fun table => question.answer table
  | .generating question => do
      generating (← newGenerator table config) fun table config => question.answer table config

def act : Action → Session Unit
  | .call call => do let _ ← Session.call call
  | .newMatcher table => do let _ ← newMatcher table
  | .newGenerator table config => do let _ ← newGenerator table config
  | .newRouter table config => do let _ ← newRouter table config
  | .addRoute router name route => addRouteBy router name route
  | .matcherOf router => do let _ ← matcherOf router
  | .generatorOf router => do let _ ← generatorOf router
  | .ask router question => do let _ ← ask router question

end Session

/-- The store that some actions leave. -/
def Store.enacted (store : Store) (actions : List Action) : Store :=
  actions.foldl (fun reached action => ((Session.act action).perform reached).2) store

/-! ### What stays -/

namespace Arena

variable {α : Type} {arena reached : Arena α}

def Keeps (arena reached : Arena α) : Prop :=
  ∀ handle value, arena.get? handle = some value → reached.get? handle = some value

theorem Keeps.refl (arena : Arena α) : arena.Keeps arena := fun _ _ => id

theorem Keeps.trans {middle : Arena α} (keeps : arena.Keeps middle)
    (further : middle.Keeps reached) : arena.Keeps reached :=
  fun handle value isThere => further handle value (keeps handle value isThere)

theorem keeps_alloc (arena : Arena α) (value : α) : arena.Keeps (arena.alloc value).2 :=
  fun _ _ isThere => get?_alloc_of_get? isThere value

/-- A part that is there stays, and one that is not may be built. -/
inductive PartStays (arena : Arena α) (value : α) :
    Option (Handle α) → Option (Handle α) → Prop where
  | same (part? : Option (Handle α)) : PartStays arena value part? part?
  | built {part : Handle α} :
      arena.get? part = some value → PartStays arena value none (some part)

namespace PartStays

variable {value : α} {before between behind : Option (Handle α)}

theorem trans (stays : arena.PartStays value before between) (keeps : arena.Keeps reached)
    (further : reached.PartStays value between behind) :
    reached.PartStays value before behind := by
  cases stays with
  | same => exact further
  | built isThere =>
      cases further with
      | same => exact .built (keeps _ _ isThere)

theorem eq_some {part : Handle α} (stays : arena.PartStays value (some part) behind) :
    behind = some part := by
  cases stays with
  | same => rfl

theorem get?_eq {part : Handle α} (stays : arena.PartStays value none (some part)) :
    arena.get? part = some value := by
  cases stays with
  | built isThere => exact isThere

end PartStays

end Arena

/-- A router keeps its table and its settings.  Parts that it builds in a store are for these. -/
structure Router.Becomes (store : Store) (router changed : Router) : Prop where
  table : changed.table = router.table
  config : changed.config = router.config
  matcher : store.matchers.PartStays ⟨router.table⟩ router.matcher changed.matcher
  generator :
    store.generators.PartStays ⟨router.table, router.config⟩ router.generator changed.generator

/-- What a store keeps of matchers, generators and routers. -/
structure Store.Evolves (store reached : Store) : Prop where
  matchers : store.matchers.Keeps reached.matchers
  generators : store.generators.Keeps reached.generators
  routers : ∀ handle router, store.routers.get? handle = some router →
    ∃ changed, reached.routers.get? handle = some changed ∧ router.Becomes reached changed

theorem Router.Becomes.refl (store : Store) (router : Router) : router.Becomes store router :=
  ⟨rfl, rfl, .same _, .same _⟩

theorem Router.Becomes.trans {store reached : Store} {router changed final : Router}
    (becomes : router.Becomes store changed) (evolves : store.Evolves reached)
    (further : changed.Becomes reached final) : router.Becomes reached final := by
  obtain ⟨table, config, matcher, generator⟩ := becomes
  obtain ⟨table', config', matcher', generator'⟩ := further
  rw [table] at matcher'
  rw [table, config] at generator'
  exact ⟨table'.trans table, config'.trans config, matcher.trans evolves.matchers matcher',
    generator.trans evolves.generators generator'⟩

namespace Store.Evolves

variable {store middle reached : Store}

theorem refl (store : Store) : store.Evolves store :=
  ⟨.refl _, .refl _, fun _ router isThere => ⟨router, isThere, .refl store router⟩⟩

theorem trans (evolves : store.Evolves middle) (further : middle.Evolves reached) :
    store.Evolves reached := by
  refine ⟨evolves.matchers.trans further.matchers,
    evolves.generators.trans further.generators, ?_⟩
  intro handle router isThere
  obtain ⟨changed, isChanged, becomes⟩ := evolves.routers handle router isThere
  obtain ⟨final, isFinal, becomesFinal⟩ := further.routers handle changed isChanged
  exact ⟨final, isFinal, becomes.trans further becomesFinal⟩

theorem of_keeps (matchers : store.matchers.Keeps reached.matchers)
    (generators : store.generators.Keeps reached.generators)
    (routers : store.routers.Keeps reached.routers) : store.Evolves reached :=
  ⟨matchers, generators, fun handle router isThere =>
    ⟨router, routers handle router isThere, .refl reached router⟩⟩

theorem of_same (matchers_eq : reached.matchers = store.matchers)
    (generators_eq : reached.generators = store.generators)
    (routers_eq : reached.routers = store.routers) : store.Evolves reached :=
  .of_keeps (matchers_eq ▸ .refl _) (generators_eq ▸ .refl _) (routers_eq ▸ .refl _)

theorem of_set {handle : Handle Router} {router changed : Router}
    (isThere : store.routers.get? handle = some router)
    (matchers : store.matchers.Keeps reached.matchers)
    (generators : store.generators.Keeps reached.generators)
    (routers_eq : reached.routers = store.routers.set handle changed)
    (becomes : router.Becomes reached changed) : store.Evolves reached := by
  refine ⟨matchers, generators, ?_⟩
  intro other found isFound
  rw [routers_eq]
  by_cases isHandle : handle = other
  · subst isHandle
    obtain rfl := Option.some.inj (isThere.symm.trans isFound)
    exact ⟨changed, Arena.get?_set_self isThere changed, becomes⟩
  · rw [Arena.get?_set_of_ne _ isHandle]
    exact ⟨found, isFound, .refl reached found⟩

end Store.Evolves

/-! ### Computations that keep them -/

namespace Session

variable {α β : Type}

def Evolving (computation : Session α) : Prop :=
  ∀ store : Store, store.Evolves (computation.perform store).2

theorem Evolving.bind {first : Session α} {next : α → Session β} (evolving : Evolving first)
    (further : ∀ value, Evolving (next value)) : Evolving (first >>= next) := by
  intro store
  have evolves := evolving store
  rw [perform_bind]
  revert evolves
  rcases perform first store with ⟨failure | value, reached⟩
  · exact id
  · exact fun evolves => evolves.trans (further value reached)

theorem evolving_pure (value : α) : Evolving (pure value) := .refl

theorem evolving_get : Evolving (get : Session Store) := .refl

theorem evolving_ofReported (computation : Reported α) : Evolving (ofReported computation) := by
  intro store
  rw [perform_ofReported]
  exact .of_same rfl rfl rfl

theorem evolving_addRoute (table : Handle SharedTable) (name : String) (route : Handle Route) :
    Evolving (addRoute table name route) := by
  intro store
  rw [perform_addRoute]
  cases (store.table table).add name route <;> exact .of_same rfl rfl rfl

theorem evolving_call (call : Call) : Evolving (Session.call call) := by
  intro store
  cases call with
  | make path defaults requirements methods =>
      rw [Session.call, perform_bind_pure, perform_makeRoute]
      cases (declarationOf path defaults requirements methods).bind Declaration.build <;>
        exact .of_same rfl rfl rfl
  | change route change =>
      rw [Session.call, perform_bind_pure, perform_change]
      cases change.edit <;> exact .of_same rfl rfl rfl
  | declare configuration =>
      rw [Session.call, perform_bind_pure, perform_declareTable]
      generalize (RouteTable.ofConfiguration configuration).run = declared
      rcases declared with ⟨events, failure | table⟩
      · exact .of_same rfl rfl rfl
      · dsimp only
        rw [perform_shareTable]
        exact .of_same rfl rfl rfl
  | add table name route =>
      rw [Session.call, perform_bind_pure]
      exact evolving_addRoute table name route store
  | merge table other overriding =>
      rw [Session.call, perform_bind_pure, perform_mergeTable]
      cases (store.table table).merge (store.table other) overriding <;>
        exact .of_same rfl rfl rfl
  | sweep table sweep =>
      rw [Session.call, perform_bind_pure, perform_sweep]
      rcases sweep.changes? with failure | _ | change <;> exact .of_same rfl rfl rfl
  | create | remove | clear | prefixNames => exact .of_same rfl rfl rfl

theorem evolving_newMatcher (table : Handle SharedTable) : Evolving (newMatcher table) :=
  fun store => .of_keeps (Arena.keeps_alloc store.matchers ⟨table⟩) (.refl _) (.refl _)

theorem evolving_newGenerator (table : Handle SharedTable) (config : Config) :
    Evolving (newGenerator table config) :=
  fun store => .of_keeps (.refl _) (Arena.keeps_alloc store.generators ⟨table, config⟩) (.refl _)

theorem evolving_newRouter (table : Handle SharedTable) (config : Config) :
    Evolving (newRouter table config) :=
  fun store => .of_keeps (.refl _) (.refl _) (Arena.keeps_alloc store.routers _)

/-! ### Building parts -/

theorem perform_matcherOf {store : Store} {handle : Handle Router} {router : Router}
    (isThere : store.routers.get? handle = some router) :
    perform (matcherOf handle) store =
      match router.matcher with
      | some matcher => (.ok (some matcher), store)
      | none =>
          let (matcher, matchers) := store.matchers.alloc ⟨router.table⟩
          (.ok (some matcher), { store with
            matchers := matchers
            routers := store.routers.set handle { router with matcher := some matcher } }) := by
  rw [matcherOf, perform_bind, perform_get]
  dsimp only
  rw [isThere]
  dsimp only
  cases router.matcher <;> rfl

theorem perform_generatorOf {store : Store} {handle : Handle Router} {router : Router}
    (isThere : store.routers.get? handle = some router) :
    perform (generatorOf handle) store =
      match router.generator with
      | some generator => (.ok (some generator), store)
      | none =>
          let (generator, generators) := store.generators.alloc ⟨router.table, router.config⟩
          (.ok (some generator), { store with
            generators := generators
            routers :=
              store.routers.set handle { router with generator := some generator } }) := by
  rw [generatorOf, perform_bind, perform_get]
  dsimp only
  rw [isThere]
  dsimp only
  cases router.generator <;> rfl

theorem evolving_matcherOf (handle : Handle Router) : Evolving (matcherOf handle) := by
  intro store
  cases isThere : store.routers.get? handle with
  | none =>
      rw [matcherOf, perform_bind, perform_get]
      dsimp only
      rw [isThere]
      exact .refl store
  | some router =>
      rw [perform_matcherOf isThere]
      rcases router with ⟨table, config, _ | matcher, generator⟩
      · exact .of_set isThere (Arena.keeps_alloc _ _) (.refl _) rfl
          ⟨rfl, rfl, .built (Arena.get?_alloc_self _ _), .same _⟩
      · exact .refl store

theorem evolving_generatorOf (handle : Handle Router) : Evolving (generatorOf handle) := by
  intro store
  cases isThere : store.routers.get? handle with
  | none =>
      rw [generatorOf, perform_bind, perform_get]
      dsimp only
      rw [isThere]
      exact .refl store
  | some router =>
      rw [perform_generatorOf isThere]
      rcases router with ⟨table, config, matcher, _ | generator⟩
      · exact .of_set isThere (.refl _) (Arena.keeps_alloc _ _) rfl
          ⟨rfl, rfl, .same _, .built (Arena.get?_alloc_self _ _)⟩
      · exact .refl store

theorem evolving_ask (handle : Handle Router) (question : Router.Question) :
    Evolving (ask handle question) := by
  cases question with
  | matching question =>
      refine (evolving_matcherOf handle).bind fun matcher? => ?_
      cases matcher? with
      | none => exact evolving_ofReported _
      | some matcher => exact evolving_get.bind fun _ => evolving_ofReported _
  | generating question =>
      refine (evolving_generatorOf handle).bind fun generator? => ?_
      cases generator? with
      | none => exact evolving_ofReported _
      | some generator =>
          refine evolving_get.bind fun store => ?_
          cases store.generators.get? generator <;> exact evolving_ofReported _

theorem evolving_addRouteBy (handle : Handle Router) (name : String) (route : Handle Route) :
    Evolving (addRouteBy handle name route) := by
  refine evolving_get.bind fun store => ?_
  cases store.routers.get? handle with
  | none => exact evolving_pure ()
  | some router => exact evolving_addRoute router.table name route

theorem evolving_act (action : Action) : Evolving (act action) := by
  cases action with
  | call call => exact (evolving_call call).bind fun _ => evolving_pure ()
  | newMatcher table => exact (evolving_newMatcher table).bind fun _ => evolving_pure ()
  | newGenerator table config =>
      exact (evolving_newGenerator table config).bind fun _ => evolving_pure ()
  | newRouter table config => exact (evolving_newRouter table config).bind fun _ => evolving_pure ()
  | addRoute router name route => exact evolving_addRouteBy router name route
  | matcherOf router => exact (evolving_matcherOf router).bind fun _ => evolving_pure ()
  | generatorOf router => exact (evolving_generatorOf router).bind fun _ => evolving_pure ()
  | ask router question => exact (evolving_ask router question).bind fun _ => evolving_pure ()

end Session

theorem Store.evolves_enacted (actions : List Action) (store : Store) :
    store.Evolves (store.enacted actions) := by
  induction actions generalizing store with
  | nil => exact .refl store
  | cons action rest inductionHypothesis =>
      exact (Session.evolving_act action store).trans (inductionHypothesis _)

/-! ### Routers in use -/

namespace Store

def matcherOf? (store : Store) (handle : Handle Router) : Option (Handle UrlMatcher) :=
  (store.routers.get? handle).bind (·.matcher)

def generatorOf? (store : Store) (handle : Handle Router) : Option (Handle UrlGenerator) :=
  (store.routers.get? handle).bind (·.generator)

/-- A router has been made for a table and settings, and so are the parts that it has built. -/
def Serves (store : Store) (handle : Handle Router) (table : Handle SharedTable)
    (config : Config) : Prop :=
  ∃ router, store.routers.get? handle = some router ∧
    Router.Becomes store ⟨table, config, none, none⟩ router

variable {store reached : Store} {handle : Handle Router} {table : Handle SharedTable}
  {config : Config} {matcher : Handle UrlMatcher} {generator : Handle UrlGenerator}

theorem Serves.evolve (serves : store.Serves handle table config)
    (evolves : store.Evolves reached) : reached.Serves handle table config := by
  obtain ⟨router, isThere, becomes⟩ := serves
  obtain ⟨changed, isChanged, further⟩ := evolves.routers handle router isThere
  exact ⟨changed, isChanged, becomes.trans evolves further⟩

theorem Serves.get?_matcher (serves : store.Serves handle table config)
    (isBuilt : store.matcherOf? handle = some matcher) :
    store.matchers.get? matcher = some ⟨table⟩ := by
  obtain ⟨router, isThere, becomes⟩ := serves
  rw [matcherOf?, isThere] at isBuilt
  have stays := becomes.matcher
  rw [show router.matcher = some matcher from isBuilt] at stays
  exact stays.get?_eq

theorem Serves.get?_generator (serves : store.Serves handle table config)
    (isBuilt : store.generatorOf? handle = some generator) :
    store.generators.get? generator = some ⟨table, config⟩ := by
  obtain ⟨router, isThere, becomes⟩ := serves
  rw [generatorOf?, isThere] at isBuilt
  have stays := becomes.generator
  rw [show router.generator = some generator from isBuilt] at stays
  exact stays.get?_eq

theorem Evolves.matcherOf?_eq (evolves : store.Evolves reached)
    (isBuilt : store.matcherOf? handle = some matcher) :
    reached.matcherOf? handle = some matcher := by
  obtain ⟨router, isThere, isMatcher⟩ := Option.bind_eq_some_iff.mp isBuilt
  obtain ⟨changed, isChanged, becomes⟩ := evolves.routers handle router isThere
  rw [matcherOf?, isChanged]
  exact Arena.PartStays.eq_some (isMatcher ▸ becomes.matcher)

theorem Evolves.generatorOf?_eq (evolves : store.Evolves reached)
    (isBuilt : store.generatorOf? handle = some generator) :
    reached.generatorOf? handle = some generator := by
  obtain ⟨router, isThere, isGenerator⟩ := Option.bind_eq_some_iff.mp isBuilt
  obtain ⟨changed, isChanged, becomes⟩ := evolves.routers handle router isThere
  rw [generatorOf?, isChanged]
  exact Arena.PartStays.eq_some (isGenerator ▸ becomes.generator)

end Store

/-! ### Answers -/

namespace Session

variable {α : Type}

/-- What can be seen of a computation: its answer and what has been reported. -/
def observed (computation : Session α) (store : Store) : Except Failure α × List Event :=
  ((computation.perform store).1, (computation.perform store).2.events)

theorem observed_ofReported (computation : Reported α) (store : Store) :
    observed (ofReported computation) store =
      (computation.run.2, store.events ++ computation.run.1) := by
  rw [observed, perform_ofReported]

theorem observed_of_perform_eq {computation other : Session α} {store reached : Store}
    (same : computation.perform store = other.perform reached) :
    computation.observed store = other.observed reached := by
  rw [observed, same, observed]

theorem perform_newMatcher (table : Handle SharedTable) (store : Store) :
    perform (newMatcher table) store =
      (.ok (store.matchers.alloc ⟨table⟩).1,
        { store with matchers := (store.matchers.alloc ⟨table⟩).2 }) := rfl

theorem perform_newGenerator (table : Handle SharedTable) (config : Config) (store : Store) :
    perform (newGenerator table config) store =
      (.ok (store.generators.alloc ⟨table, config⟩).1,
        { store with generators := (store.generators.alloc ⟨table, config⟩).2 }) := rfl

theorem exists_perform_newRouter (table : Handle SharedTable) (config : Config) (store : Store) :
    ∃ router made, perform (newRouter table config) store = (.ok router, made) ∧
      made.Serves router table config :=
  ⟨_, _, rfl, _, Arena.get?_alloc_self store.routers _, .refl _ _⟩

theorem perform_matching {store : Store} {matcher : Handle UrlMatcher}
    {table : Handle SharedTable} (isThere : store.matchers.get? matcher = some ⟨table⟩)
    (question : RouteTable Route → Reported α) :
    perform (matching matcher question) store =
      perform (ofReported (question (store.snapshot table))) store := by
  rw [matching, perform_bind, perform_get]
  dsimp only
  rw [isThere]
  rfl

theorem perform_generating {store : Store} {generator : Handle UrlGenerator}
    {table : Handle SharedTable} {config : Config}
    (isThere : store.generators.get? generator = some ⟨table, config⟩)
    (question : RouteTable Route → Config → Reported α) :
    perform (generating generator question) store =
      perform (ofReported (question (store.snapshot table) config)) store := by
  rw [generating, perform_bind, perform_get]
  dsimp only
  rw [isThere]

variable {store : Store} {handle : Handle Router} {table : Handle SharedTable} {config : Config}

theorem exists_perform_matcherOf (serves : store.Serves handle table config) :
    ∃ matcher matchers routers, perform (matcherOf handle) store =
        (.ok (some matcher), { store with matchers := matchers, routers := routers }) ∧
      { store with matchers := matchers, routers := routers }.matcherOf? handle =
        some matcher := by
  obtain ⟨router, isThere, -⟩ := serves
  rw [perform_matcherOf isThere]
  rcases isMatcher : router.matcher with _ | matcher
  · refine ⟨_, _, _, rfl, ?_⟩
    rw [Store.matcherOf?, Arena.get?_set_self isThere]
    rfl
  · refine ⟨matcher, store.matchers, store.routers, rfl, ?_⟩
    rw [Store.matcherOf?, isThere]
    exact isMatcher

theorem exists_perform_generatorOf (serves : store.Serves handle table config) :
    ∃ generator generators routers, perform (generatorOf handle) store =
        (.ok (some generator), { store with generators := generators, routers := routers }) ∧
      { store with generators := generators, routers := routers }.generatorOf? handle =
        some generator := by
  obtain ⟨router, isThere, -⟩ := serves
  rw [perform_generatorOf isThere]
  rcases isGenerator : router.generator with _ | generator
  · refine ⟨_, _, _, rfl, ?_⟩
    rw [Store.generatorOf?, Arena.get?_set_self isThere]
    rfl
  · refine ⟨generator, store.generators, store.routers, rfl, ?_⟩
    rw [Store.generatorOf?, isThere]
    exact isGenerator

/-- A router asks its matcher, which it has from then on. -/
theorem exists_perform_ask_matching (serves : store.Serves handle table config)
    (question : UrlMatcher.Question) :
    ∃ matchers routers,
      let reached := { store with matchers := matchers, routers := routers }
      perform (ask handle (.matching question)) store =
        perform (ofReported (question.answer (store.snapshot table))) reached ∧
      (reached.matcherOf? handle).isSome := by
  obtain ⟨matcher, matchers, routers, performed, isBuilt⟩ := exists_perform_matcherOf serves
  refine ⟨matchers, routers, ?_, by rw [isBuilt]; rfl⟩
  have evolves := evolving_matcherOf handle store
  rw [performed] at evolves
  rw [ask, routerMatching, perform_bind, performed]
  exact perform_matching ((serves.evolve evolves).get?_matcher isBuilt) _

theorem exists_perform_ask_generating (serves : store.Serves handle table config)
    (question : UrlGenerator.Question) :
    ∃ generators routers,
      let reached := { store with generators := generators, routers := routers }
      perform (ask handle (.generating question)) store =
        perform (ofReported (question.answer (store.snapshot table) config)) reached ∧
      (reached.generatorOf? handle).isSome := by
  obtain ⟨generator, generators, routers, performed, isBuilt⟩ := exists_perform_generatorOf serves
  refine ⟨generators, routers, ?_, by rw [isBuilt]; rfl⟩
  have evolves := evolving_generatorOf handle store
  rw [performed] at evolves
  rw [ask, routerGenerating, perform_bind, performed]
  exact perform_generating ((serves.evolve evolves).get?_generator isBuilt) _

/-- A router answers from what its table is now. -/
theorem observed_ask (serves : store.Serves handle table config) (question : Router.Question) :
    observed (ask handle question) store =
      observed (ofReported (question.answer (store.snapshot table) config)) store := by
  cases question with
  | matching question =>
      obtain ⟨matchers, routers, performed, -⟩ := exists_perform_ask_matching serves question
      rw [observed_of_perform_eq performed, observed_ofReported, observed_ofReported]
      rfl
  | generating question =>
      obtain ⟨generators, routers, performed, -⟩ := exists_perform_ask_generating serves question
      rw [observed_of_perform_eq performed, observed_ofReported, observed_ofReported]
      rfl

theorem observed_askNew (table : Handle SharedTable) (config : Config) (question : Router.Question)
    (store : Store) :
    observed (askNew table config question) store =
      observed (ofReported (question.answer (store.snapshot table) config)) store := by
  cases question with
  | matching question =>
      let reached := { store with matchers := (store.matchers.alloc ⟨table⟩).2 }
      have isThere : reached.matchers.get? (store.matchers.alloc ⟨table⟩).1 = some ⟨table⟩ :=
        Arena.get?_alloc_self store.matchers ⟨table⟩
      have performed : perform (askNew table config (.matching question)) store =
          perform (ofReported (question.answer (reached.snapshot table))) reached := by
        rw [askNew, perform_bind, perform_newMatcher]
        exact perform_matching isThere _
      rw [observed_of_perform_eq performed, observed_ofReported, observed_ofReported]
      rfl
  | generating question =>
      let reached := { store with generators := (store.generators.alloc ⟨table, config⟩).2 }
      have isThere : reached.generators.get? (store.generators.alloc ⟨table, config⟩).1 =
          some ⟨table, config⟩ :=
        Arena.get?_alloc_self store.generators ⟨table, config⟩
      have performed : perform (askNew table config (.generating question)) store =
          perform (ofReported (question.answer (reached.snapshot table) config)) reached := by
        rw [askNew, perform_bind, perform_newGenerator]
        exact perform_generating isThere _
      rw [observed_of_perform_eq performed, observed_ofReported, observed_ofReported]
      rfl

end Session

/-- Whatever is done after a router is made, it answers as a matcher or a generator does that is made
anew for what its table then has, and the matcher and the generator that it has built stay. -/
theorem Store.router_never_stale (store : Store) (table : Handle SharedTable) (config : Config) :
    ∃ router made, (Session.newRouter table config).perform store = (.ok router, made) ∧
      ∀ actions : List Action, let reached := made.enacted actions
        (∀ (question : Router.Question) (other : Handle SharedTable),
          (reached.snapshot other).entries = (reached.snapshot table).entries →
            (Session.ask router question).observed reached =
              (Session.askNew other config question).observed reached) ∧
        (∀ question, (((Session.ask router (.matching question)).perform
          reached).2.matcherOf? router).isSome) ∧
        (∀ matcher, reached.matcherOf? router = some matcher →
          reached.matchers.get? matcher = some ⟨table⟩ ∧
            ∀ more, (reached.enacted more).matcherOf? router = some matcher) ∧
        (∀ question, (((Session.ask router (.generating question)).perform
          reached).2.generatorOf? router).isSome) ∧
        (∀ generator, reached.generatorOf? router = some generator →
          reached.generators.get? generator = some ⟨table, config⟩ ∧
            ∀ more, (reached.enacted more).generatorOf? router = some generator) := by
  obtain ⟨router, made, performed, servesMade⟩ :=
    Session.exists_perform_newRouter table config store
  refine ⟨router, made, performed, ?_⟩
  intro actions reached
  have serves : reached.Serves router table config :=
    servesMade.evolve (Store.evolves_enacted actions made)
  refine ⟨?_, ?_, ?_, ?_, ?_⟩
  · intro question other same
    have snapshot_eq : reached.snapshot other = reached.snapshot table :=
      congrArg RouteTable.ofEntries same
    rw [Session.observed_ask serves, Session.observed_askNew, snapshot_eq]
  · intro question
    obtain ⟨matchers, routers, asked, isBuilt⟩ :=
      Session.exists_perform_ask_matching serves question
    rw [asked, Session.perform_ofReported]
    exact isBuilt
  · intro matcher isBuilt
    exact ⟨serves.get?_matcher isBuilt,
      fun more => (Store.evolves_enacted more reached).matcherOf?_eq isBuilt⟩
  · intro question
    obtain ⟨generators, routers, asked, isBuilt⟩ :=
      Session.exists_perform_ask_generating serves question
    rw [asked, Session.perform_ofReported]
    exact isBuilt
  · intro generator isBuilt
    exact ⟨serves.get?_generator isBuilt,
      fun more => (Store.evolves_enacted more reached).generatorOf?_eq isBuilt⟩

/-- A router that is made for an empty table, and asked in vain, takes a route that is added then. -/
theorem Store.home_router_never_stale :
    ∃ made, (Session.newRouter ⟨0⟩ .standard).perform (Store.empty.after [.create]) =
        (.ok ⟨0⟩, made) ∧
      (made.table ⟨0⟩).names = [] ∧
      ∃ actions : List Action,
        actions = [.ask ⟨0⟩ (.matching (.parameters "/" "GET")), .call (.make "/" [] [] .null),
          .addRoute ⟨0⟩ "home" ⟨0⟩] ∧
        ((made.enacted actions).table ⟨0⟩).names = ["home"] ∧
        ((Session.ask ⟨0⟩ (.matching (.parameters "/" "GET"))).observed made).1.isOk = false ∧
        ((Session.ask ⟨0⟩ (.matching (.parameters "/" "GET"))).observed
          (made.enacted actions)).1.isOk = true ∧
        (Session.ask ⟨0⟩ (.matching (.parameters "/" "GET"))).observed (made.enacted actions) =
          (Session.askNew ⟨0⟩ .standard (.matching (.parameters "/" "GET"))).observed
            (made.enacted actions) ∧
        (made.enacted actions).matcherOf? ⟨0⟩ = some ⟨0⟩ ∧
        ((made.enacted actions).enacted [.call (.clear ⟨0⟩)]).matcherOf? ⟨0⟩ = some ⟨0⟩ := by
  obtain ⟨router, made, performed, serves⟩ :=
    Store.router_never_stale (Store.empty.after [.create]) ⟨0⟩ .standard
  cases performed
  obtain ⟨answers, -, keeps, -, -⟩ := serves
    [.ask ⟨0⟩ (.matching (.parameters "/" "GET")), .call (.make "/" [] [] .null),
      .addRoute ⟨0⟩ "home" ⟨0⟩]
  refine ⟨_, rfl, by decide +kernel, _, rfl, by decide +kernel, by decide +kernel,
    by decide +kernel, answers _ ⟨0⟩ rfl, by decide +kernel, ?_⟩
  exact (keeps ⟨0⟩ (by decide +kernel)).2 _

end UrlRouting
