import UrlRouting.Proofs.Store.Defaults
import UrlRouting.Proofs.Template.Fronts

/-!
# Defaults that are set

Which variables have defaults decides which of them may be left out of a path, but not whether there
is an expression for the path (`CompiledTemplate.exists_compile_of_compile`).  So no defaults are
refused by a route or by the routes of a table (`Store.defaults_never_refused`).
-/

namespace UrlRouting

namespace CompiledTemplate

/-- Compiled templates that differ in what may be left out of a path, if at all. -/
structure SharesParts (compiled other : CompiledTemplate) : Prop where
  segments : other.segments = compiled.segments
  variableNames : other.variableNames = compiled.variableNames
  requirements : other.requirements = compiled.requirements
  constraints : other.constraints = compiled.constraints

variable {template : String} {defaults others : Attributes} {requirements : Requirements}
  {compiled other : CompiledTemplate}

theorem Compiles.sharesParts (compiles : Compiles template defaults requirements compiled)
    (compiles' : Compiles template others requirements other) : compiled.SharesParts other := by
  have segments_eq : other.segments = compiled.segments :=
    Except.ok.inj (compiles'.parse.symm.trans compiles.parse)
  have requirements_eq : other.requirements = compiled.requirements := by
    rw [compiles'.requirements_eq, compiles.requirements_eq, segments_eq]
  have constraints := compiles'.constraints
  rw [requirements_eq, compiles.constraints] at constraints
  exact ⟨segments_eq, by rw [variableNames, segments_eq, variableNames], requirements_eq,
    (Except.ok.inj constraints).symm⟩

/-- The same variables stand in the expression whichever of them have defaults, and only they can
make it invalid. -/
theorem exists_compile_of_compile
    (compile_eq : compile template defaults requirements = .ok compiled) (others : Attributes) :
    ∃ other, compile template others requirements = .ok other := by
  have compiles := compiles_of_compile compile_eq
  have constrains := compiles.constraints
  obtain ⟨expression, reads⟩ := compiles.exists_expression_of_filter_eq rfl
    (optionalStart others.hasName compiled.segments)
    (leadSeparatorOf compiled.segments (optionalStart others.hasName compiled.segments))
  rw [compiles.requirements_eq] at constrains reads
  exact ⟨_, compile_eq_ok compiles.parse constrains reads⟩

end CompiledTemplate

namespace Route

theorem exists_setDefaults (route : Route) (defaults : Attributes) :
    ∃ changed, route.setDefaults defaults = .ok changed := by
  obtain ⟨compiled, compile_eq⟩ :=
    CompiledTemplate.exists_compile_of_compile route.compile_eq defaults
  unfold setDefaults make
  split
  · exact ⟨_, rfl⟩
  · next fault refused =>
      rw [compile_eq] at refused
      cases refused

theorem sharesParts_of_setDefaults {route changed : Route} {defaults : Attributes}
    (made : route.setDefaults defaults = .ok changed) :
    route.compiled.SharesParts changed.compiled := by
  obtain ⟨path_eq, -, requirements_eq⟩ := make_eq_ok made
  have compile_eq := changed.compile_eq
  rw [path_eq, requirements_eq] at compile_eq
  exact (CompiledTemplate.compiles_of_compile route.compile_eq).sharesParts
    (CompiledTemplate.compiles_of_compile compile_eq)

end Route

namespace Session

theorem perform_fillDefaults (table : Handle SharedTable) (defaults : Attributes) (store : Store) :
    (fillDefaults table defaults).perform store =
      if defaults.isEmpty then (.ok (), store)
      else
        let swept := store.routes.sweep
          (fun route => route.setDefaults (defaults.merge route.defaults))
          (store.table table).entries
        (swept.1, { store with routes := swept.2 }) := by
  unfold fillDefaults
  split
  · rfl
  · rw [perform_bind, perform_get]
    exact perform_editRoutes _ _ store

/-- Nothing stops a call that fills in defaults for all routes of a table. -/
theorem exists_perform_fillDefaults (store : Store) (table : Handle SharedTable)
    (defaults : Attributes) :
    ∃ after, (fillDefaults table defaults).perform store = (.ok (), after) := by
  rw [perform_fillDefaults]
  split
  · exact ⟨store, rfl⟩
  · rcases Arena.sweep_cases (fun route => route.setDefaults (defaults.merge route.defaults))
      (store.table table).entries store.routes with
      ⟨reached, swept, -⟩ | ⟨failure, reached, -, _, _, _, _, route, -, -, -, fails⟩
    · exact ⟨_, by rw [swept]⟩
    · obtain ⟨changed, made⟩ := route.exists_setDefaults (defaults.merge route.defaults)
      dsimp only at fails
      rw [made] at fails
      cases fails

end Session

/-- A template compiles with all defaults or with none, and what does not concern the variables that
may be left out is the same then.  So a route takes whatever defaults it is given, all together or
one by one, and so do the routes of a table. -/
theorem Store.defaults_never_refused :
    (∀ (template : String) (defaults others : Attributes) (requirements : Requirements),
      ((∃ compiled, CompiledTemplate.compile template defaults requirements = .ok compiled) ↔
        ∃ other, CompiledTemplate.compile template others requirements = .ok other) ∧
      ∀ compiled other, CompiledTemplate.compile template defaults requirements = .ok compiled →
        CompiledTemplate.compile template others requirements = .ok other →
        compiled.SharesParts other) ∧
    (∀ (route : Route) (defaults : Attributes), ∃ changed,
      route.setDefaults defaults = .ok changed ∧ changed.defaults = defaults ∧
        route.compiled.SharesParts changed.compiled) ∧
    (∀ (route : Route) (name : String) (value : Value), ∃ changed,
      route.setDefault name value = .ok changed ∧
        changed.defaults = route.defaults.putName name value ∧
        route.compiled.SharesParts changed.compiled) ∧
    ∀ (store : Store) (table : Handle SharedTable) (defaults : Attributes), ∃ after,
      (Session.fillDefaults table defaults).perform store = (.ok (), after) := by
  have isSet (route : Route) (defaults : Attributes) : ∃ changed,
      route.setDefaults defaults = .ok changed ∧ changed.defaults = defaults ∧
        route.compiled.SharesParts changed.compiled := by
    obtain ⟨changed, made⟩ := route.exists_setDefaults defaults
    obtain ⟨-, defaults_eq, -⟩ := Route.make_eq_ok made
    exact ⟨changed, made, defaults_eq, Route.sharesParts_of_setDefaults made⟩
  refine ⟨fun template defaults others requirements => ⟨⟨?_, ?_⟩, ?_⟩, isSet, ?_,
    Session.exists_perform_fillDefaults⟩
  · rintro ⟨compiled, compile_eq⟩
    exact CompiledTemplate.exists_compile_of_compile compile_eq others
  · rintro ⟨other, compile_eq⟩
    exact CompiledTemplate.exists_compile_of_compile compile_eq defaults
  · intro compiled other compile_eq compile_eq'
    exact (CompiledTemplate.compiles_of_compile compile_eq).sharesParts
      (CompiledTemplate.compiles_of_compile compile_eq')
  · exact fun route name value => isSet route (route.defaults.putName name value)

/-- A requirement that counts groups is valid behind a variable that may be left out, too. -/
theorem Store.pair_never_refused : ∃ compiled other,
    CompiledTemplate.compile "/{a}/{b}" [] [(.text "b", "([xy])\\1")] = .ok compiled ∧
      CompiledTemplate.compile "/{a}/{b}" [(.text "b", .null), (.text "a", .int 1)]
        [(.text "b", "([xy])\\1")] = .ok other ∧
      compiled.pattern = "^/(?P<a>[^/]+)/(?P<b>([xy])\\1)$" ∧
      other.pattern = "^/(?:(?P<a>[^/]+)(?:/(?P<b>([xy])\\1))?)?$" ∧
      compiled.SharesParts other := by
  obtain ⟨forTemplates, -⟩ := Store.defaults_never_refused
  obtain ⟨compiled, compile_eq, pattern_eq⟩ : ∃ compiled,
      CompiledTemplate.compile "/{a}/{b}" [] [(.text "b", "([xy])\\1")] = .ok compiled ∧
        compiled.pattern = "^/(?P<a>[^/]+)/(?P<b>([xy])\\1)$" := ⟨_, by cbv, by decide +kernel⟩
  obtain ⟨succeeds, share⟩ := forTemplates "/{a}/{b}" [] [(.text "b", .null), (.text "a", .int 1)]
    [(.text "b", "([xy])\\1")]
  obtain ⟨other, compile_eq'⟩ := succeeds.mp ⟨compiled, compile_eq⟩
  have pattern_eq' : (CompiledTemplate.compile "/{a}/{b}"
      [(.text "b", .null), (.text "a", .int 1)] [(.text "b", "([xy])\\1")]).map (·.pattern) =
        .ok "^/(?:(?P<a>[^/]+)(?:/(?P<b>([xy])\\1))?)?$" := by decide +kernel
  rw [compile_eq'] at pattern_eq'
  exact ⟨compiled, other, compile_eq, compile_eq', pattern_eq, Except.ok.inj pattern_eq',
    share compiled other compile_eq compile_eq'⟩

end UrlRouting
