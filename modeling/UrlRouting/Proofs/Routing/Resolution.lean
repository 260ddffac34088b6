import UrlRouting.Matching
import UrlRouting.Proofs.Routing.Attributes
import UrlRouting.Proofs.Text.UpperCase

/-!
# Resolution of requests

The first route that takes a request wins, and the methods of those that refuse it are told if none
does (`RouteTable.resolves_first`).  These are exactly the methods with which the same path is taken
(`RouteTable.allowed_are_taken`).
-/

namespace UrlRouting

/-! ### Sets of methods -/

namespace MethodSet

theorem mem_insertName {name other : String} {names : List String} :
    name ∈ insertName other names ↔ name = other ∨ name ∈ names := by
  induction names with
  | nil => simp [insertName]
  | cons first rest inductionHypothesis =>
      unfold insertName
      split
      · exact List.mem_cons
      · split
        · next same => simp [same]
        · rw [List.mem_cons, inductionHypothesis, List.mem_cons]
          exact or_left_comm

theorem mem_foldl_insert {name : String} {names : List String} (set : MethodSet) :
    name ∈ (names.foldl insert set).names ↔ name ∈ set.names ∨ name ∈ names := by
  induction names generalizing set with
  | nil => simp
  | cons first rest inductionHypothesis =>
      rw [List.foldl_cons, inductionHypothesis, insert, mem_insertName, List.mem_cons, or_assoc,
        or_left_comm]

theorem mem_ofExact {name : String} {names : List String} :
    name ∈ (ofExact names).names ↔ name ∈ names := by
  rw [ofExact, mem_foldl_insert]
  simp [empty]

theorem upper_of_mem {set : MethodSet} (isNormal : set.IsNormal) {name : String}
    (membership : name ∈ set.names) : Text.upper name = name := by
  obtain ⟨names, rfl⟩ := isNormal
  obtain ⟨given, -, rfl⟩ := List.mem_map.mp (mem_ofExact.mp membership)
  exact Text.upper_upper given

end MethodSet

/-! ### Single routes -/

namespace Route

variable {route : Route} {path method : String}

/-- Whether the path of a request fits, but not its method. -/
def refuses (route : Route) (path method : String) : Bool :=
  match route.takes path method none with
  | .error .method => true
  | _ => false

theorem takes_some (route : Route) (path method name : String) :
    route.takes path method (some name) =
      (route.takes path method none).map (·.putName nameKey (.text name)) := by
  unfold takes
  split
  · rfl
  · split <;> rfl

theorem supportsMethod_iff :
    route.supportsMethod method ↔
      route.methods.names = [] ∨ Text.upper method ∈ route.methods.names := by
  simp [supportsMethod, MethodSet.isEmpty, MethodSet.contains]

theorem takes_eq_ok_iff :
    (∃ parameters, route.takes path method none = .ok parameters) ↔
      (route.compiled.expression.fullMatch? path).isSome ∧ route.supportsMethod method := by
  unfold takes
  cases route.compiled.expression.fullMatch? path with
  | none => simp
  | some captured => cases route.supportsMethod method <;> simp

theorem refuses_iff :
    route.refuses path method ↔
      (route.compiled.expression.fullMatch? path).isSome ∧ ¬ route.supportsMethod method := by
  unfold refuses takes
  cases route.compiled.expression.fullMatch? path with
  | none => simp
  | some captured => cases route.supportsMethod method <;> simp

/-- A route that does not take a request refuses it or has another path. -/
theorem takes_eq_error {mismatch : Mismatch}
    (fails : route.takes path method none = .error mismatch) :
    (mismatch = .method ∧ route.refuses path method = true) ∨
      (mismatch = .path ∧ route.refuses path method = false) := by
  unfold refuses
  rw [fails]
  cases mismatch with
  | path => exact .inr ⟨rfl, rfl⟩
  | method => exact .inl ⟨rfl, rfl⟩

/-- A route that takes all methods refuses none. -/
theorem methods_ne_nil_of_refuses (refuses : route.refuses path method) :
    route.methods.names ≠ [] := by
  intro unrestricted
  exact (refuses_iff.mp refuses).2 (supportsMethod_iff.mpr (.inl unrestricted))

end Route

/-! ### Tables -/

namespace RouteTable

variable {table : RouteTable Route} {path method name : String} {parameters : Attributes}

/-- No entry of some takes a request. -/
def TakenByNone (entries : List (String × Route)) (path method : String) : Prop :=
  ∀ entry ∈ entries, ∃ mismatch, entry.2.takes path method none = .error mismatch

/-- An entry takes a request, which gives some parameters, and none before it does. -/
def TakenFirst (entries : List (String × Route)) (path method name : String)
    (parameters : Attributes) : Prop :=
  ∃ front route rest, entries = front ++ (name, route) :: rest ∧
    TakenByNone front path method ∧ route.takes path method none = .ok parameters

/-- The routes whose path fits a request while their methods do not. -/
def refusing (entries : List (String × Route)) (path method : String) : List Route :=
  (entries.map (·.2)).filter (·.refuses path method)

theorem takenFirst_or_takenByNone (entries : List (String × Route)) (path method : String) :
    (∃ name parameters, TakenFirst entries path method name parameters) ∨
      TakenByNone entries path method := by
  induction entries with
  | nil => exact .inr (by simp [TakenByNone])
  | cons entry rest inductionHypothesis =>
      cases outcome : entry.2.takes path method none with
      | ok parameters =>
          exact .inl ⟨entry.1, parameters, [], entry.2, rest, rfl, by simp [TakenByNone], outcome⟩
      | error mismatch =>
          rcases inductionHypothesis with
            ⟨name, parameters, front, route, behind, rfl, untaken, takes⟩ | untaken
          · refine .inl ⟨name, parameters, entry :: front, route, behind, rfl, ?_, takes⟩
            exact List.forall_mem_cons.mpr ⟨⟨mismatch, outcome⟩, untaken⟩
          · exact .inr (List.forall_mem_cons.mpr ⟨⟨mismatch, outcome⟩, untaken⟩)

/-- What the routes in front leave of the methods that are allowed does not matter. -/
theorem among_of_takenFirst {entries : List (String × Route)}
    (first : TakenFirst entries path method name parameters) (allowed : MethodSet) :
    Resolution.among path method allowed entries =
      .found name (parameters.putName Route.nameKey (.text name)) := by
  obtain ⟨front, route, rest, rfl, untaken, takes⟩ := first
  induction front generalizing allowed with
  | nil =>
      rw [List.nil_append, Resolution.among, Route.takes_some, takes]
      rfl
  | cons entry front inductionHypothesis =>
      obtain ⟨⟨mismatch, fails⟩, untakenBehind⟩ := List.forall_mem_cons.mp untaken
      rw [List.cons_append, Resolution.among, Route.takes_some, fails]
      cases mismatch with
      | path => exact inductionHypothesis allowed untakenBehind
      | method => exact inductionHypothesis (allowed.union entry.2.methods) untakenBehind

theorem among_of_takenByNone {entries : List (String × Route)}
    (untaken : TakenByNone entries path method) (allowed : MethodSet) :
    Resolution.among path method allowed entries =
      let set := ((refusing entries path method).flatMap (·.methods.names)).foldl .insert allowed
      if set.isEmpty then .missed else .refused set := by
  induction entries generalizing allowed with
  | nil => rfl
  | cons entry rest inductionHypothesis =>
      obtain ⟨⟨mismatch, fails⟩, untakenBehind⟩ := List.forall_mem_cons.mp untaken
      rw [Resolution.among, Route.takes_some, fails, refusing, List.map_cons]
      rcases Route.takes_eq_error fails with ⟨rfl, refuses⟩ | ⟨rfl, accepts⟩
      · rw [List.filter_cons_of_pos (by exact refuses), List.flatMap_cons, List.foldl_append]
        exact inductionHypothesis untakenBehind (allowed.union entry.2.methods)
      · rw [List.filter_cons_of_neg (by simp [accepts])]
        exact inductionHypothesis untakenBehind allowed

/-- The methods that the routes for a path allow, going by those that refuse a request. -/
def allowedMethods (entries : List (String × Route)) (path method : String) : MethodSet :=
  .ofExact ((refusing entries path method).flatMap (·.methods.names))

theorem mem_allowedMethods {entries : List (String × Route)} :
    name ∈ (allowedMethods entries path method).names ↔
      ∃ route ∈ refusing entries path method, name ∈ route.methods.names :=
  MethodSet.mem_ofExact.trans List.mem_flatMap

theorem mem_refusing {entries : List (String × Route)} {route : Route} :
    route ∈ refusing entries path method ↔
      (∃ name, (name, route) ∈ entries) ∧ route.refuses path method := by
  simp [refusing]

/-- There are allowed methods as soon as a route refuses, since no route without methods does. -/
theorem allowedMethods_isEmpty_iff {entries : List (String × Route)} :
    (allowedMethods entries path method).isEmpty ↔ refusing entries path method = [] := by
  rw [MethodSet.isEmpty, List.isEmpty_iff, List.eq_nil_iff_forall_not_mem]
  constructor
  · intro noMethods
    rw [List.eq_nil_iff_forall_not_mem]
    intro route membership
    have some := Route.methods_ne_nil_of_refuses (mem_refusing.mp membership).2
    obtain ⟨allowed, isMethod⟩ := List.exists_mem_of_ne_nil _ some
    exact noMethods allowed (mem_allowedMethods.mpr ⟨route, membership, isMethod⟩)
  · intro noneRefuses allowed isMethod
    obtain ⟨route, membership, -⟩ := mem_allowedMethods.mp isMethod
    simp [noneRefuses] at membership

theorem resolve_of_takenFirst (first : TakenFirst table.entries path method name parameters) :
    table.resolve path method =
      .found name (parameters.putName Route.nameKey (.text name)) :=
  among_of_takenFirst first .empty

theorem resolve_of_takenByNone (untaken : TakenByNone table.entries path method) :
    table.resolve path method =
      if refusing table.entries path method = [] then .missed
      else .refused (allowedMethods table.entries path method) := by
  rw [resolve, among_of_takenByNone untaken]
  exact if_congr allowedMethods_isEmpty_iff rfl rfl

/-! ### Answers -/

theorem run_resolveParameters (table : RouteTable Route) (path method : String) :
    (Reported.run (table.resolveParameters path method)).2 =
      ((table.resolve path method).result path).map (·.2) := by
  simp only [resolveParameters]
  cases (table.resolve path method).result path <;> rfl

theorem run_hasMatch (table : RouteTable Route) (path method : String) :
    (Reported.run (table.hasMatch path method)).2 =
      .ok (Reported.run (table.resolveParameters path method)).2.isOk := by
  rw [run_resolveParameters]
  simp only [hasMatch]
  cases table.resolve path method <;> rfl

theorem run_resolveName (table : RouteTable Route) (path method : String) :
    (Reported.run (table.resolveName path method)).2 =
      (Reported.run (table.resolveParameters path method)).2.map fun parameters =>
        (parameters.named? Route.nameKey).getD .null := by
  rw [run_resolveParameters]
  simp only [resolveName, resolveParameters]
  cases (table.resolve path method).result path <;> rfl

/-- Why a request is not taken: the methods that are allowed instead, or that none is. -/
def failureFor (entries : List (String × Route)) (path method : String) : Failure :=
  if refusing entries path method = [] then .unmatchedPath path
  else .otherMethods (allowedMethods entries path method)

theorem run_of_takenFirst (first : TakenFirst table.entries path method name parameters) :
    (Reported.run (table.resolveParameters path method)).2 =
      .ok (parameters.putName Route.nameKey (.text name)) := by
  rw [run_resolveParameters, resolve_of_takenFirst first]
  rfl

theorem run_of_takenByNone (untaken : TakenByNone table.entries path method) :
    (Reported.run (table.resolveParameters path method)).2 =
      .error (failureFor table.entries path method) := by
  rw [run_resolveParameters, resolve_of_takenByNone untaken, failureFor]
  split <;> rfl

theorem run_eq_ok_iff :
    (Reported.run (table.resolveParameters path method)).2 = .ok parameters ↔
      ∃ name captured, TakenFirst table.entries path method name captured ∧
        parameters = captured.putName Route.nameKey (.text name) := by
  constructor
  · intro isOk
    rcases takenFirst_or_takenByNone table.entries path method with
      ⟨name, captured, first⟩ | untaken
    · rw [run_of_takenFirst first] at isOk
      injection isOk with same
      exact ⟨name, captured, first, same.symm⟩
    · rw [run_of_takenByNone untaken] at isOk
      simp at isOk
  · rintro ⟨name, captured, first, rfl⟩
    exact run_of_takenFirst first

theorem run_eq_error_iff {failure : Failure} :
    (Reported.run (table.resolveParameters path method)).2 = .error failure ↔
      TakenByNone table.entries path method ∧
        failure = failureFor table.entries path method := by
  constructor
  · intro isError
    rcases takenFirst_or_takenByNone table.entries path method with
      ⟨name, captured, first⟩ | untaken
    · rw [run_of_takenFirst first] at isError
      simp at isError
    · rw [run_of_takenByNone untaken] at isError
      injection isError with same
      exact ⟨untaken, same.symm⟩
  · rintro ⟨untaken, rfl⟩
    exact run_of_takenByNone untaken

/-- The name of the route is what stands under the key for names, in the place of a default or a
captured text. -/
theorem run_resolveName_of_takenFirst
    (first : TakenFirst table.entries path method name parameters) :
    (Reported.run (table.resolveName path method)).2 = .ok (.text name) := by
  rw [run_resolveName, run_of_takenFirst first]
  simp only [Except.map, Attributes.named?_putName_self, Option.getD_some]

/-- The first route that takes a request gives its parameters and the name under which it is
registered, whatever else it has under the key for this name.  If there is none, the answer tells
the methods of all routes that refuse the request, or else that there is no route for the path. -/
theorem resolves_first (table : RouteTable Route) (path method : String) :
    (∀ parameters, (Reported.run (table.resolveParameters path method)).2 = .ok parameters ↔
      ∃ name captured, TakenFirst table.entries path method name captured ∧
        parameters = captured.putName Route.nameKey (.text name)) ∧
    (∀ failure, (Reported.run (table.resolveParameters path method)).2 = .error failure ↔
      TakenByNone table.entries path method ∧
        ((refusing table.entries path method ≠ [] ∧
            failure = .otherMethods (allowedMethods table.entries path method)) ∨
          (refusing table.entries path method = [] ∧ failure = .unmatchedPath path))) ∧
    (∃ isTaken, (Reported.run (table.hasMatch path method)).2 = .ok isTaken ∧
      (isTaken = true ↔ ∃ parameters,
        (Reported.run (table.resolveParameters path method)).2 = .ok parameters)) ∧
    (∀ value, (Reported.run (table.resolveName path method)).2 = .ok value ↔
      ∃ name captured, TakenFirst table.entries path method name captured ∧ value = .text name) ∧
    ∀ failure, (Reported.run (table.resolveName path method)).2 = .error failure ↔
      (Reported.run (table.resolveParameters path method)).2 = .error failure := by
  refine ⟨fun _ => run_eq_ok_iff, ?_, ⟨_, run_hasMatch table path method, ?_⟩, ?_, ?_⟩
  · intro failure
    rw [run_eq_error_iff, failureFor]
    by_cases noneRefuses : refusing table.entries path method = [] <;> simp [noneRefuses]
  · cases (Reported.run (table.resolveParameters path method)).2 with
    | ok attributes => simp [Except.isOk, Except.toBool]
    | error failure => simp [Except.isOk, Except.toBool]
  · intro value
    constructor
    · intro isOk
      rcases takenFirst_or_takenByNone table.entries path method with
        ⟨name, captured, first⟩ | untaken
      · rw [run_resolveName_of_takenFirst first] at isOk
        injection isOk with same
        exact ⟨name, captured, first, same.symm⟩
      · rw [run_resolveName, run_of_takenByNone untaken] at isOk
        simp [Except.map] at isOk
    · rintro ⟨name, captured, first, rfl⟩
      exact run_resolveName_of_takenFirst first
  · intro failure
    rw [run_resolveName]
    cases (Reported.run (table.resolveParameters path method)).2 <;> simp [Except.map]

/-! ### Other methods -/

theorem taken_iff (table : RouteTable Route) (path method : String) :
    (∃ parameters, (Reported.run (table.resolveParameters path method)).2 = .ok parameters) ↔
      ∃ entry ∈ table.entries, (entry.2.compiled.expression.fullMatch? path).isSome ∧
        entry.2.supportsMethod method := by
  constructor
  · rintro ⟨parameters, isOk⟩
    obtain ⟨name, captured, ⟨front, route, rest, entries_eq, -, takes⟩, -⟩ :=
      run_eq_ok_iff.mp isOk
    exact ⟨(name, route), by simp [entries_eq], Route.takes_eq_ok_iff.mp ⟨captured, takes⟩⟩
  · rintro ⟨entry, membership, isTaken⟩
    obtain ⟨captured, takes⟩ := Route.takes_eq_ok_iff.mpr isTaken
    rcases takenFirst_or_takenByNone table.entries path method with
      ⟨name, captured, first⟩ | untaken
    · exact ⟨_, run_of_takenFirst first⟩
    · obtain ⟨mismatch, fails⟩ := untaken entry membership
      rw [takes] at fails
      simp at fails

/-- Where no route takes a request, those whose path fits refuse it, whatever its method. -/
theorem refusing_of_takenByNone {entries : List (String × Route)}
    (untaken : TakenByNone entries path method) :
    refusing entries path method = (entries.map (·.2)).filter fun route =>
      (route.compiled.expression.fullMatch? path).isSome := by
  apply List.filter_congr
  intro route membership
  obtain ⟨entry, inEntries, rfl⟩ := List.mem_map.mp membership
  obtain ⟨mismatch, fails⟩ := untaken entry inEntries
  have notTaken : ¬ ((entry.2.compiled.expression.fullMatch? path).isSome ∧
      entry.2.supportsMethod method) := by
    rw [← Route.takes_eq_ok_iff, fails]
    simp
  rw [Bool.eq_iff_iff, Route.refuses_iff]
  exact ⟨And.left, fun fits => ⟨fits, fun supports => notTaken ⟨fits, supports⟩⟩⟩

/-- With another method, exactly the methods that were told are taken. -/
theorem taken_iff_mem_allowedMethods (untaken : TakenByNone table.entries path method)
    (other : String) :
    (∃ parameters, (Reported.run (table.resolveParameters path other)).2 = .ok parameters) ↔
      Text.upper other ∈ (allowedMethods table.entries path method).names := by
  rw [taken_iff, mem_allowedMethods]
  constructor
  · rintro ⟨entry, membership, fits, supports⟩
    have refuses : entry.2 ∈ refusing table.entries path method := by
      rw [refusing_of_takenByNone untaken]
      exact List.mem_filter.mpr ⟨List.mem_map_of_mem membership, fits⟩
    refine ⟨entry.2, refuses, (Route.supportsMethod_iff.mp supports).resolve_left ?_⟩
    exact Route.methods_ne_nil_of_refuses (mem_refusing.mp refuses).2
  · rintro ⟨route, membership, isMethod⟩
    obtain ⟨⟨name, isEntry⟩, refuses⟩ := mem_refusing.mp membership
    exact ⟨(name, route), isEntry, (Route.refuses_iff.mp refuses).1,
      Route.supportsMethod_iff.mpr (.inr isMethod)⟩

theorem eq_allowedMethods_of_run {allowed : MethodSet}
    (refused : (Reported.run (table.resolveParameters path method)).2 =
      .error (.otherMethods allowed)) :
    TakenByNone table.entries path method ∧
      failureFor table.entries path method = .otherMethods allowed ∧
      allowed = allowedMethods table.entries path method := by
  obtain ⟨untaken, failure_eq⟩ := run_eq_error_iff.mp refused
  refine ⟨untaken, failure_eq.symm, ?_⟩
  rw [failureFor] at failure_eq
  split at failure_eq
  · simp [Failure.otherMethods, Failure.unmatchedPath] at failure_eq
  · simpa [Failure.otherMethods] using failure_eq

/-- Where a request is answered with the methods that are allowed, the same path is taken with
exactly these methods, in any letter case, and with all others it is answered in the same way. -/
theorem allowed_are_taken {allowed : MethodSet}
    (refused : (Reported.run (table.resolveParameters path method)).2 =
      .error (.otherMethods allowed)) :
    (∀ other, (∃ parameters,
        (Reported.run (table.resolveParameters path other)).2 = .ok parameters) ↔
      Text.upper other ∈ allowed.names) ∧
    (∀ other, (Reported.run (table.resolveParameters path other)).2 =
        .error (.otherMethods allowed) ↔ Text.upper other ∉ allowed.names) ∧
    ∀ other ∈ allowed.names, ∃ parameters,
      (Reported.run (table.resolveParameters path other)).2 = .ok parameters := by
  obtain ⟨untaken, failure_eq, rfl⟩ := eq_allowedMethods_of_run refused
  have taken_iff := taken_iff_mem_allowedMethods untaken
  refine ⟨taken_iff, ?_, ?_⟩
  · intro other
    rw [← taken_iff other]
    constructor
    · rintro isError ⟨parameters, isOk⟩
      rw [isError] at isOk
      simp at isOk
    · intro notTaken
      rcases takenFirst_or_takenByNone table.entries path other with
        ⟨name, captured, first⟩ | untakenOther
      · exact absurd ⟨_, run_of_takenFirst first⟩ notTaken
      · have same : refusing table.entries path other = refusing table.entries path method := by
          rw [refusing_of_takenByNone untaken, refusing_of_takenByNone untakenOther]
        rw [run_of_takenByNone untakenOther, ← failure_eq, failureFor, failureFor, allowedMethods,
          allowedMethods, same]
  · intro other membership
    -- What a route is given for methods is in upper case already, and stays so.
    obtain ⟨route, refuses, isMethod⟩ := mem_allowedMethods.mp membership
    rw [taken_iff other, MethodSet.upper_of_mem route.isNormal isMethod]
    exact membership

/-- Items can be listed and added, but not replaced. -/
theorem items_allowed_are_taken : ∃ table : RouteTable Route, table.names = ["list", "add"] ∧
    (Reported.run (table.resolveParameters "/items" "PUT")).2 =
      .error (.otherMethods ⟨["GET", "POST"]⟩) ∧
    (∃ parameters, (Reported.run (table.resolveParameters "/items" "post")).2 = .ok parameters) ∧
    (Reported.run (table.resolveParameters "/items" "delete")).2 =
      .error (.otherMethods ⟨["GET", "POST"]⟩) := by
  obtain ⟨compiled, compile_eq, fits⟩ : ∃ compiled,
      CompiledTemplate.compile "/items" [] [] = .ok compiled ∧
      compiled.expression.fullMatch? "/items" = some [] := ⟨_, by cbv, by cbv⟩
  have get_eq : MethodSet.ofNames ["get"] = ⟨["GET"]⟩ := by decide +kernel
  have post_eq : MethodSet.ofNames ["post"] = ⟨["POST"]⟩ := by decide +kernel
  have put_eq : Text.upper "PUT" = "PUT" := by decide +kernel
  let table : RouteTable Route := .ofEntries [
    ("list", ⟨_, [], [], ⟨["GET"]⟩, compiled, compile_eq, ⟨["get"], get_eq.symm⟩⟩),
    ("add", ⟨_, [], [], ⟨["POST"]⟩, compiled, compile_eq, ⟨["post"], post_eq.symm⟩⟩)]
  have resolved : table.resolve "/items" "PUT" = .refused ⟨["GET", "POST"]⟩ := by
    simp only [resolve, table, ofEntries, Resolution.among, Route.takes, fits,
      Route.supportsMethod, put_eq]
    rfl
  have refused : (Reported.run (table.resolveParameters "/items" "PUT")).2 =
      .error (.otherMethods ⟨["GET", "POST"]⟩) := by
    rw [run_resolveParameters, resolved]
    rfl
  obtain ⟨taken_iff, others, -⟩ := allowed_are_taken refused
  refine ⟨table, rfl, refused, (taken_iff "post").mpr ?_, (others "delete").mpr ?_⟩
  · decide +kernel
  · decide +kernel

end RouteTable

end UrlRouting
