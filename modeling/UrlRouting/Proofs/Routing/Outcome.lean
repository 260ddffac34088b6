import UrlRouting.Proofs.Routing.Demands
import UrlRouting.Proofs.Routing.Separation

/-!
# What comes of a link

There are six reasons why a link is not made, and they are looked for in this order: no route has
its name, the value of a variable has no text, variables have no value, the text of a value does not
fit what its variable requires, a value for the query has no text, or an absolute link has no base.
Each request has one outcome (`RouteTable.link_eq_iff_outcome`).
-/

namespace UrlRouting

open CompiledTemplate Generation

/-! ### Values -/

namespace Generation

variable {defaults : Attributes} {parameters : Parameters} {name : String}

/-- No value, or the null value, which counts as none. -/
def IsNothing (value? : Option Value) : Prop := value? = none ∨ value? = some .null

/-- Whether neither a parameter nor a default gives a variable a value. -/
def Lacks (defaults : Attributes) (parameters : Parameters) (name : String) : Prop :=
  IsNothing (parameters.get? name) ∧ IsNothing (defaults.named? name)

/-- The value of a variable: what a parameter gives, or else a default. -/
inductive HasValue (defaults : Attributes) (parameters : Parameters) (name : String) :
    Value → Prop where
  | parameter {value : Value} (isGiven : parameters.get? name = some value)
      (notNull : value ≠ .null) : HasValue defaults parameters name value
  | default {value : Value} (notGiven : IsNothing (parameters.get? name))
      (isDefault : defaults.named? name = some value) (notNull : value ≠ .null) :
      HasValue defaults parameters name value

theorem present?_eq_some_iff {value? : Option Value} {value : Value} :
    present? value? = some value ↔ value? = some value ∧ value ≠ .null := by
  unfold present?
  split
  · constructor
    · intro isSome
      cases isSome
    · rintro ⟨isValue, notNull⟩
      cases isValue
      exact absurd rfl notNull
  · next notNull =>
      constructor
      · rintro rfl
        exact ⟨rfl, fun isNull => notNull (congrArg some isNull)⟩
      · exact And.left

theorem lacks_iff :
    Lacks defaults parameters name ↔ valueOf? defaults parameters name = none := by
  unfold Lacks IsNothing
  rw [← present?_eq_none_iff, ← present?_eq_none_iff, valueOf?]
  cases present? (parameters.get? name) <;> simp

instance : Decidable (Lacks defaults parameters name) := decidable_of_iff _ lacks_iff.symm

theorem hasValue_iff {value : Value} :
    HasValue defaults parameters name value ↔
      valueOf? defaults parameters name = some value := by
  constructor
  · rintro (⟨isGiven, notNull⟩ | ⟨notGiven, isDefault, notNull⟩)
    · exact valueOf?_of_parameter isGiven notNull
    · rw [valueOf?, present?_eq_none_iff.mpr notGiven]
      exact present?_eq_some_iff.mpr ⟨isDefault, notNull⟩
  · intro isValue
    cases given : present? (parameters.get? name) with
    | some other =>
        obtain rfl : other = value := by simpa [valueOf?, given] using isValue
        obtain ⟨isGiven, notNull⟩ := present?_eq_some_iff.mp given
        exact .parameter isGiven notNull
    | none =>
        rw [valueOf?, given] at isValue
        obtain ⟨isDefault, notNull⟩ := present?_eq_some_iff.mp isValue
        exact .default (present?_eq_none_iff.mp given) isDefault notNull

theorem missingVariables_eq_filter (names : List String) :
    missingVariables defaults parameters names = names.filter (Lacks defaults parameters) := by
  apply List.filter_congr
  intro name _
  rw [Bool.eq_iff_iff, decide_eq_true_iff, lacks_iff, Option.isNone_iff_eq_none]

end Generation

/-! ### Requirements -/

namespace Route

variable {route : Route} {parameters : Parameters} {name requirement text : String}

/-- What restricts a variable: the explicit requirement for it, or else that of a converter other
than the one for any text; and this as an expression of its own. -/
def Restricts (route : Route) (name requirement : String) (constraint : Expression) : Prop :=
  ∃ converter, .var name converter ∈ route.compiled.segments ∧
    requirementOf route.requirements name (converter.getD .str) = some requirement ∧
    Expression.compile requirement = .ok constraint

/-- Whether a variable has a value with a text that does not fit its requirement. -/
def Violates (route : Route) (parameters : Parameters) (name requirement text : String) : Prop :=
  ∃ constraint value, route.Restricts name requirement constraint ∧
    HasValue route.defaults parameters name value ∧ value.toText = text ∧
    constraint.accepts text = false

/-- The first violation in the order of the template. -/
def ViolatesFirst (route : Route) (parameters : Parameters) (name requirement text : String) :
    Prop :=
  route.Violates parameters name requirement text ∧
    ∃ front behind, route.variableNames = front ++ name :: behind ∧
      ∀ other ∈ front, ∀ otherRequirement otherText,
        ¬ route.Violates parameters other otherRequirement otherText

/-- Whether every value of a variable can be turned into its text. -/
def IsWritten (route : Route) (parameters : Parameters) : Prop :=
  ∀ name ∈ route.variableNames, ∀ value,
    HasValue route.defaults parameters name value → value.hasText = true

/-- Whether all variables have values, with texts that fit their requirements. -/
structure Fits (route : Route) (parameters : Parameters) : Prop where
  written : route.IsWritten parameters
  complete : ∀ name ∈ route.variableNames, ¬ Lacks route.defaults parameters name
  accepted : ∀ name requirement text, ¬ route.Violates parameters name requirement text

theorem isWritten_iff :
    route.IsWritten parameters ↔
      haveTexts route.defaults parameters route.variableNames = true := by
  rw [haveTexts_iff]
  exact forall₂_congr fun _ _ => forall_congr' fun _ => imp_congr_left hasValue_iff

/-- What restricts a variable is what has been compiled for it. -/
theorem restricts_iff {constraint : Expression} :
    route.Restricts name requirement constraint ↔
      route.compiled.requirements.lookup name = some requirement ∧
        route.compiled.constraints.lookup name = some constraint := by
  have compiles := compiles_of_compile route.compile_eq
  have nodup := (Segment.areParsed_of_parse compiles.parse).nodup
  have looked := lookup_constraintsOf compiles.constraints name
  constructor
  · rintro ⟨converter, membership, required, compilesAlone⟩
    have isRequired : route.compiled.requirements.lookup name = some requirement := by
      rw [compiles.requirements_eq, lookup_requirementsOf nodup membership, required]
    rcases looked with ⟨absent, -⟩ | ⟨_, _, isSource, isConstrained, compilesSource⟩
    · cases absent.symm.trans isRequired
    · cases isSource.symm.trans isRequired
      cases compilesSource.symm.trans compilesAlone
      exact ⟨isRequired, isConstrained⟩
  · rintro ⟨isRequired, isConstrained⟩
    rcases looked with ⟨absent, -⟩ | ⟨_, _, isSource, isExpression, compilesSource⟩
    · cases absent.symm.trans isRequired
    · cases isSource.symm.trans isRequired
      cases isExpression.symm.trans isConstrained
      rw [compiles.requirements_eq] at isRequired
      obtain ⟨converter, membership⟩ :=
        Segment.mem_names_iff.mp (mem_names_of_lookup_requirementsOf isRequired)
      rw [lookup_requirementsOf nodup membership] at isRequired
      exact ⟨converter, membership, isRequired, compilesSource⟩

theorem exists_restricts {constraint : Expression}
    (isConstrained : route.compiled.constraints.lookup name = some constraint) :
    ∃ requirement, route.Restricts name requirement constraint := by
  rcases lookup_constraintsOf (compiles_of_compile route.compile_eq).constraints name with
    ⟨-, absent⟩ | ⟨requirement, -, isRequired, -⟩
  · cases absent.symm.trans isConstrained
  · exact ⟨requirement, restricts_iff.mpr ⟨isRequired, isConstrained⟩⟩

theorem Violates.textOf_eq (violates : route.Violates parameters name requirement text) :
    textOf route.defaults parameters name = text := by
  obtain ⟨-, value, -, hasValue, rfl, -⟩ := violates
  rw [textOf, hasValue_iff.mp hasValue]
  rfl

theorem Violates.mem_variableNames (violates : route.Violates parameters name requirement text) :
    name ∈ route.variableNames := by
  obtain ⟨-, -, ⟨converter, membership, -⟩, -⟩ := violates
  exact Segment.mem_names_iff.mpr ⟨converter, membership⟩

/-- Whether the text of a variable is refused by the expression that is looked up for it. -/
def isRefused (route : Route) (entry : String × String) : Bool :=
  match route.compiled.constraints.lookup entry.1 with
  | some expression => !expression.accepts entry.2
  | none => false

theorem isRefused_of_violates (violates : route.Violates parameters name requirement text) :
    route.isRefused (name, text) = true := by
  obtain ⟨constraint, value, restricts, -, -, refused⟩ := violates
  rw [isRefused, (restricts_iff.mp restricts).2]
  dsimp only
  rw [refused, Bool.not_false]

theorem exists_violates_of_isRefused {value : Value}
    (hasValue : HasValue route.defaults parameters name value)
    (isRefused : route.isRefused (name, value.toText) = true) :
    ∃ requirement, route.Violates parameters name requirement value.toText := by
  unfold Route.isRefused at isRefused
  split at isRefused
  · next constraint isConstrained =>
      obtain ⟨requirement, restricts⟩ := exists_restricts isConstrained
      exact ⟨requirement, constraint, value, restricts, hasValue, rfl, by simpa using isRefused⟩
  · cases isRefused

end Route

/-! ### Paths -/

namespace Generation

variable {name : String} {route : Route} {parameters : Parameters}

/-- A variable with the text of its value. -/
def entryOf (route : Route) (parameters : Parameters) (variableName : String) : String × String :=
  (variableName, textOf route.defaults parameters variableName)

theorem entryOf_of_violates {variableName requirement text : String}
    (violates : route.Violates parameters variableName requirement text) :
    entryOf route parameters variableName = (variableName, text) :=
  congrArg (Prod.mk variableName) violates.textOf_eq

theorem valueOf?_isSome_of_complete
    (complete : ∀ variableName ∈ route.variableNames,
      ¬ Lacks route.defaults parameters variableName) :
    ∀ variableName ∈ route.compiled.variableNames,
      (valueOf? route.defaults parameters variableName).isSome := by
  intro variableName isVariable
  rw [Option.isSome_iff_ne_none]
  exact mt lacks_iff.mpr (complete variableName isVariable)

theorem pathOf_of_not_isWritten (notWritten : ¬ route.IsWritten parameters) :
    pathOf name route parameters = .error .tooManyDigits := by
  rw [Route.isWritten_iff, Bool.not_eq_true, Route.variableNames] at notWritten
  rw [pathOf, notWritten]
  rfl

section

variable (written : route.IsWritten parameters)

include written

/-- If all values have texts, the path is the one that is made of them. -/
theorem pathOf_of_isWritten :
    pathOf name route parameters =
      if !(missingVariables route.defaults parameters route.variableNames).isEmpty then
        .error (.missingParameters name
          (missingVariables route.defaults parameters route.variableNames))
      else
        match violation? route.compiled
          (filling route.defaults parameters route.variableNames) with
        | some (variableName, text) =>
            let requirement := (route.compiled.requirements.lookup variableName).getD ""
            .error (.requirementViolated name variableName requirement text)
        | none =>
            .ok (stripSlash (substitute route.compiled
              (filling route.defaults parameters route.variableNames)
              (isSupplied parameters))) := by
  have haveTexts_eq := Route.isWritten_iff.mp written
  rw [Route.variableNames] at haveTexts_eq
  rw [pathOf, haveTexts_eq]
  rfl

theorem pathOf_of_lacks
    (lacks : ∃ variableName ∈ route.variableNames, Lacks route.defaults parameters variableName) :
    pathOf name route parameters = .error (.missingParameters name
      (route.variableNames.filter (Lacks route.defaults parameters))) := by
  obtain ⟨variableName, isVariable, isLacking⟩ := lacks
  have some : ¬ (route.variableNames.filter (Lacks route.defaults parameters)).isEmpty := by
    rw [List.isEmpty_iff]
    exact List.ne_nil_of_mem (List.mem_filter.mpr ⟨isVariable, decide_eq_true isLacking⟩)
  rw [pathOf_of_isWritten written, missingVariables_eq_filter, if_pos (by simpa using some)]

end

section

variable (complete : ∀ variableName ∈ route.variableNames,
  ¬ Lacks route.defaults parameters variableName)

include complete

theorem pathOf_of_complete (written : route.IsWritten parameters) :
    pathOf name route parameters =
      match violation? route.compiled
        (filling route.defaults parameters route.variableNames) with
      | some (variableName, text) =>
          let requirement := (route.compiled.requirements.lookup variableName).getD ""
          .error (.requirementViolated name variableName requirement text)
      | none => .ok (canonical (filledText route.compiled route.defaults parameters)) := by
  have given := valueOf?_isSome_of_complete complete
  have path_eq := substitute_filling given
  rw [pathOf_of_isWritten written, Route.variableNames, missingVariables_eq_nil_iff.mpr given,
    if_neg (by simp), path_eq, stripSlash_eq_canonical]

/-- The texts of the variables are looked at in the order of the template. -/
theorem violation?_eq :
    violation? route.compiled (filling route.defaults parameters route.variableNames) =
      (route.variableNames.map (entryOf route parameters)).find? route.isRefused := by
  rw [Route.variableNames, filling_eq_map (valueOf?_isSome_of_complete complete)]
  rfl

/-- Of all variables with values, those are refused that violate their requirements. -/
theorem isRefused_iff {variableName : String} (isVariable : variableName ∈ route.variableNames) :
    route.isRefused (entryOf route parameters variableName) = true ↔
      ∃ requirement, route.Violates parameters variableName requirement
        (textOf route.defaults parameters variableName) := by
  obtain ⟨value, isValue⟩ := Option.isSome_iff_exists.mp
    (valueOf?_isSome_of_complete complete variableName isVariable)
  have text_eq : textOf route.defaults parameters variableName = value.toText := by
    rw [textOf, isValue]
    rfl
  rw [entryOf, text_eq]
  constructor
  · exact Route.exists_violates_of_isRefused (hasValue_iff.mpr isValue)
  · rintro ⟨requirement, violates⟩
    exact Route.isRefused_of_violates violates

theorem violation?_of_violatesFirst {variableName requirement text : String}
    (first : route.ViolatesFirst parameters variableName requirement text) :
    violation? route.compiled (filling route.defaults parameters route.variableNames) =
      some (variableName, text) := by
  obtain ⟨violates, front, behind, names_eq, noneBefore⟩ := first
  rw [violation?_eq complete, List.find?_eq_some_iff_append]
  refine ⟨Route.isRefused_of_violates violates, front.map (entryOf route parameters),
    behind.map (entryOf route parameters), ?_, ?_⟩
  · rw [names_eq, List.map_append, List.map_cons, entryOf_of_violates violates]
  · intro entry membership
    obtain ⟨other, isBefore, rfl⟩ := List.mem_map.mp membership
    have isVariable : other ∈ route.variableNames := by
      rw [names_eq]
      exact List.mem_append_left _ isBefore
    rw [Bool.not_eq_true', ← Bool.not_eq_true, isRefused_iff complete isVariable]
    rintro ⟨otherRequirement, otherViolates⟩
    exact noneBefore other isBefore _ _ otherViolates

theorem pathOf_of_violatesFirst (written : route.IsWritten parameters)
    {variableName requirement text : String}
    (first : route.ViolatesFirst parameters variableName requirement text) :
    pathOf name route parameters =
      .error (.requirementViolated name variableName requirement text) := by
  obtain ⟨constraint, value, restricts, -⟩ := first.1
  rw [pathOf_of_complete complete written, violation?_of_violatesFirst complete first]
  dsimp only
  rw [(Route.restricts_iff.mp restricts).1, Option.getD_some]

theorem exists_violatesFirst_or_fits (written : route.IsWritten parameters) :
    (∃ variableName requirement text,
      route.ViolatesFirst parameters variableName requirement text) ∨ route.Fits parameters := by
  cases found : violation? route.compiled
      (filling route.defaults parameters route.variableNames) with
  | none =>
      rw [violation?_eq complete, List.find?_eq_none] at found
      refine .inr ⟨written, complete, ?_⟩
      intro variableName requirement text violates
      refine found (variableName, text) ?_ (Route.isRefused_of_violates violates)
      exact List.mem_map.mpr ⟨variableName, violates.mem_variableNames,
        entryOf_of_violates violates⟩
  | some entry =>
      rw [violation?_eq complete, List.find?_eq_some_iff_append] at found
      obtain ⟨isRefused, front, behind, entries_eq, noneBefore⟩ := found
      obtain ⟨before, rest, names_eq, rfl, rest_eq⟩ := List.map_eq_append_iff.mp entries_eq
      obtain ⟨variableName, after, rfl, rfl, -⟩ := List.map_eq_cons_iff.mp rest_eq
      have areVariables (other : String) (isBefore : other ∈ before) :
          other ∈ route.variableNames := by
        rw [names_eq]
        exact List.mem_append_left _ isBefore
      have isVariable : variableName ∈ route.variableNames := by
        rw [names_eq]
        exact List.mem_append_right _ List.mem_cons_self
      obtain ⟨requirement, violates⟩ := (isRefused_iff complete isVariable).mp isRefused
      refine .inl ⟨variableName, requirement, _, violates, before, after, names_eq, ?_⟩
      intro other isBefore otherRequirement otherText otherViolates
      have notRefused := noneBefore _ (List.mem_map_of_mem isBefore)
      rw [Bool.not_eq_true', ← Bool.not_eq_true,
        isRefused_iff complete (areVariables other isBefore)] at notRefused
      refine notRefused ⟨otherRequirement, ?_⟩
      rwa [otherViolates.textOf_eq]

end

theorem pathOf_of_fits (fits : route.Fits parameters) :
    pathOf name route parameters =
      .ok (canonical (filledText route.compiled route.defaults parameters)) := by
  have accepted : violation? route.compiled
      (filling route.defaults parameters route.variableNames) = none := by
    rw [violation?_eq fits.complete, List.find?_eq_none]
    intro entry membership isRefused
    obtain ⟨variableName, isVariable, rfl⟩ := List.mem_map.mp membership
    obtain ⟨requirement, violates⟩ := (isRefused_iff fits.complete isVariable).mp isRefused
    exact fits.accepted _ _ _ violates
  rw [pathOf_of_complete fits.complete fits.written, accepted]

end Generation

/-! ### Bases -/

namespace Generation

theorem stripSlashes_eq_rdropWhile (text : String) :
    (stripSlashes text).toList = text.toList.rdropWhile (· == '/') := by
  rw [stripSlashes, String.toList_ofList]
  rfl

theorem rdropWhile_slash_eq_self_iff {chars : List Char} :
    chars.rdropWhile (· == '/') = chars ↔ chars.getLast? ≠ some '/' := by
  rw [List.rdropWhile_eq_self_iff]
  induction chars using List.reverseRecOn with
  | nil => simp
  | append_singleton front last _ => simp

/-- What is left of a text has no slash at its end, and nothing but slashes is gone. -/
theorem stripSlashes_eq_iff {text base : String} :
    stripSlashes text = base ↔
      (∃ slashes, text.toList = base.toList ++ List.replicate slashes '/') ∧
        base.toList.getLast? ≠ some '/' := by
  constructor
  · rintro rfl
    rw [stripSlashes_eq_rdropWhile, ← rdropWhile_slash_eq_self_iff]
    refine ⟨⟨(text.toList.rtakeWhile (· == '/')).length, ?_⟩, List.rdropWhile_idempotent ..⟩
    have areSlashes : text.toList.rtakeWhile (· == '/') =
        List.replicate (text.toList.rtakeWhile (· == '/')).length '/' :=
      List.eq_replicate_of_mem fun char membership =>
        eq_of_beq (List.mem_rtakeWhile_imp (p := (· == '/')) membership)
    rw [← areSlashes, List.rdropWhile_append_rtakeWhile]
  · rintro ⟨⟨slashes, text_eq⟩, bare⟩
    apply String.toList_injective
    rw [stripSlashes_eq_rdropWhile, text_eq, List.rdropWhile, List.reverse_append,
      List.dropWhile_append_of_pos (by simp)]
    exact rdropWhile_slash_eq_self_iff.mpr bare

end Generation

/-! ### Links -/

theorem Entries.get?_eq_some_iff {υ : Type} {entries : Entries String υ}
    (nodup : entries.names.Nodup) {name : String} {value : υ} :
    entries.get? name = some value ↔ (name, value) ∈ entries := by
  constructor
  · intro found
    obtain ⟨entry, isEntry, rfl⟩ := Option.map_eq_some_iff.mp found
    have isName := List.find?_some isEntry
    obtain rfl : entry.1 = name := eq_of_beq isName
    exact List.mem_of_find?_eq_some isEntry
  · intro membership
    obtain ⟨front, rest, rfl⟩ := List.append_of_mem membership
    rw [names, List.map_append, List.nodup_append] at nodup
    apply get?_split
    exact fun isBefore => nodup.2.2 name isBefore name List.mem_cons_self rfl

namespace RouteTable

theorem IsIndexed.get_eq_ok_iff {α : Type} {table : RouteTable α} (isIndexed : table.IsIndexed)
    {name : String} {value : α} :
    table.get name = .ok value ↔ (name, value) ∈ table.entries := by
  rw [isIndexed.get_eq, Entries.fetch, ← Entries.get?_eq_some_iff isIndexed.nodup]
  cases Entries.get? table.entries name <;> simp

theorem IsIndexed.get_of_not_mem {α : Type} {table : RouteTable α} (isIndexed : table.IsIndexed)
    {name : String} (isUnknown : name ∉ table.names) :
    table.get name = .error (.unknownName name) := by
  rw [isIndexed.get_eq, Entries.fetch, Entries.get?_eq_none_iff.mpr isUnknown]

variable {table : RouteTable Route} {config : Config} {name : String} {parameters : Parameters}

theorem link_absolute (table : RouteTable Route) (config : Config) (name : String)
    (parameters : Parameters) :
    table.link config name parameters true =
      (table.link config name parameters false).bind (Generation.absolute config) := by
  unfold link
  cases table.get name with
  | error failure => rfl
  | ok route => 
      simp only [bind, Except.bind]
      cases relative config name route parameters <;> rfl

/-- What makes a link fail makes its absolute form fail, too. -/
theorem link_of_relative_error {failure : Failure}
    (fails : table.link config name parameters false = .error failure) (absolute : Bool) :
    table.link config name parameters absolute = .error failure := by
  cases absolute with
  | false => exact fails
  | true =>
      rw [link_absolute, fails]
      rfl

/-- What comes of asking for a link.  Each reason for a failure counts only where those before it do
not apply. -/
inductive Outcome (table : RouteTable Route) (config : Config) (name : String)
    (parameters : Parameters) : Bool → Except Failure String → Prop where
  | unknown (isUnknown : name ∉ table.names) (absolute : Bool) :
      Outcome table config name parameters absolute (.error (.unknownName name))
  | unwritten {route : Route} (registered : (name, route) ∈ table.entries)
      {variableName : String} (isVariable : variableName ∈ route.variableNames) {value : Value}
      (hasValue : HasValue route.defaults parameters variableName value)
      (hasNoText : value.hasText = false) (absolute : Bool) :
      Outcome table config name parameters absolute (.error .tooManyDigits)
  | missing {route : Route} (registered : (name, route) ∈ table.entries)
      (written : route.IsWritten parameters)
      (lacks : ∃ variableName ∈ route.variableNames,
        Lacks route.defaults parameters variableName) (absolute : Bool) :
      Outcome table config name parameters absolute (.error (.missingParameters name
        (route.variableNames.filter (Lacks route.defaults parameters))))
  | violation {route : Route} (registered : (name, route) ∈ table.entries)
      (written : route.IsWritten parameters)
      (complete : ∀ variableName ∈ route.variableNames,
        ¬ Lacks route.defaults parameters variableName)
      {variableName requirement text : String}
      (isFirst : route.ViolatesFirst parameters variableName requirement text)
      (absolute : Bool) :
      Outcome table config name parameters absolute
        (.error (.requirementViolated name variableName requirement text))
  | unwrittenQuery {route : Route} (registered : (name, route) ∈ table.entries)
      (fits : route.Fits parameters) {parameter : String × Value}
      (isTold : parameter ∈ extras config.internalPrefix route.variableNames parameters)
      {value : Value} (isGiven : value ∈ Query.valuesOf parameter.2)
      (hasNoText : value.hasText = false) (absolute : Bool) :
      Outcome table config name parameters absolute (.error .tooManyDigits)
  | relative {route : Route} (registered : (name, route) ∈ table.entries)
      (fits : route.Fits parameters)
      (areWritten : ∀ parameter ∈ extras config.internalPrefix route.variableNames parameters,
        ∀ value ∈ Query.valuesOf parameter.2, value.hasText = true) :
      Outcome table config name parameters false
        (.ok (withQuery (canonical (filledText route.compiled route.defaults parameters))
          (extras config.internalPrefix route.variableNames parameters)))
  | baseless {path : String} (made : Outcome table config name parameters false (.ok path))
      (noBase : config.baseUrl = "") :
      Outcome table config name parameters true (.error .missingBaseUrl)
  | absolute {path base : String} {slashes : Nat}
      (made : Outcome table config name parameters false (.ok path))
      (isThere : config.baseUrl ≠ "")
      (baseUrl_eq : config.baseUrl.toList = base.toList ++ List.replicate slashes '/')
      (bare : base.toList.getLast? ≠ some '/') :
      Outcome table config name parameters true (.ok (base ++ path))

theorem link_eq_bind_pathOf {route : Route} (registered : (name, route) ∈ table.entries)
    (isIndexed : table.IsIndexed) :
    table.link config name parameters false =
      (pathOf name route parameters).bind fun path =>
        addQuery path (extras config.internalPrefix route.variableNames parameters) := by
  rw [link_eq_relative (isIndexed.get_eq_ok_iff.mpr registered), relative_eq_bind]
  rfl

theorem Outcome.absolute_error {failure : Failure}
    (fails : Outcome table config name parameters false (.error failure)) :
    Outcome table config name parameters true (.error failure) := by
  cases fails with
  | unknown isUnknown => exact .unknown isUnknown true
  | unwritten registered isVariable hasValue hasNoText =>
      exact .unwritten registered isVariable hasValue hasNoText true
  | missing registered written lacks => exact .missing registered written lacks true
  | violation registered written complete isFirst =>
      exact .violation registered written complete isFirst true
  | unwrittenQuery registered fits isTold isGiven hasNoText =>
      exact .unwrittenQuery registered fits isTold isGiven hasNoText true

/-- What comes of a path that is made: either it is told with the query, or something in the query
cannot be told. -/
theorem outcome_addQuery {route : Route} (registered : (name, route) ∈ table.entries)
    (fits : route.Fits parameters) :
    Outcome table config name parameters false
      (addQuery (canonical (filledText route.compiled route.defaults parameters))
        (extras config.internalPrefix route.variableNames parameters)) := by
  by_cases areWritten :
      ∀ parameter ∈ extras config.internalPrefix route.variableNames parameters,
        ∀ value ∈ Query.valuesOf parameter.2, value.hasText = true
  · rw [addQuery_of_haveTexts (Query.haveTexts_iff.mpr areWritten)]
    exact .relative registered fits areWritten
  · rw [addQuery_of_not_haveTexts (by simpa using mt Query.haveTexts_iff.mp areWritten)]
    push Not at areWritten
    obtain ⟨parameter, isTold, value, isGiven, hasNoText⟩ := areWritten
    exact .unwrittenQuery registered fits isTold isGiven (by simpa using hasNoText) false

section

variable (isIndexed : table.IsIndexed)

include isIndexed

theorem outcome_link_relative :
    Outcome table config name parameters false (table.link config name parameters false) := by
  by_cases isKnown : name ∈ table.names
  · obtain ⟨⟨_, route⟩, membership, rfl⟩ := List.mem_map.mp isKnown
    rw [link_eq_bind_pathOf membership isIndexed]
    by_cases written : route.IsWritten parameters
    · by_cases complete : ∀ variableName ∈ route.variableNames,
          ¬ Lacks route.defaults parameters variableName
      · rcases exists_violatesFirst_or_fits complete written with
          ⟨variableName, requirement, text, isFirst⟩ | fits
        · rw [pathOf_of_violatesFirst complete written isFirst]
          exact .violation membership written complete isFirst false
        · rw [pathOf_of_fits fits]
          exact outcome_addQuery membership fits
      · have lacks : ∃ variableName ∈ route.variableNames,
            Lacks route.defaults parameters variableName := by simpa using complete
        rw [pathOf_of_lacks written lacks]
        exact .missing membership written lacks false
    · rw [pathOf_of_not_isWritten written]
      unfold Route.IsWritten at written
      push Not at written
      obtain ⟨variableName, isVariable, value, hasValue, hasNoText⟩ := written
      exact .unwritten membership isVariable hasValue (by simpa using hasNoText) false
  · have refused : table.link config name parameters false = .error (.unknownName name) := by
      rw [link, isIndexed.get_of_not_mem isKnown]
      rfl
    rw [refused]
    exact .unknown isKnown false

theorem outcome_link (absolute : Bool) :
    Outcome table config name parameters absolute
      (table.link config name parameters absolute) := by
  have relative : Outcome table config name parameters false
      (table.link config name parameters false) := outcome_link_relative isIndexed
  cases absolute with
  | false => exact relative
  | true =>
      rw [link_absolute]
      cases made : table.link config name parameters false with
      | error failure =>
          rw [made] at relative
          exact relative.absolute_error
      | ok path =>
          rw [made] at relative
          rw [Except.bind, Generation.absolute]
          by_cases noBase : config.baseUrl = ""
          · rw [if_pos (String.isEmpty_iff.mpr noBase)]
            exact .baseless relative noBase
          · rw [if_neg (mt String.isEmpty_iff.mp noBase)]
            obtain ⟨⟨slashes, baseUrl_eq⟩, bare⟩ :=
              stripSlashes_eq_iff.mp (rfl : stripSlashes config.baseUrl = _)
            exact .absolute relative noBase baseUrl_eq bare

end

end RouteTable

end UrlRouting
