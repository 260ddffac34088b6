import UrlRouting.Proofs.Table.Declaration

/-!
# What entries declare

An entry is accepted exactly if it has the shape that `Declaration.Declares` writes down, whatever
the value is that stands in its place (`Declaration.ofValue_eq_ok_iff`).  Any other value is refused
for the first of the things that are wrong with it (`Declaration.ofValue_eq_error_iff`).
-/

namespace UrlRouting

/-! ### Readers of texts -/

namespace Declaration

theorem requirementTexts?_eq_some_iff {pairs : List (Value × Value)} {requirements : Requirements} :
    requirementTexts? pairs = some requirements ↔
      pairs = requirements.map fun (name, source) => (name, .text source) := by
  constructor
  · intro read
    induction pairs generalizing requirements with
    | nil =>
        cases read
        rfl
    | cons first rest inductionHypothesis =>
        rcases first with ⟨name, source⟩
        cases source with
        | text source =>
            obtain ⟨others, readRest, rfl⟩ := Option.map_eq_some_iff.mp read
            rw [inductionHypothesis readRest]
            rfl
        | null | bool | int | float | bytes | date | moment | clock | list | tuple | map =>
            cases read
  · rintro rfl
    exact requirementTexts?_map requirements

theorem texts?_eq_some_iff {items : List Value} {names : List String} :
    texts? items = some names ↔ items = names.map .text := by
  constructor
  · intro read
    induction items generalizing names with
    | nil =>
        cases read
        rfl
    | cons first rest inductionHypothesis =>
        cases first with
        | text name =>
            obtain ⟨others, readRest, rfl⟩ := Option.map_eq_some_iff.mp read
            rw [inductionHypothesis readRest]
            rfl
        | null | bool | int | float | bytes | date | moment | clock | list | tuple | map =>
            cases read
  · rintro rfl
    exact texts?_map names

/-! ### Fields of an entry -/

variable {name : String} {fields : Attributes}

/-- There is nothing under a key, or what is there does not count as given. -/
def IsBlank (fields : Attributes) (key : String) : Prop :=
  ∀ value, fields.named? key = some value → value.isGiven = false

def HasKnownKeys (fields : Attributes) : Prop :=
  ∀ key ∈ fields.map (·.1),
    ∃ known ∈ ["path", "defaults", "requirements", "methods"], key = .text known

def DeclaresDefaults (fields defaults : Attributes) : Prop :=
  IsBlank fields "defaults" ∧ defaults = [] ∨ fields.named? "defaults" = some (.map defaults)

def DeclaresRequirements (fields : Attributes) (requirements : Requirements) : Prop :=
  IsBlank fields "requirements" ∧ requirements = [] ∨
    fields.named? "requirements" =
      some (.map (requirements.map fun (name, source) => (name, .text source)))

/-- The methods are those in a value that runs through texts only; a text itself is one method. -/
def DeclaresMethods (fields : Attributes) (methods : List String) : Prop :=
  IsBlank fields "methods" ∧ methods = [] ∨
    (∃ method, method ≠ "" ∧ fields.named? "methods" = some (.text method) ∧
      methods = [method]) ∨
    ∃ value, fields.named? "methods" = some value ∧ (∀ text, value ≠ .text text) ∧
      value.elements? = some (methods.map .text)

/-- What an entry with these fields declares. -/
structure Declares (fields : Attributes) (declaration : Declaration) : Prop where
  keys : HasKnownKeys fields
  path : fields.named? "path" = some (.text declaration.path)
  defaults : DeclaresDefaults fields declaration.defaults
  requirements : DeclaresRequirements fields declaration.requirements
  methods : DeclaresMethods fields declaration.methods

theorem strangers_eq_nil_iff : strangers fields = [] ↔ HasKnownKeys fields := by
  unfold strangers HasKnownKeys
  rw [List.map_eq_nil_iff, List.filter_eq_nil_iff, List.forall_mem_map]
  refine forall₂_congr fun field _ => ?_
  simp only [keys, List.any_cons, List.any_nil, Bool.or_false, Bool.not_eq_true', Bool.not_eq_false,
    Bool.or_eq_true, Value.beq_text_iff, List.mem_cons, List.not_mem_nil, or_false,
    exists_eq_or_imp, exists_eq_left]
  tauto

theorem field?_eq_none_iff {key : String} : field? fields key = none ↔ IsBlank fields key := by
  simp [field?, IsBlank, Option.filter_eq_none_iff]

theorem field?_eq_some_iff {key : String} {value : Value} :
    field? fields key = some value ↔ fields.named? key = some value ∧ value.isGiven = true :=
  Option.filter_eq_some_iff

theorem not_isBlank_of_field? {key : String} {value : Value}
    (isField : field? fields key = some value) : ¬ IsBlank fields key := fun isBlank => by
  rw [field?_eq_none_iff.mpr isBlank] at isField
  cases isField

theorem eq_nil_of_isBlank {key : String} {entries : List (Value × Value)}
    (isBlank : IsBlank fields key) (isThere : fields.named? key = some (.map entries)) :
    entries = [] := by
  simpa [Value.isGiven] using isBlank _ isThere

theorem eq_nil_of_not_isGiven {value : Value} {items : List Value}
    (notGiven : value.isGiven = false) (isElements : value.elements? = some items) :
    items = [] := by
  cases value <;> simp_all [Value.isGiven, Value.elements?]

/-- Where a field is blank, nothing is declared, whichever other ways to declare something there
are: what they ask for would be empty. -/
theorem ok_nil_eq_iff_of_isBlank {α : Type} {key : String} {declared : List α} {otherwise : Prop}
    (isBlank : IsBlank fields key) (isNil : otherwise → declared = []) :
    (.ok [] : Except DeclarationFault (List α)) = .ok declared ↔
      IsBlank fields key ∧ declared = [] ∨ otherwise := by
  constructor
  · rintro ⟨⟩
    exact .inl ⟨isBlank, rfl⟩
  · rintro (⟨-, rfl⟩ | otherwise)
    · rfl
    · rw [isNil otherwise]

theorem readDefaults_eq_ok_iff {defaults : Attributes} :
    readDefaults name fields = .ok defaults ↔ DeclaresDefaults fields defaults := by
  unfold readDefaults DeclaresDefaults
  cases isField : field? fields "defaults" with
  | none =>
      have isBlank := field?_eq_none_iff.mp isField
      exact ok_nil_eq_iff_of_isBlank isBlank (eq_nil_of_isBlank isBlank)
  | some value =>
      rw [(field?_eq_some_iff.mp isField).1, Option.some.injEq]
      simp only [not_isBlank_of_field? isField, false_and, false_or]
      cases value <;> simp

theorem readRequirements_eq_ok_iff {requirements : Requirements} :
    readRequirements name fields = .ok requirements ↔
      DeclaresRequirements fields requirements := by
  unfold readRequirements DeclaresRequirements
  cases isField : field? fields "requirements" with
  | none =>
      have isBlank := field?_eq_none_iff.mp isField
      exact ok_nil_eq_iff_of_isBlank isBlank fun isThere =>
        List.map_eq_nil_iff.mp (eq_nil_of_isBlank isBlank isThere)
  | some value =>
      rw [(field?_eq_some_iff.mp isField).1, Option.some.injEq]
      simp only [not_isBlank_of_field? isField, false_and, false_or]
      cases value with
      | map pairs =>
          rw [Value.map.injEq, ← requirementTexts?_eq_some_iff]
          dsimp only
          cases requirementTexts? pairs <;> simp
      | null | bool | int | float | text | bytes | date | moment | clock | list | tuple => simp

theorem bind_texts?_eq_some_iff {value : Value} {methods : List String} :
    value.elements?.bind texts? = some methods ↔
      value.elements? = some (methods.map .text) := by
  simp only [Option.bind_eq_some_iff, texts?_eq_some_iff, exists_eq_right]

theorem readMethods_of_not_text {value : Value} (isField : field? fields "methods" = some value)
    (notText : ∀ text, value ≠ .text text) :
    readMethods name fields = match value.elements?.bind texts? with
      | some methods => .ok methods
      | none => .error (.methodsNotNames name) := by
  rw [readMethods, isField]
  cases value with
  | text method => exact absurd rfl (notText method)
  | null | bool | int | float | bytes | date | moment | clock | list | tuple | map => rfl

theorem readMethods_eq_ok_iff {methods : List String} :
    readMethods name fields = .ok methods ↔ DeclaresMethods fields methods := by
  unfold DeclaresMethods
  cases isField : field? fields "methods" with
  | none =>
      have isBlank := field?_eq_none_iff.mp isField
      rw [readMethods, isField]
      refine ok_nil_eq_iff_of_isBlank isBlank ?_
      rintro (⟨method, notEmpty, isThere, -⟩ | ⟨value, isThere, -, isElements⟩)
      · exact absurd (by simpa [Value.isGiven] using isBlank _ isThere) notEmpty
      · exact List.map_eq_nil_iff.mp (eq_nil_of_not_isGiven (isBlank _ isThere) isElements)
  | some value =>
      obtain ⟨isThere, isGiven⟩ := field?_eq_some_iff.mp isField
      simp only [isThere, not_isBlank_of_field? isField, false_and, false_or, Option.some.injEq,
        exists_eq_left']
      by_cases isText : ∃ text, value = .text text
      · obtain ⟨method, rfl⟩ := isText
        have notEmpty : method ≠ "" := by simpa [Value.isGiven] using isGiven
        rw [readMethods, isField]
        simp [notEmpty, eq_comm]
      · have notText : ∀ text, value ≠ .text text := by simpa using isText
        rw [readMethods_of_not_text isField notText, ← bind_texts?_eq_some_iff]
        cases value.elements?.bind texts? <;> simp [notText]

/-! ### Entries that are accepted -/

theorem ofEntries_text (path : String) :
    ofEntries name fields (.text path) =
      (readDefaults name fields).bind fun defaults =>
        (readRequirements name fields).bind fun requirements =>
          (readMethods name fields).map fun methods =>
            ⟨path, defaults, requirements, methods⟩ := rfl

theorem ofEntries_eq_ok_iff {path : Value} {declaration : Declaration} :
    ofEntries name fields path = .ok declaration ↔
      path = .text declaration.path ∧
        readDefaults name fields = .ok declaration.defaults ∧
        readRequirements name fields = .ok declaration.requirements ∧
        readMethods name fields = .ok declaration.methods := by
  rcases declaration with ⟨text, defaults, requirements, methods⟩
  cases path with
  | text other =>
      rw [ofEntries_text]
      cases readDefaults name fields with
      | error fault => simp [Except.bind]
      | ok readDefaults =>
          cases readRequirements name fields with
          | error fault => simp [Except.bind]
          | ok readRequirements =>
              cases readMethods name fields <;> simp [Except.bind, Except.map]
  | null | bool | int | float | bytes | date | moment | clock | list | tuple | map =>
      simp [ofEntries]

theorem ofValue_map_eq_ok_iff {declaration : Declaration} :
    ofValue name (.map fields) = .ok declaration ↔ Declares fields declaration := by
  have declares_iff : Declares fields declaration ↔ strangers fields = [] ∧
      fields.named? "path" = some (.text declaration.path) ∧
      readDefaults name fields = .ok declaration.defaults ∧
      readRequirements name fields = .ok declaration.requirements ∧
      readMethods name fields = .ok declaration.methods := by
    rw [strangers_eq_nil_iff, readDefaults_eq_ok_iff, readRequirements_eq_ok_iff,
      readMethods_eq_ok_iff]
    exact ⟨fun ⟨keys, path, defaults, requirements, methods⟩ =>
      ⟨keys, path, defaults, requirements, methods⟩,
      fun ⟨keys, path, defaults, requirements, methods⟩ =>
      ⟨keys, path, defaults, requirements, methods⟩⟩
  rw [declares_iff, ofValue]
  cases fields.named? "path" with
  | none => simp
  | some path =>
      dsimp only
      cases strangers fields with
      | nil => simp [ofEntries_eq_ok_iff]
      | cons first rest =>
          rw [if_neg (by simp)]
          split <;> simp

/-- An entry is accepted exactly if it is a map that declares a route. -/
theorem ofValue_eq_ok_iff {entry : Value} {declaration : Declaration} :
    ofValue name entry = .ok declaration ↔
      ∃ fields, entry = .map fields ∧ Declares fields declaration := by
  cases entry with
  | map fields => simp [ofValue_map_eq_ok_iff]
  | null | bool | int | float | text | bytes | date | moment | clock | list | tuple =>
      simp [ofValue]

/-! ### Entries that are refused -/

/-- What is wrong with an entry. -/
inductive Violates (name : String) : Value → DeclarationFault → Prop where
  | notMapping {entry : Value} (notMap : ∀ fields, entry ≠ .map fields) :
      Violates name entry (.notMapping name entry.kindName)
  | missingPath {fields : Attributes} (absent : fields.named? "path" = none) :
      Violates name (.map fields) (.missingPath name)
  | unknownKeys {fields : Attributes} (unknown : ¬ HasKnownKeys fields)
      (written : ∀ key ∈ strangers fields, key.hasText = true) :
      Violates name (.map fields) (.unknownKeys name (unknownKeys fields))
  | keyWithoutText {fields : Attributes} {key : Value} (isUnknown : key ∈ strangers fields)
      (hasNoText : key.hasText = false) :
      Violates name (.map fields) .keyWithoutText
  | pathNotText {fields : Attributes} {path : Value} (isThere : fields.named? "path" = some path)
      (notText : ∀ text, path ≠ .text text) :
      Violates name (.map fields) (.pathNotText name path.kindName)
  | defaultsNotMapping {fields : Attributes}
      (noneFits : ∀ defaults, ¬ DeclaresDefaults fields defaults) :
      Violates name (.map fields) (.defaultsNotMapping name)
  | requirementsNotTexts {fields : Attributes}
      (noneFits : ∀ requirements, ¬ DeclaresRequirements fields requirements) :
      Violates name (.map fields) (.requirementsNotTexts name)
  | methodsNotNames {fields : Attributes} (noneFits : ∀ methods, ¬ DeclaresMethods fields methods) :
      Violates name (.map fields) (.methodsNotNames name)

end Declaration

/-- The place of a fault in the order in which faults are looked for. -/
def DeclarationFault.rank : DeclarationFault → Nat
  | notMapping .. | noMapping _ => 0
  | missingPath _ => 1
  | unknownKeys .. | keyWithoutText => 2
  | pathNotText .. => 3
  | defaultsNotMapping _ => 4
  | requirementsNotTexts _ => 5
  | methodsNotNames _ => 6

namespace Declaration

variable {name : String} {fields : Attributes} {entry : Value} {fault other : DeclarationFault}

/-- Something is wrong with an entry, and nothing that would be found before. -/
def ViolatesFirst (name : String) (entry : Value) (fault : DeclarationFault) : Prop :=
  Violates name entry fault ∧ ∀ other, Violates name entry other → fault.rank ≤ other.rank

theorem not_hasKnownKeys_of_mem {key : Value} (isUnknown : key ∈ strangers fields) :
    ¬ HasKnownKeys fields := by
  rw [← strangers_eq_nil_iff]
  exact List.ne_nil_of_mem isUnknown

theorem Violates.eq_of_rank_eq (first : Violates name entry fault)
    (second : Violates name entry other) (same : fault.rank = other.rank) : fault = other := by
  cases first <;> cases second <;> simp_all [DeclarationFault.rank]

theorem ViolatesFirst.unique (first : ViolatesFirst name entry fault)
    (second : ViolatesFirst name entry other) : fault = other :=
  first.1.eq_of_rank_eq second.1 (le_antisymm (first.2 other second.1) (second.2 fault first.1))

theorem not_violates_of_declares {declaration : Declaration}
    (declares : Declares fields declaration) : ¬ Violates name (.map fields) fault := by
  intro violates
  cases violates with
  | notMapping notMap => exact notMap fields rfl
  | missingPath absent => cases absent.symm.trans declares.path
  | unknownKeys unknown => exact unknown declares.keys
  | keyWithoutText isUnknown => exact not_hasKnownKeys_of_mem isUnknown declares.keys
  | pathNotText isThere notText =>
      exact notText _ (Option.some.inj (isThere.symm.trans declares.path))
  | defaultsNotMapping noneFits => exact noneFits _ declares.defaults
  | requirementsNotTexts noneFits => exact noneFits _ declares.requirements
  | methodsNotNames noneFits => exact noneFits _ declares.methods

theorem not_declaresDefaults_of_error (fails : readDefaults name fields = .error fault) :
    fault = .defaultsNotMapping name ∧ ∀ defaults, ¬ DeclaresDefaults fields defaults := by
  refine ⟨?_, fun defaults declares => ?_⟩
  · unfold readDefaults at fails
    split at fails <;> cases fails
    rfl
  · cases fails.symm.trans (readDefaults_eq_ok_iff.mpr declares)

theorem not_declaresRequirements_of_error (fails : readRequirements name fields = .error fault) :
    fault = .requirementsNotTexts name ∧
      ∀ requirements, ¬ DeclaresRequirements fields requirements := by
  refine ⟨?_, fun requirements declares => ?_⟩
  · unfold readRequirements at fails
    split at fails
    · cases fails
    · split at fails <;> cases fails
      rfl
    · cases fails
      rfl
  · cases fails.symm.trans (readRequirements_eq_ok_iff.mpr declares)

theorem not_declaresMethods_of_error (fails : readMethods name fields = .error fault) :
    fault = .methodsNotNames name ∧ ∀ methods, ¬ DeclaresMethods fields methods := by
  refine ⟨?_, fun methods declares => ?_⟩
  · unfold readMethods at fails
    split at fails
    · cases fails
    · cases fails
    · split at fails <;> cases fails
      rfl
  · cases fails.symm.trans (readMethods_eq_ok_iff.mpr declares)

/-- What is wrong with the fields of an entry, in each place of the order. -/
def IsWrong (fields : Attributes) : Nat → Prop
  | 0 => False
  | 1 => fields.named? "path" = none
  | 2 => ¬ HasKnownKeys fields
  | 3 => ∀ text, fields.named? "path" ≠ some (.text text)
  | 4 => ∀ defaults, ¬ DeclaresDefaults fields defaults
  | 5 => ∀ requirements, ¬ DeclaresRequirements fields requirements
  | _ => ∀ methods, ¬ DeclaresMethods fields methods

theorem Violates.isWrong (violates : Violates name (.map fields) fault) :
    IsWrong fields fault.rank := by
  cases violates with
  | notMapping notMap => exact absurd rfl (notMap fields)
  | missingPath absent => exact absent
  | unknownKeys unknown => exact unknown
  | keyWithoutText isUnknown => exact not_hasKnownKeys_of_mem isUnknown
  | pathNotText isThere notText =>
      intro text isText
      exact notText text (Option.some.inj (isThere.symm.trans isText))
  | defaultsNotMapping noneFits => exact noneFits
  | requirementsNotTexts noneFits => exact noneFits
  | methodsNotNames noneFits => exact noneFits

/-- What is found in a place of the order comes first if the places before it are fine. -/
theorem Violates.isFirst {place : Nat} (violates : Violates name (.map fields) fault)
    (rank_eq : fault.rank = place) (fine : ∀ earlier < place, ¬ IsWrong fields earlier) :
    ViolatesFirst name (.map fields) fault :=
  ⟨violates, fun _ others => not_lt.mp fun isBefore =>
    fine _ (rank_eq ▸ isBefore) others.isWrong⟩

theorem violatesFirst_of_ofEntries {path : Value} (isThere : fields.named? "path" = some path)
    (fine : ∀ earlier < 3, ¬ IsWrong fields earlier)
    (fails : ofEntries name fields path = .error fault) :
    ViolatesFirst name (.map fields) fault := by
  by_cases isText : ∃ text, path = .text text
  · obtain ⟨text, rfl⟩ := isText
    rw [ofEntries_text] at fails
    -- One more place of the order is known to be fine after each reader.
    have fine : ∀ earlier < 4, ¬ IsWrong fields earlier :=
      Nat.forall_lt_succ_right.mpr ⟨fine, fun wrong => wrong text isThere⟩
    cases readsDefaults : readDefaults name fields with
    | error fault =>
        rw [readsDefaults] at fails
        cases fails
        obtain ⟨rfl, noneFits⟩ := not_declaresDefaults_of_error readsDefaults
        exact (Violates.defaultsNotMapping noneFits).isFirst rfl fine
    | ok defaults =>
        rw [readsDefaults, Except.bind] at fails
        have fine : ∀ earlier < 5, ¬ IsWrong fields earlier := Nat.forall_lt_succ_right.mpr
          ⟨fine, fun wrong => wrong defaults (readDefaults_eq_ok_iff.mp readsDefaults)⟩
        cases readsRequirements : readRequirements name fields with
        | error fault =>
            rw [readsRequirements] at fails
            cases fails
            obtain ⟨rfl, noneFits⟩ := not_declaresRequirements_of_error readsRequirements
            exact (Violates.requirementsNotTexts noneFits).isFirst rfl fine
        | ok requirements =>
            rw [readsRequirements, Except.bind] at fails
            have fine : ∀ earlier < 6, ¬ IsWrong fields earlier := Nat.forall_lt_succ_right.mpr
              ⟨fine, fun wrong =>
                wrong requirements (readRequirements_eq_ok_iff.mp readsRequirements)⟩
            cases readsMethods : readMethods name fields with
            | error fault =>
                rw [readsMethods] at fails
                cases fails
                obtain ⟨rfl, noneFits⟩ := not_declaresMethods_of_error readsMethods
                exact (Violates.methodsNotNames noneFits).isFirst rfl fine
            | ok methods =>
                rw [readsMethods] at fails
                cases fails
  · have notText : ∀ text, path ≠ .text text := by simpa using isText
    have fault_eq : fault = .pathNotText name path.kindName := by
      cases path with
      | text text => exact absurd rfl (notText text)
      | null | bool | int | float | bytes | date | moment | clock | list | tuple | map =>
          exact (Except.error.inj fails).symm
    subst fault_eq
    exact (Violates.pathNotText isThere notText).isFirst rfl fine

theorem violatesFirst_of_ofValue_map (fails : ofValue name (.map fields) = .error fault) :
    ViolatesFirst name (.map fields) fault := by
  rw [ofValue] at fails
  have fine : ∀ earlier < 1, ¬ IsWrong fields earlier :=
    Nat.forall_lt_succ_right.mpr ⟨fun _ isBefore => absurd isBefore (Nat.not_lt_zero _), id⟩
  cases isThere : fields.named? "path" with
  | none =>
      rw [isThere] at fails
      cases fails
      exact (Violates.missingPath isThere).isFirst rfl fine
  | some path =>
      rw [isThere] at fails
      dsimp only at fails
      have fine : ∀ earlier < 2, ¬ IsWrong fields earlier :=
        Nat.forall_lt_succ_right.mpr ⟨fine, fun absent => by cases isThere.symm.trans absent⟩
      by_cases known : HasKnownKeys fields
      · rw [strangers_eq_nil_iff.mpr known] at fails
        refine violatesFirst_of_ofEntries isThere ?_ fails
        exact Nat.forall_lt_succ_right.mpr ⟨fine, fun unknown => unknown known⟩
      · rw [if_neg (by rwa [List.isEmpty_iff, strangers_eq_nil_iff])] at fails
        by_cases written : ∀ key ∈ strangers fields, key.hasText = true
        · rw [if_pos (List.all_eq_true.mpr written)] at fails
          cases fails
          exact (Violates.unknownKeys known written).isFirst rfl fine
        · rw [if_neg (mt List.all_eq_true.mp written)] at fails
          cases fails
          push Not at written
          obtain ⟨key, isUnknown, hasNoText⟩ := written
          exact (Violates.keyWithoutText isUnknown (by simpa using hasNoText)).isFirst rfl fine

theorem violatesFirst_of_ofValue (fails : ofValue name entry = .error fault) :
    ViolatesFirst name entry fault := by
  by_cases isMap : ∃ fields, entry = .map fields
  · obtain ⟨fields, rfl⟩ := isMap
    exact violatesFirst_of_ofValue_map fails
  · have notMap : ∀ fields, entry ≠ .map fields := by simpa using isMap
    have fault_eq : fault = .notMapping name entry.kindName := by
      cases entry with
      | map fields => exact absurd rfl (notMap fields)
      | null | bool | int | float | text | bytes | date | moment | clock | list | tuple =>
          exact (Except.error.inj fails).symm
    subst fault_eq
    exact ⟨.notMapping notMap, fun _ _ => Nat.zero_le _⟩

/-- An entry is refused for the first thing that is wrong with it. -/
theorem ofValue_eq_error_iff :
    ofValue name entry = .error fault ↔ ViolatesFirst name entry fault := by
  constructor
  · exact violatesFirst_of_ofValue
  · intro isFirst
    cases read : ofValue name entry with
    | ok declaration =>
        obtain ⟨fields, rfl, declares⟩ := ofValue_eq_ok_iff.mp read
        exact absurd isFirst.1 (not_violates_of_declares declares)
    | error other => rw [isFirst.unique (violatesFirst_of_ofValue read)]

-- The path is no text either, but the keys are looked at before.
example : ofValue "home" (.map [(.int 1, .null), (.text "path", .null)]) =
    .error (.unknownKeys "home" ["1"]) := by cbv

end Declaration

end UrlRouting
