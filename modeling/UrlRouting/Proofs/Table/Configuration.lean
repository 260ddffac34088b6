import UrlRouting.Proofs.Table.Schema
import UrlRouting.Proofs.Value.Texts

/-!
# What configurations declare

A configuration gives a table exactly if it is a map all of whose entries are accepted and build,
under names that differ; otherwise it fails for the first entry that goes wrong
(`RouteTable.declares_by_schema`).
-/

namespace UrlRouting

namespace Declaration

/-- An entry declares a route that can be built. -/
def Builds (entry : Value) (route : Route) : Prop :=
  ∃ fields declaration, entry = .map fields ∧ Declares fields declaration ∧
    declaration.build = .ok route

theorem builds_iff (name : String) {entry : Value} {route : Route} :
    Builds entry route ↔
      ∃ declaration, ofValue name entry = .ok declaration ∧ declaration.build = .ok route := by
  simp only [Builds, ofValue_eq_ok_iff, ← exists_and_right, and_assoc]
  exact exists_comm

end Declaration

/-! ### Configurations -/

namespace Entries

open Declaration

variable {entries : Entries String Route} {pairs : List (Value × Value)} {key entry : Value}
  {failure : Failure}

/-- Routes that the entries of a configuration declare, under the texts of their keys. -/
structure AreDeclared (pairs : List (Value × Value)) (entries : Entries String Route) : Prop where
  written : ∀ pair ∈ pairs, pair.1.hasText = true
  names_eq : entries.names = pairs.map fun pair => pair.1.toText
  builds : List.Forall₂ (fun pair entry => Builds pair.2 entry.2) pairs entries

/-- Why an entry of a configuration is refused behind entries with these names. -/
inductive Refuses (taken : List String) (key entry : Value) : Failure → Prop where
  | unwritten (hasNoText : key.hasText = false) : Refuses taken key entry .tooManyDigits
  | undeclared {fault : DeclarationFault} (written : key.hasText = true)
      (violates : ViolatesFirst key.toText entry fault) :
      Refuses taken key entry (.declaration fault)
  | unbuilt {fields : Attributes} {declaration : Declaration} {failure : Failure}
      (written : key.hasText = true) (isMap : entry = .map fields)
      (declares : Declares fields declaration) (fails : declaration.build = .error failure) :
      Refuses taken key entry failure
  | taken {route : Route} (written : key.hasText = true) (builds : Builds entry route)
      (isTaken : key.toText ∈ taken) :
      Refuses taken key entry (.nameTaken key.toText)

theorem areDeclared_nil_iff : AreDeclared [] entries ↔ entries = [] := by
  constructor
  · exact fun declared => List.forall₂_nil_left_iff.mp declared.builds
  · rintro rfl
    exact ⟨by simp, rfl, .nil⟩

theorem areDeclared_cons_iff {pair : Value × Value} :
    AreDeclared (pair :: pairs) entries ↔
      ∃ route others, entries = (pair.1.toText, route) :: others ∧ pair.1.hasText = true ∧
        Builds pair.2 route ∧ AreDeclared pairs others := by
  constructor
  · rintro ⟨written, names_eq, declared⟩
    obtain ⟨⟨name, route⟩, others, builds, buildsRest, rfl⟩ :=
      List.forall₂_cons_left_iff.mp declared
    obtain ⟨rfl, namesRest⟩ := List.cons.inj names_eq
    obtain ⟨isWritten, writtenRest⟩ := List.forall_mem_cons.mp written
    exact ⟨route, others, rfl, isWritten, builds, writtenRest, namesRest, buildsRest⟩
  · rintro ⟨route, others, rfl, isWritten, builds, writtenRest, names_eq, buildsRest⟩
    exact ⟨List.forall_mem_cons.mpr ⟨isWritten, writtenRest⟩,
      congrArg (pair.1.toText :: ·) names_eq, .cons builds buildsRest⟩

/-! Single entries -/

theorem declare_of_hasText (written : key.hasText = true) :
    entries.declare key entry =
      match Declaration.ofValue key.toText entry with
      | .error fault => .error (.declaration fault)
      | .ok declaration =>
          declaration.build.bind fun route => entries.add key.toText route := by
  rw [declare, written]
  rfl

theorem declare_of_builds {route : Route} (written : key.hasText = true)
    (builds : Builds entry route) :
    entries.declare key entry = entries.add key.toText route := by
  obtain ⟨declaration, isAccepted, isBuilt⟩ := (builds_iff key.toText).mp builds
  rw [declare_of_hasText written, isAccepted]
  dsimp only
  rw [isBuilt]
  rfl

theorem add_of_fresh {name : String} (fresh : name ∉ entries.names) (route : Route) :
    entries.add name route = .ok (entries ++ [(name, route)]) := by
  rw [add, (has_eq_false_iff entries name).mpr fresh]
  rfl

theorem add_of_taken {name : String} (isTaken : name ∈ entries.names) (route : Route) :
    entries.add name route = .error (.nameTaken name) := by
  rw [add, (has_iff entries name).mpr isTaken]
  rfl

theorem declare_of_refuses (refuses : Refuses entries.names key entry failure) :
    entries.declare key entry = .error failure := by
  cases refuses with
  | unwritten hasNoText =>
      rw [declare, hasNoText]
      rfl
  | undeclared written violates =>
      rw [declare_of_hasText written, ofValue_eq_error_iff.mpr violates]
  | unbuilt written isMap declares fails =>
      rw [declare_of_hasText written, ofValue_eq_ok_iff.mpr ⟨_, isMap, declares⟩]
      dsimp only
      rw [fails]
      rfl
  | taken written builds isTaken => rw [declare_of_builds written builds, add_of_taken isTaken]

theorem exists_builds_or_refuses (taken : List String) (key entry : Value) :
    (∃ route, key.hasText = true ∧ Builds entry route ∧ key.toText ∉ taken) ∨
      ∃ failure, Refuses taken key entry failure := by
  cases written : key.hasText with
  | false => exact .inr ⟨_, .unwritten written⟩
  | true =>
      cases isRead : ofValue key.toText entry with
      | error fault => exact .inr ⟨_, .undeclared written (ofValue_eq_error_iff.mp isRead)⟩
      | ok declaration =>
          cases isBuilt : declaration.build with
          | error failure =>
              obtain ⟨fields, isMap, declares⟩ := ofValue_eq_ok_iff.mp isRead
              exact .inr ⟨failure, .unbuilt written isMap declares isBuilt⟩
          | ok route =>
              have builds : Builds entry route :=
                (builds_iff key.toText).mpr ⟨declaration, isRead, isBuilt⟩
              by_cases isTaken : key.toText ∈ taken
              · exact .inr ⟨_, .taken written builds isTaken⟩
              · exact .inl ⟨route, rfl, builds, isTaken⟩

theorem declare_eq_ok_iff {declared : Entries String Route} :
    entries.declare key entry = .ok declared ↔
      ∃ route, key.hasText = true ∧ Builds entry route ∧ key.toText ∉ entries.names ∧
        declared = entries ++ [(key.toText, route)] := by
  constructor
  · intro isDeclared
    rcases exists_builds_or_refuses entries.names key entry with
      ⟨route, written, builds, fresh⟩ | ⟨failure, refuses⟩
    · rw [declare_of_builds written builds, add_of_fresh fresh] at isDeclared
      exact ⟨route, written, builds, fresh, (Except.ok.inj isDeclared).symm⟩
    · rw [declare_of_refuses refuses] at isDeclared
      cases isDeclared
  · rintro ⟨route, written, builds, fresh, rfl⟩
    rw [declare_of_builds written builds, add_of_fresh fresh]

theorem declare_eq_error_iff :
    entries.declare key entry = .error failure ↔ Refuses entries.names key entry failure := by
  constructor
  · intro fails
    rcases exists_builds_or_refuses entries.names key entry with
      ⟨route, written, builds, fresh⟩ | ⟨other, refuses⟩
    · rw [declare_of_builds written builds, add_of_fresh fresh] at fails
      cases fails
    · rw [declare_of_refuses refuses] at fails
      cases fails
      exact refuses
  · exact declare_of_refuses

/-! All entries -/

theorem nodup_names_concat (nodup : entries.names.Nodup) {name : String}
    (fresh : name ∉ entries.names) (route : Route) :
    (names (entries ++ [(name, route)])).Nodup := by
  rw [names, List.map_append]
  exact nodup.append (List.nodup_singleton name) (List.disjoint_singleton.mpr fresh)

theorem declareAll_cons_eq_ok_iff {first : Value × Value} {declared : Entries String Route} :
    declareAll entries (first :: pairs) = .ok declared ↔
      ∃ reached, entries.declare first.1 first.2 = .ok reached ∧
        declareAll reached pairs = .ok declared := by
  rw [declareAll]
  cases entries.declare first.1 first.2 <;> simp [Except.bind]

theorem declareAll_cons_eq_error_iff {first : Value × Value} :
    declareAll entries (first :: pairs) = .error failure ↔
      entries.declare first.1 first.2 = .error failure ∨
        ∃ reached, entries.declare first.1 first.2 = .ok reached ∧
          declareAll reached pairs = .error failure := by
  rw [declareAll]
  cases entries.declare first.1 first.2 <;> simp [Except.bind]

theorem declareAll_eq_ok_iff (nodup : entries.names.Nodup) {declared : Entries String Route} :
    declareAll entries pairs = .ok declared ↔
      ∃ added, declared = entries ++ added ∧ AreDeclared pairs added ∧
        (names declared).Nodup := by
  induction pairs generalizing entries with
  | nil =>
      simp only [declareAll, Except.ok.injEq, areDeclared_nil_iff]
      constructor
      · rintro rfl
        exact ⟨[], (List.append_nil _).symm, rfl, nodup⟩
      · rintro ⟨_, rfl, rfl, -⟩
        exact (List.append_nil _).symm
  | cons first rest inductionHypothesis =>
      rw [declareAll_cons_eq_ok_iff]
      constructor
      · rintro ⟨reached, isFirst, isRest⟩
        obtain ⟨route, written, builds, fresh, rfl⟩ := declare_eq_ok_iff.mp isFirst
        obtain ⟨added, rfl, declaredRest, nodupAll⟩ :=
          (inductionHypothesis (nodup_names_concat nodup fresh route)).mp isRest
        exact ⟨(first.1.toText, route) :: added, List.append_assoc ..,
          areDeclared_cons_iff.mpr ⟨route, added, rfl, written, builds, declaredRest⟩, nodupAll⟩
      · rintro ⟨_, rfl, areDeclared, nodupAll⟩
        obtain ⟨route, others, rfl, written, builds, declaredRest⟩ :=
          areDeclared_cons_iff.mp areDeclared
        have fresh : first.1.toText ∉ entries.names := by
          rw [names, List.map_append, List.nodup_append] at nodupAll
          exact fun isBefore => nodupAll.2.2 _ isBefore _ List.mem_cons_self rfl
        refine ⟨_, declare_eq_ok_iff.mpr ⟨route, written, builds, fresh, rfl⟩, ?_⟩
        exact (inductionHypothesis (nodup_names_concat nodup fresh route)).mpr
          ⟨others, List.append_cons .., declaredRest, nodupAll⟩

/-- The loop fails where it first comes to an entry that is refused. -/
theorem declareAll_eq_error_iff :
    declareAll entries pairs = .error failure ↔
      ∃ front key entry behind declared, pairs = front ++ (key, entry) :: behind ∧
        declareAll entries front = .ok declared ∧
        Refuses declared.names key entry failure := by
  induction pairs generalizing entries with
  | nil => simp [declareAll]
  | cons first rest inductionHypothesis =>
      rw [declareAll_cons_eq_error_iff]
      constructor
      · rintro (fails | ⟨reached, isFirst, fails⟩)
        · exact ⟨[], first.1, first.2, rest, entries, rfl, rfl, declare_eq_error_iff.mp fails⟩
        · obtain ⟨front, key, entry, behind, declared, rfl, isDeclared, refuses⟩ :=
            inductionHypothesis.mp fails
          exact ⟨first :: front, key, entry, behind, declared, rfl,
            declareAll_cons_eq_ok_iff.mpr ⟨reached, isFirst, isDeclared⟩, refuses⟩
      · rintro ⟨front, key, entry, behind, declared, pairs_eq, isDeclared, refuses⟩
        cases front with
        | nil =>
            cases pairs_eq
            cases isDeclared
            exact .inl (declare_of_refuses refuses)
        | cons other front =>
            cases pairs_eq
            obtain ⟨reached, isFirst, isRest⟩ := declareAll_cons_eq_ok_iff.mp isDeclared
            exact .inr ⟨reached, isFirst, inductionHypothesis.mpr
              ⟨front, key, entry, behind, declared, rfl, isRest, refuses⟩⟩

theorem declareAll_nil_eq_ok_iff :
    declareAll [] pairs = .ok entries ↔
      AreDeclared pairs entries ∧ (pairs.map fun pair => pair.1.toText).Nodup := by
  have nodup : (names ([] : Entries String Route)).Nodup := List.nodup_nil
  rw [declareAll_eq_ok_iff nodup]
  constructor
  · rintro ⟨added, rfl, areDeclared, nodup⟩
    exact ⟨areDeclared, areDeclared.names_eq ▸ nodup⟩
  · rintro ⟨areDeclared, nodup⟩
    exact ⟨entries, rfl, areDeclared, areDeclared.names_eq ▸ nodup⟩

theorem ofConfiguration_eq_ok_iff {configuration : Value} :
    ofConfiguration configuration = .ok entries ↔
      ∃ pairs, configuration = .map pairs ∧ AreDeclared pairs entries ∧
        (pairs.map fun pair => pair.1.toText).Nodup := by
  cases configuration with
  | map pairs => simp [ofConfiguration, declareAll_nil_eq_ok_iff]
  | null | bool | int | float | text | bytes | date | moment | clock | list | tuple =>
      simp [ofConfiguration]

theorem ofConfiguration_eq_error_iff {configuration : Value} :
    ofConfiguration configuration = .error failure ↔
      (∀ pairs, configuration ≠ .map pairs) ∧
        failure = .declaration (.noMapping configuration.kindName) ∨
      ∃ front key entry behind declared,
        configuration = .map (front ++ (key, entry) :: behind) ∧
        AreDeclared front declared ∧ (front.map fun pair => pair.1.toText).Nodup ∧
        Refuses (front.map fun pair => pair.1.toText) key entry failure := by
  cases configuration with
  | map pairs =>
      have notAll : ¬ ∀ others, Value.map pairs ≠ .map others := fun isNone => isNone pairs rfl
      simp only [notAll, false_and, false_or, Value.map.injEq, ofConfiguration]
      rw [declareAll_eq_error_iff]
      simp only [declareAll_nil_eq_ok_iff, and_assoc]
      refine exists_congr fun front => exists_congr fun key => exists_congr fun entry =>
        exists_congr fun behind => exists_congr fun declared => and_congr_right fun _ =>
        and_congr_right fun areDeclared => ?_
      rw [areDeclared.names_eq]
  | null | bool | int | float | text | bytes | date | moment | clock | list | tuple =>
      simp [ofConfiguration, eq_comm]

end Entries

namespace RouteTable

open Declaration Entries

/-- An entry is accepted by its shape, and anything else in its place is a fault, of which the first
in order is told.  It is a fault of the configuration, unless it is that an unknown key has no text
to be told by.  A configuration gives a table exactly if it is a map all of whose entries declare
routes that can be built, and its keys have texts that differ; these are then the names, in order.
Otherwise it fails for what is wrong with the first entry that is refused behind those before it. -/
theorem declares_by_schema (name : String) (entry configuration : Value) :
    (∀ declaration, Declaration.ofValue name entry = .ok declaration ↔
      ∃ fields, entry = .map fields ∧ Declares fields declaration) ∧
    (∀ fault, (Declaration.ofValue name entry = .error fault ↔ ViolatesFirst name entry fault) ∧
      (Failure.declaration fault).kind =
        if fault = .keyWithoutText then .badValue else .routeConfig) ∧
    (∀ entries : Entries String Route,
      (∃ table, (ofConfiguration configuration).run.2 = .ok table ∧ table.IsIndexed ∧
        table.entries = entries) ↔
      ∃ pairs, configuration = .map pairs ∧ AreDeclared pairs entries ∧
        (pairs.map fun pair => pair.1.toText).Nodup) ∧
    ∀ failure, (ofConfiguration configuration).run.2 = .error failure ↔
      (∀ pairs, configuration ≠ .map pairs) ∧
        failure = .declaration (.noMapping configuration.kindName) ∨
      ∃ front key entry behind declared,
        configuration = .map (front ++ (key, entry) :: behind) ∧
        AreDeclared front declared ∧ (front.map fun pair => pair.1.toText).Nodup ∧
        Refuses (front.map fun pair => pair.1.toText) key entry failure := by
  refine ⟨fun declaration => ofValue_eq_ok_iff, fun fault => ?_, ?_, ?_⟩
  · exact ⟨ofValue_eq_error_iff, by cases fault <;> rfl⟩
  · intro entries
    rw [(isListed_ofConfiguration configuration).eq_ok_iff, ofConfiguration_eq_ok_iff]
  · intro failure
    rw [(isListed_ofConfiguration configuration).eq_error_iff, ofConfiguration_eq_error_iff]

/-- An unknown key that is too long to be told gives no fault of the configuration, although the
entry violates the schema and nothing else. -/
theorem long_key_escapes :
    ofValue "home" (.map [(.text "path", .text "/"), (.tooLong, .int 1)]) =
        .error .keyWithoutText ∧
      (Failure.declaration .keyWithoutText).kind = .badValue := by
  have rank_eq : DeclarationFault.keyWithoutText.rank = 2 := rfl
  refine ⟨ofValue_eq_error_iff.mpr (Violates.isFirst ?_ rank_eq ?_), rfl⟩
  · exact .keyWithoutText (List.mem_singleton_self _) Value.hasText_tooLong
  · rw [Nat.forall_lt_succ_right, Nat.forall_lt_succ_right]
    exact ⟨⟨fun _ isBefore => absurd isBefore (Nat.not_lt_zero _), id⟩, nofun⟩

end RouteTable

end UrlRouting
