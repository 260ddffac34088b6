import UrlRouting.Proofs.Routing.Resolution
import UrlRouting.Proofs.Store.Changes
import UrlRouting.Proofs.Store.Listings

/-!
# Tables as configurations

A route written as a plain value is read back as a declaration of which the same route is built, and
a table written as a configuration gives the same entries again
(`RouteTable.exists_ofConfiguration_toValue`).
-/

namespace UrlRouting

/-! ### Methods that are read again -/

namespace MethodSet

def IsAscending (names : List String) : Prop := names.Pairwise (· < ·)

theorem isAscending_insertName {names : List String} (ascending : IsAscending names)
    (name : String) : IsAscending (insertName name names) := by
  induction names with
  | nil => exact List.pairwise_singleton ..
  | cons first rest inductionHypothesis =>
      obtain ⟨below, ascendingRest⟩ := List.pairwise_cons.mp ascending
      unfold insertName
      split
      · next isBelow =>
          refine List.pairwise_cons.mpr ⟨?_, ascending⟩
          intro other membership
          rcases List.mem_cons.mp membership with rfl | inRest
          · exact isBelow
          · exact String.lt_trans isBelow (below other inRest)
      · split
        · exact ascending
        · next notBelow different =>
            refine List.pairwise_cons.mpr ⟨?_, inductionHypothesis ascendingRest⟩
            intro other membership
            rcases mem_insertName.mp membership with rfl | inRest
            · exact lt_of_le_of_ne (String.not_lt.mp notBelow) (Ne.symm different)
            · exact below other inRest

theorem isAscending_foldl_insert (names : List String) (set : MethodSet)
    (ascending : IsAscending set.names) : IsAscending (names.foldl insert set).names := by
  induction names generalizing set with
  | nil => exact ascending
  | cons first rest inductionHypothesis =>
      exact inductionHypothesis _ (isAscending_insertName ascending first)

theorem insertName_of_above {name : String} {names : List String}
    (above : ∀ other ∈ names, other < name) : insertName name names = names ++ [name] := by
  induction names with
  | nil => rfl
  | cons first rest inductionHypothesis =>
      obtain ⟨isAbove, aboveRest⟩ := List.forall_mem_cons.mp above
      rw [insertName, if_neg (String.lt_asymm isAbove), if_neg (ne_of_gt isAbove),
        inductionHypothesis aboveRest, List.cons_append]

/-- Names in ascending order are put one behind the other. -/
theorem names_foldl_insert (front : List String) {names : List String}
    (ascending : IsAscending (front ++ names)) :
    (names.foldl insert ⟨front⟩).names = front ++ names := by
  induction names generalizing front with
  | nil => simp
  | cons first rest inductionHypothesis =>
      have above : ∀ other ∈ front, other < first := fun other inFront =>
        (List.pairwise_append.mp ascending).2.2 other inFront first (List.mem_cons_self ..)
      rw [List.foldl_cons, insert, insertName_of_above above, inductionHypothesis]
      · rw [List.append_assoc, List.singleton_append]
      · rwa [List.append_assoc, List.singleton_append]

theorem ofNames_names {set : MethodSet} (isNormal : set.IsNormal) : ofNames set.names = set := by
  have areUpper : set.names.map Text.upper = set.names :=
    (List.map_congr_left fun _ => upper_of_mem isNormal).trans (List.map_id set.names)
  rw [ofNames, areUpper]
  obtain ⟨names, rfl⟩ := isNormal
  have ascending : IsAscending (ofNames names).names :=
    isAscending_foldl_insert _ .empty List.Pairwise.nil
  exact congrArg MethodSet.mk (names_foldl_insert [] ascending)

end MethodSet

/-! ### Routes that are read again -/

namespace Declaration

/-- What a route is declared to be by the value that it is written as. -/
def ofRoute (route : Route) : Declaration :=
  ⟨route.path, route.defaults, route.requirements, route.methods.names⟩

theorem requirementTexts?_map (requirements : Requirements) :
    requirementTexts? (requirements.map fun (name, source) => (name, .text source)) =
      some requirements := by
  induction requirements with
  | nil => rfl
  | cons first rest inductionHypothesis =>
      rw [List.map_cons, requirementTexts?, inductionHypothesis]
      rfl

theorem texts?_map (names : List String) : texts? (names.map .text) = some names := by
  induction names with
  | nil => rfl
  | cons first rest inductionHypothesis =>
      rw [List.map_cons, texts?, inductionHypothesis]
      rfl

/-- What is written under the keys of a route. -/
def written (route : Route) : Attributes :=
  [(.text "path", .text route.path), (.text "defaults", .map route.defaults),
    (.text "requirements",
      .map (route.requirements.map fun (name, source) => (name, .text source))),
    (.text "methods", .list (route.methods.names.map .text))]

-- An empty field is written and read as no field at all, so each reader has two cases.
theorem readDefaults_written (name : String) (route : Route) :
    readDefaults name (written route) = .ok route.defaults := by
  have field_eq : field? (written route) "defaults" =
      (some (.map route.defaults)).filter Value.isGiven := rfl
  rw [readDefaults, field_eq]
  cases route.defaults <;> rfl

theorem readRequirements_written (name : String) (route : Route) :
    readRequirements name (written route) = .ok route.requirements := by
  have field_eq : field? (written route) "requirements" =
      (some (.map (route.requirements.map fun (name, source) => (name, .text source)))).filter
        Value.isGiven := rfl
  rw [readRequirements, field_eq]
  cases isThere : route.requirements with
  | nil => rfl
  | cons first rest =>
      rw [Option.filter_some, if_pos (by rfl)]
      dsimp only
      rw [requirementTexts?_map]

theorem readMethods_written (name : String) (route : Route) :
    readMethods name (written route) = .ok route.methods.names := by
  have field_eq : field? (written route) "methods" =
      (some (.list (route.methods.names.map .text))).filter Value.isGiven := rfl
  rw [readMethods, field_eq]
  cases isThere : route.methods.names with
  | nil => rfl
  | cons first rest =>
      rw [Option.filter_some, if_pos (by rfl)]
      dsimp only [Value.elements?, Option.bind]
      rw [texts?_map]

theorem ofValue_toValue (name : String) (route : Route) :
    ofValue name route.toValue = .ok (ofRoute route) := by
  have ofEntries_eq : ofValue name route.toValue =
      ofEntries name (written route) (.text route.path) := rfl
  rw [ofEntries_eq, ofEntries, readDefaults_written, readRequirements_written,
    readMethods_written]
  rfl

theorem build_ofRoute (route : Route) : (ofRoute route).build = .ok route :=
  build_eq_ok_iff.mpr ⟨rfl, rfl, rfl, (MethodSet.ofNames_names route.isNormal).symm,
    route.compile_eq⟩

end Declaration

/-! ### Tables that are read again -/

namespace Entries

theorem declare_toValue {entries : Entries String Route} {name : String}
    (fresh : name ∉ entries.names) (route : Route) :
    entries.declare (.text name) route.toValue = .ok (entries ++ [(name, route)]) := by
  have isFree : entries.has name = false := (has_eq_false_iff entries name).mpr fresh
  rw [declare, Value.toText, Declaration.ofValue_toValue]
  dsimp only
  rw [Declaration.build_ofRoute, Except.bind, add, isFree]
  rfl

theorem declareAll_map (front : Entries String Route) {entries : Entries String Route}
    (nodup : (names (front ++ entries)).Nodup) :
    declareAll front (entries.map fun (name, route) => (.text name, route.toValue)) =
      .ok (front ++ entries) := by
  induction entries generalizing front with
  | nil => rw [List.append_nil]; rfl
  | cons first rest inductionHypothesis =>
      have fresh : first.1 ∉ front.names := by
        rw [names, List.map_append, List.nodup_append] at nodup
        exact fun inFront => nodup.2.2 first.1 inFront first.1 (List.mem_cons_self ..) rfl
      rw [List.map_cons, declareAll, declare_toValue fresh, Except.bind, inductionHypothesis]
      · rw [List.append_assoc, List.singleton_append]
      · rwa [List.append_assoc, List.singleton_append]

end Entries

namespace RouteTable

/-- A table that is written as a configuration gives its entries again. -/
theorem exists_ofConfiguration_toValue {table : RouteTable Route} (nodup : table.names.Nodup) :
    ∃ copy, (ofConfiguration table.toValue).run.2 = .ok copy ∧ copy.IsIndexed ∧
      copy.entries = table.entries := by
  have declared : Entries.ofConfiguration table.toValue = .ok table.entries :=
    Entries.declareAll_map [] nodup
  have isListed := isListed_ofConfiguration table.toValue
  rw [declared] at isListed
  exact isListed.eq_ok_iff.mpr rfl

end RouteTable

end UrlRouting
