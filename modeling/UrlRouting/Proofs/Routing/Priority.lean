import UrlRouting.Proofs.Routing.Resolution

/-!
# Entries that come later

Entries behind those of a table do not change what the table finds
(`RouteTable.run_eq_ok_of_append`), and a path that it has fits goes on fitting
(`RouteTable.run_eq_error_of_append`).
-/

namespace UrlRouting.RouteTable

variable {table grown : RouteTable Route} {entries more : List (String × Route)}
  {path method name : String} {parameters : Attributes}

theorem TakenFirst.append (first : TakenFirst entries path method name parameters)
    (more : List (String × Route)) :
    TakenFirst (entries ++ more) path method name parameters := by
  obtain ⟨front, route, rest, rfl, untaken, takes⟩ := first
  exact ⟨front, route, rest ++ more, by simp, untaken, takes⟩

theorem refusing_append (entries more : List (String × Route)) (path method : String) :
    refusing (entries ++ more) path method =
      refusing entries path method ++ refusing more path method := by
  rw [refusing, List.map_append, List.filter_append]
  rfl

theorem names_allowedMethods_append_subset (entries more : List (String × Route))
    (path method : String) :
    (allowedMethods entries path method).names ⊆
      (allowedMethods (entries ++ more) path method).names := by
  intro allowed isAllowed
  obtain ⟨route, refuses, isMethod⟩ := mem_allowedMethods.mp isAllowed
  apply mem_allowedMethods.mpr
  rw [refusing_append]
  exact ⟨route, List.mem_append_left _ refuses, isMethod⟩

theorem run_eq_ok_of_append (entries_eq : grown.entries = table.entries ++ more)
    (isOk : (Reported.run (table.resolveParameters path method)).2 = .ok parameters) :
    (Reported.run (grown.resolveParameters path method)).2 = .ok parameters := by
  obtain ⟨name, captured, first, rfl⟩ := run_eq_ok_iff.mp isOk
  apply run_of_takenFirst
  rw [entries_eq]
  exact first.append more

/-- A path that fits some routes goes on fitting them, so that a new route can only take it or allow
more methods. -/
theorem run_eq_error_of_append {allowed : MethodSet}
    (entries_eq : grown.entries = table.entries ++ more)
    (refused : (Reported.run (table.resolveParameters path method)).2 =
      .error (.otherMethods allowed)) :
    (∃ parameters, (Reported.run (grown.resolveParameters path method)).2 = .ok parameters) ∨
      ∃ wider, (Reported.run (grown.resolveParameters path method)).2 =
        .error (.otherMethods wider) ∧ allowed.names ⊆ wider.names := by
  rcases takenFirst_or_takenByNone grown.entries path method with
    ⟨name, captured, first⟩ | untaken
  · exact .inl ⟨_, run_of_takenFirst first⟩
  · obtain ⟨-, failure_eq, rfl⟩ := eq_allowedMethods_of_run refused
    have someRefuse : refusing table.entries path method ≠ [] := by
      intro noneRefuse
      rw [failureFor, if_pos noneRefuse] at failure_eq
      simp [Failure.unmatchedPath, Failure.otherMethods] at failure_eq
    have someRefuseStill : refusing grown.entries path method ≠ [] := by
      rw [entries_eq, refusing_append]
      exact List.append_ne_nil_of_left_ne_nil someRefuse _
    refine .inr ⟨allowedMethods grown.entries path method, ?_, ?_⟩
    · rw [run_of_takenByNone untaken, failureFor, if_neg someRefuseStill]
    · rw [entries_eq]
      exact names_allowedMethods_append_subset ..

end UrlRouting.RouteTable
