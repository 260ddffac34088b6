import UrlRouting.Proofs.Routing.Outcome
import UrlRouting.Proofs.Store.Session

/-!
# Links in batches

A batch asks for each of its links as it would be asked for alone.  What a batch may leave out are
all failures of a relative link but one, that a value has no text
(`RouteTable.isSkippable_iff_of_linkOf`).  A batch that is not strict gives the links that can be
made, unless it comes to such a value; a strict one gives all of them, or the failure of the first
that cannot be made (`RouteTable.links_entrywise`).
-/

namespace UrlRouting

namespace RouteTable

variable {table : RouteTable Route} {config : Config} {strict : Option Bool}
  {entry : String × Parameters} {url : String} {failure : Failure}

/-- The link that an entry of a batch asks for.  An entry that gives no parameters has none. -/
def linkOf (table : RouteTable Route) (config : Config) (entry : String × Parameters) :
    Except Failure String :=
  table.link config entry.1 entry.2 false

/-- Why an entry of a batch gets no link, if it gets none. -/
def failureOf? (table : RouteTable Route) (config : Config) (entry : String × Parameters) :
    Option Failure :=
  match table.linkOf config entry with
  | .ok _ => none
  | .error failure => some failure

def firstFailure? (table : RouteTable Route) (config : Config)
    (batch : List (String × Parameters)) : Option Failure :=
  batch.findSome? (table.failureOf? config)

/-- The links of a batch that can be made, in its order. -/
def madeLinks (table : RouteTable Route) (config : Config) (batch : List (String × Parameters)) :
    List (String × String) :=
  batch.filterMap fun entry => (table.linkOf config entry).toOption.map (entry.1, ·)

/-- Whether an entry of a batch has a link, or fails in a way that the batch may leave out. -/
def isHandled (table : RouteTable Route) (config : Config) (entry : String × Parameters) : Bool :=
  (table.failureOf? config entry).all isSkippable

/-- What is told of the links of a batch that cannot be made. -/
def skipEvents (table : RouteTable Route) (config : Config) (batch : List (String × Parameters)) :
    List Event :=
  batch.filterMap fun entry => (table.failureOf? config entry).map (.linkSkipped entry.1)

/-! ### Failures of links -/

theorem failureOf?_eq_some_iff :
    table.failureOf? config entry = some failure ↔ table.linkOf config entry = .error failure := by
  unfold failureOf?
  cases table.linkOf config entry <;> simp

theorem failureOf?_eq_none_iff :
    table.failureOf? config entry = none ↔ ∃ url, table.linkOf config entry = .ok url := by
  unfold failureOf?
  cases table.linkOf config entry <;> simp

theorem isSkippable_iff_of_pathOf {name : String} {route : Route} {parameters : Parameters}
    (fails : Generation.pathOf name route parameters = .error failure) :
    isSkippable failure = true ↔ failure ≠ .tooManyDigits := by
  unfold Generation.pathOf at fails
  dsimp only at fails
  split at fails
  · cases fails
    decide
  split at fails
  · cases fails
    exact iff_of_true rfl (by rintro ⟨⟩)
  · split at fails <;> cases fails
    exact iff_of_true rfl (by rintro ⟨⟩)

theorem eq_tooManyDigits_of_addQuery {path : String} {others : Parameters}
    (fails : Generation.addQuery path others = .error failure) : failure = .tooManyDigits := by
  unfold Generation.addQuery at fails
  split at fails <;> cases fails
  rfl

/-- A relative link fails for its name, for its parameters, or because a value has no text. -/
theorem isSkippable_iff_of_linkOf (fails : table.linkOf config entry = .error failure) :
    isSkippable failure = true ↔ failure ≠ .tooManyDigits := by
  cases registered : table.get entry.1 with
  | error other =>
      rw [linkOf, link, registered] at fails
      cases fails
      unfold get at registered
      split at registered <;> cases registered
      exact iff_of_true rfl (by rintro ⟨⟩)
  | ok route =>
      rw [linkOf, link_eq_relative registered, Generation.relative_eq_bind] at fails
      cases made : Generation.pathOf entry.1 route entry.2 with
      | ok path =>
          rw [made] at fails
          rw [eq_tooManyDigits_of_addQuery fails]
          decide
      | error other =>
          rw [made] at fails
          cases fails
          exact isSkippable_iff_of_pathOf made

theorem isHandled_iff :
    table.isHandled config entry = true ↔ table.linkOf config entry ≠ .error .tooManyDigits := by
  unfold isHandled failureOf?
  cases asked : table.linkOf config entry with
  | ok url => exact iff_of_true rfl nofun
  | error failure =>
      rw [Option.all_some, isSkippable_iff_of_linkOf asked, ne_eq, ne_eq, Except.error.injEq]

theorem isHandled_eq_decide :
    table.isHandled config entry = decide (table.linkOf config entry ≠ .error .tooManyDigits) :=
  Bool.eq_iff_iff.mpr (isHandled_iff.trans decide_eq_true_iff.symm)

theorem all_isHandled_iff {batch : List (String × Parameters)} :
    batch.all (table.isHandled config) = true ↔
      ∀ entry ∈ batch, table.linkOf config entry ≠ .error .tooManyDigits := by
  rw [List.all_eq_true]
  exact forall₂_congr fun _ _ => isHandled_iff

theorem all_isHandled_eq_false_iff {batch : List (String × Parameters)} :
    batch.all (table.isHandled config) = false ↔
      ∃ entry ∈ batch, table.linkOf config entry = .error .tooManyDigits := by
  rw [← Bool.not_eq_true, all_isHandled_iff]
  push Not
  rfl

/-! ### Single entries -/

variable (rest : List (String × Parameters)) (events : List Event)

theorem run_links_of_made (made : table.linkOf config entry = .ok url) :
    (ExceptT.run (table.links config strict (entry :: rest))).run events =
      let (result, reached) := (ExceptT.run (table.links config strict rest)).run events
      (result.map ((entry.1, url) :: ·), reached) := by
  unfold linkOf at made
  rw [links, made]
  dsimp only
  rw [run_bind_eq]
  generalize StateT.run (ExceptT.run (table.links config strict rest)) events = result
  rcases result with ⟨value | failure, reached⟩ <;> rfl

theorem run_links_of_skipped (fails : table.linkOf config entry = .error failure)
    (isHandled : table.isHandled config entry = true)
    (isLenient : strict.getD config.strict = false) :
    (ExceptT.run (table.links config strict (entry :: rest))).run events =
      (ExceptT.run (table.links config strict rest)).run
        (events ++ [.linkSkipped entry.1 failure]) := by
  have isSkippable : isSkippable failure = true := by
    rw [isSkippable_iff_of_linkOf fails]
    rintro rfl
    exact isHandled_iff.mp isHandled fails
  unfold linkOf at fails
  rw [links, fails]
  dsimp only
  rw [isSkippable, isLenient]
  rfl

theorem run_links_of_escaping (escapes : table.linkOf config entry = .error .tooManyDigits) :
    (ExceptT.run (table.links config strict (entry :: rest))).run events =
      (.error .tooManyDigits, events) := by
  unfold linkOf at escapes
  rw [links, escapes]
  rfl

theorem run_links_of_refused (fails : table.linkOf config entry = .error failure)
    (isStrict : strict.getD config.strict = true) :
    (ExceptT.run (table.links config strict (entry :: rest))).run events =
      (.error failure, events) := by
  unfold linkOf at fails
  rw [links, fails]
  dsimp only
  rw [isStrict, Bool.not_true, Bool.and_false]
  rfl

/-! ### Batches -/

variable (batch : List (String × Parameters))

theorem run_links_lenient (isLenient : strict.getD config.strict = false) :
    (ExceptT.run (table.links config strict batch)).run events =
      (if batch.all (table.isHandled config) then .ok (table.madeLinks config batch)
        else .error .tooManyDigits,
        events ++ table.skipEvents config (batch.takeWhile (table.isHandled config))) := by
  induction batch generalizing events with
  | nil => exact congrArg (Prod.mk _) (List.append_nil events).symm
  | cons entry rest inductionHypothesis =>
      cases isHandled : table.isHandled config entry with
      | false =>
          have escapes : table.linkOf config entry = .error .tooManyDigits := by
            rw [← Bool.not_eq_true, isHandled_iff, not_not] at isHandled
            exact isHandled
          rw [run_links_of_escaping rest events escapes]
          simp [isHandled, skipEvents]
      | true =>
          cases asked : table.linkOf config entry with
          | ok url =>
              rw [run_links_of_made rest events asked, inductionHypothesis, List.all_cons,
                isHandled, List.takeWhile_cons_of_pos isHandled, Bool.true_and]
              cases rest.all (table.isHandled config) <;>
                simp [madeLinks, skipEvents, failureOf?, asked, Except.map, Except.toOption]
          | error failure =>
              rw [run_links_of_skipped rest events asked isHandled isLenient, inductionHypothesis,
                List.all_cons, isHandled, List.takeWhile_cons_of_pos isHandled, Bool.true_and]
              cases rest.all (table.isHandled config) <;>
                simp [madeLinks, skipEvents, failureOf?, asked, Except.toOption]

theorem firstFailure?_eq_none_iff :
    table.firstFailure? config batch = none ↔
      ∀ entry ∈ batch, ∃ url, table.linkOf config entry = .ok url := by
  simp only [firstFailure?, List.findSome?_eq_none_iff, failureOf?_eq_none_iff]

theorem firstFailure?_eq_some_iff :
    table.firstFailure? config batch = some failure ↔
      ∃ front entry behind, batch = front ++ entry :: behind ∧
        (∀ other ∈ front, ∃ url, table.linkOf config other = .ok url) ∧
        table.linkOf config entry = .error failure := by
  simp only [firstFailure?, List.findSome?_eq_some_iff, failureOf?_eq_none_iff,
    failureOf?_eq_some_iff, and_comm (b := ∀ other ∈ _, _)]

theorem run_links_strict (isStrict : strict.getD config.strict = true) :
    (ExceptT.run (table.links config strict batch)).run events =
      (match table.firstFailure? config batch with
        | some failure => .error failure
        | none => .ok (table.madeLinks config batch), events) := by
  unfold firstFailure?
  induction batch with
  | nil => rfl
  | cons entry rest inductionHypothesis =>
      cases asked : table.linkOf config entry with
      | ok url =>
          rw [run_links_of_made rest events asked, inductionHypothesis, List.findSome?_cons,
            failureOf?_eq_none_iff.mpr ⟨url, asked⟩]
          dsimp only
          cases rest.findSome? (table.failureOf? config) with
          | none => simp [madeLinks, asked, Except.map, Except.toOption]
          | some failure => rfl
      | error failure =>
          rw [run_links_of_refused rest events asked isStrict, List.findSome?_cons,
            failureOf?_eq_some_iff.mpr asked]

/-- Settings decide where a request for a batch says nothing. -/
theorem links_none :
    table.links config none batch = table.links config (some config.strict) batch := by
  induction batch with
  | nil => rfl
  | cons entry rest inductionHypothesis =>
      rw [links, links, inductionHypothesis]
      rfl

end RouteTable

end UrlRouting
