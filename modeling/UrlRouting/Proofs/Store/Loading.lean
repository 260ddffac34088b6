import UrlRouting.Proofs.Routing.Outcome
import UrlRouting.Proofs.Store.Listings
import UrlRouting.Proofs.Store.Routers
import UrlRouting.RouteFile

/-!
# Routers from files

A router for the routes of a file can be made exactly if the file has a table, and answers as this
table does (`Session.loadRouter_answers`).
-/

namespace UrlRouting

/-! ### The table of a file -/

theorem RouteFile.run_table (file : RouteFile) (executed : ModuleOutcome) :
    (file.table executed).run.2 = (file.configuration executed).bind fun entries =>
      (RouteTable.ofConfiguration (.map entries)).run.2 := by
  unfold table Reported.run
  cases file.configuration executed with
  | error failure => rfl
  | ok entries =>
      dsimp only [Except.bind]
      rw [run_bind_eq]
      generalize (ExceptT.run (RouteTable.ofConfiguration (.map entries))).run [] = result
      rcases result with ⟨table | failure, events⟩ <;> rfl

/-- A table is built from a configuration that declares its entries. -/
theorem RouteFile.exists_of_run_table {file : RouteFile} {executed : ModuleOutcome}
    {table : RouteTable Route} (isTable : (file.table executed).run.2 = .ok table) :
    ∃ pairs, file.configuration executed = .ok pairs ∧ table.IsIndexed ∧
      Entries.ofConfiguration (.map pairs) = .ok table.entries := by
  rw [file.run_table] at isTable
  cases isRead : file.configuration executed with
  | error failure =>
      rw [isRead] at isTable
      cases isTable
  | ok pairs =>
      rw [isRead] at isTable
      have isListed := RouteTable.isListed_ofConfiguration (.map pairs)
      rw [show (RouteTable.ofConfiguration (.map pairs)).run.2 = .ok table from isTable]
        at isListed
      generalize declared : Entries.ofConfiguration (.map pairs) = listed at isListed
      cases isListed with
      | ok isIndexed => exact ⟨pairs, rfl, isIndexed, declared⟩

theorem RouteFile.isIndexed_of_run_table {file : RouteFile} {executed : ModuleOutcome}
    {table : RouteTable Route} (isTable : (file.table executed).run.2 = .ok table) :
    table.IsIndexed := by
  obtain ⟨-, -, isIndexed, -⟩ := exists_of_run_table isTable
  exact isIndexed

/-! ### Tables with the same entries -/

namespace RouteTable

variable {table : RouteTable Route}

theorem get_ofEntries_entries {α : Type} {table : RouteTable α} (isIndexed : table.IsIndexed)
    (name : String) : (ofEntries table.entries).get name = table.get name := by
  rw [isIndexed.get_eq, (isIndexed_ofEntries isIndexed.nodup).get_eq]
  rfl

theorem link_ofEntries_entries (isIndexed : table.IsIndexed) (config : Config) (name : String)
    (parameters : Parameters) (absolute : Bool) :
    (ofEntries table.entries).link config name parameters absolute =
      table.link config name parameters absolute := by
  rw [link, get_ofEntries_entries isIndexed, link]

theorem links_ofEntries_entries (isIndexed : table.IsIndexed) (config : Config)
    (strict : Option Bool) (batch : List (String × Parameters)) :
    (ofEntries table.entries).links config strict batch = table.links config strict batch := by
  induction batch with
  | nil => rfl
  | cons first rest inductionHypothesis =>
      rw [links, links, link_ofEntries_entries isIndexed, inductionHypothesis]

end RouteTable

theorem Router.Question.answer_ofEntries_entries {table : RouteTable Route}
    (isIndexed : table.IsIndexed) (config : Config) (question : Router.Question) :
    question.answer (.ofEntries table.entries) config = question.answer table config := by
  rcases question with question | question
  · cases question <;> rfl
  · cases question with
    | link name parameters absolute =>
        rw [answer, UrlGenerator.Question.answer, RouteTable.link_ofEntries_entries isIndexed]
        rfl
    | links strict batch =>
        rw [answer, UrlGenerator.Question.answer, RouteTable.links_ofEntries_entries isIndexed]
        rfl
    | linkWithQuery name parameters query =>
        rw [answer, UrlGenerator.Question.answer, RouteTable.linkWithQuery,
          RouteTable.link_ofEntries_entries isIndexed]
        rfl

namespace Session

/-- A router for the routes of a file. -/
def loadRouter (file : RouteFile) (config : Config) (executed : ModuleOutcome := .notImported) :
    Session (Handle Router) := do
  newRouter (← shareTable (← ofReported (file.table executed))) config

/-- A table that is shared anew holds what it is made of. -/
theorem exists_snapshot_eq_ofEntries (table : RouteTable Route) (store : Store) :
    ∃ shared made, (shareTable table).perform store = (.ok shared, made) ∧
      made.snapshot shared = .ofEntries table.entries := by
  refine ⟨_, _, perform_shareTable table store, ?_⟩
  rw [Store.snapshot, Store.table, Arena.get?_alloc_self]
  exact congrArg RouteTable.ofEntries (Arena.filterMap_allocAll table.entries store.routes)

theorem snapshot_of_perform_newRouter {shared : Handle SharedTable} {config : Config}
    {store made : Store} {router : Handle Router}
    (isMade : (newRouter shared config).perform store = (.ok router, made)) :
    made.snapshot shared = store.snapshot shared := by
  cases isMade
  rfl

/-- A router from a file fails to be made as the table of the file fails to be built.  If there is a
table, there is a router, and it answers all questions as this table does. -/
theorem loadRouter_answers (file : RouteFile) (config : Config) (executed : ModuleOutcome)
    (store : Store) :
    (∀ failure, (file.table executed).run.2 = .error failure →
      ((loadRouter file config executed).perform store).1 = .error failure) ∧
    ∀ table, (file.table executed).run.2 = .ok table →
      ∃ router made, (loadRouter file config executed).perform store = (.ok router, made) ∧
        ∀ question, ((ask router question).perform made).1 =
          (question.answer table config).run.2 := by
  rw [loadRouter, perform_bind, perform_ofReported]
  constructor
  · intro failure fails
    rw [fails]
  · intro table isTable
    rw [isTable]
    dsimp only
    obtain ⟨shared, sharing, isShared, holds⟩ := exists_snapshot_eq_ofEntries table
      { store with events := store.events ++ (file.table executed).run.1 }
    obtain ⟨router, made, isMade, serves⟩ := exists_perform_newRouter shared config sharing
    refine ⟨router, made, ?_, ?_⟩
    · rw [perform_bind, isShared]
      exact isMade
    · intro question
      have answers := congrArg Prod.fst (observed_ask serves question)
      rw [observed_ofReported, snapshot_of_perform_newRouter isMade, holds,
        question.answer_ofEntries_entries (RouteFile.isIndexed_of_run_table isTable)] at answers
      exact answers

variable {file : RouteFile} {config : Config} {executed : ModuleOutcome} {store : Store}

theorem perform_loadRouter_eq_error_iff {failure : Failure} :
    ((loadRouter file config executed).perform store).1 = .error failure ↔
      (file.table executed).run.2 = .error failure := by
  obtain ⟨fails, answers⟩ := loadRouter_answers file config executed store
  refine ⟨?_, fails failure⟩
  intro isRefused
  cases isTable : (file.table executed).run.2 with
  | error other =>
      rw [fails other isTable] at isRefused
      cases isRefused
      rfl
  | ok table =>
      obtain ⟨router, made, isMade, -⟩ := answers table isTable
      rw [isMade] at isRefused
      cases isRefused

theorem exists_table_of_perform_loadRouter {router : Handle Router} {made : Store}
    (isMade : (loadRouter file config executed).perform store = (.ok router, made)) :
    ∃ table, (file.table executed).run.2 = .ok table ∧
      ∀ question, ((ask router question).perform made).1 =
        (question.answer table config).run.2 := by
  obtain ⟨fails, answers⟩ := loadRouter_answers file config executed store
  cases isTable : (file.table executed).run.2 with
  | error failure =>
      have isRefused := fails failure isTable
      rw [isMade] at isRefused
      cases isRefused
  | ok table =>
      obtain ⟨other, otherMade, isOther, answersTable⟩ := answers table isTable
      rw [isMade] at isOther
      cases isOther
      exact ⟨table, rfl, answersTable⟩

end Session

end UrlRouting
