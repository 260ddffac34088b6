import UrlRouting.Proofs.CommandLine.Items
import UrlRouting.Proofs.Routing.Batch
import UrlRouting.Proofs.Store.Loading
import UrlRouting.Proofs.Table.Declaration

/-!
# Links from a command line

The program prints the link that a router from the same file makes, or tells why there is none
(`Outcome.links_as_router`).  The address under which links are absolute is never missed, since a
link is absolute exactly if there is one.  All that is not told is that a value has no text.
-/

namespace UrlRouting

namespace RouteTable

variable {table : RouteTable Route} {config : Config} {name : String} {parameters : Parameters}
  {failure : Failure}

theorem kinds_of_isSkippable (skippable : isSkippable failure = true) :
    [FailureKind.http, .generation].any failure.kind.isA = true ∧
      failure.kind.isA .configuration = false := by
  unfold isSkippable at skippable
  revert skippable
  cases failure.kind <;> decide

/-- With a base for absolute links, a link fails as a relative one does. -/
theorem isSkippable_iff_of_link {absolute : Bool} (hasBase : absolute = true → config.baseUrl ≠ "")
    (fails : table.link config name parameters absolute = .error failure) :
    isSkippable failure = true ↔ failure ≠ .tooManyDigits := by
  cases absolute with
  | false =>
      change table.linkOf config (name, parameters) = _ at fails
      exact isSkippable_iff_of_linkOf fails
  | true =>
      rw [link_absolute] at fails
      cases made : table.link config name parameters false with
      | error other =>
          rw [made] at fails
          cases fails
          change table.linkOf config (name, parameters) = _ at made
          exact isSkippable_iff_of_linkOf made
      | ok path =>
          rw [made, Except.bind, Generation.absolute,
            if_neg (mt String.isEmpty_iff.mp (hasBase rfl))] at fails
          cases fails

end RouteTable

namespace CommandLine.Outcome

/-- The settings that a base address makes; an empty one makes none. -/
def settings? (baseUrl : String) : Option Config :=
  if baseUrl = "" then none else some { Config.standard with baseUrl }

/-- A router from a file, under a base address. -/
def router (file : RouteFile) (executed : ModuleOutcome) (baseUrl : String) :
    Session (Handle Router) :=
  Session.loadRouter file ((settings? baseUrl).getD .standard) executed

/-- The question for a link, which is absolute if there is a base address. -/
def question (name : String) (parameters : Parameters) (baseUrl : String) : Router.Question :=
  .generating (.link name parameters (settings? baseUrl).isSome)

/-- What the program does when it is asked for a link.  The items are looked at first, then the
file, then the route; what fails first is told, and nothing else is written then.  Only what is no
fault of the configuration, of the name or of the parameters is passed on. -/
inductive Linking (store : Store) (file : RouteFile) (executed : ModuleOutcome) (name : String)
    (items : List String) (baseUrl : String) : Except Failure Outcome → Prop where
  | refused {front behind : List String} {item : String} {pairs : List (String × String)}
      (items_eq : items = front ++ item :: behind) (areRead : List.Forall₂ Assigns front pairs)
      (isRefused : IsRefused item) :
      Linking store file executed name items baseUrl
        (.ok ⟨2, "", "Error: --param expects KEY=VALUE, got " ++ Text.quoted item ++ "\n"⟩)
  | unloaded {pairs : List (String × String)} {failure : Failure}
      (areRead : List.Forall₂ Assigns items pairs)
      (fails : ((router file executed baseUrl).perform store).1 = .error failure)
      (isTold : failure.kind.isA .configuration = true) :
      Linking store file executed name items baseUrl
        (.ok ⟨1, "", "Error: " ++ failure.message ++ "\n"⟩)
  | escaped {pairs : List (String × String)} {failure : Failure}
      (areRead : List.Forall₂ Assigns items pairs)
      (fails : ((router file executed baseUrl).perform store).1 = .error failure)
      (isOther : failure.kind.isA .configuration = false) :
      Linking store file executed name items baseUrl (.error failure)
  | unmade {pairs : List (String × String)} {parameters : Parameters} {handle : Handle Router}
      {made : Store} {failure : Failure} (areRead : List.Forall₂ Assigns items pairs)
      (gathers : Gathers pairs parameters)
      (isMade : (router file executed baseUrl).perform store = (.ok handle, made))
      (fails : ((Session.ask handle (question name parameters baseUrl)).perform made).1 =
        .error failure)
      (isTold : failure.kind.isA .http = true ∨ failure.kind.isA .generation = true) :
      Linking store file executed name items baseUrl
        (.ok ⟨1, "", "Error: " ++ failure.message ++ "\n"⟩)
  | unwritten {pairs : List (String × String)} {parameters : Parameters} {handle : Handle Router}
      {made : Store} (areRead : List.Forall₂ Assigns items pairs)
      (gathers : Gathers pairs parameters)
      (isMade : (router file executed baseUrl).perform store = (.ok handle, made))
      (fails : ((Session.ask handle (question name parameters baseUrl)).perform made).1 =
        .error .tooManyDigits) :
      Linking store file executed name items baseUrl (.error .tooManyDigits)
  | printed {pairs : List (String × String)} {parameters : Parameters} {handle : Handle Router}
      {made : Store} {url : String} (areRead : List.Forall₂ Assigns items pairs)
      (gathers : Gathers pairs parameters)
      (isMade : (router file executed baseUrl).perform store = (.ok handle, made))
      (links : ((Session.ask handle (question name parameters baseUrl)).perform made).1 =
        .ok (.link url)) :
      Linking store file executed name items baseUrl (.ok ⟨0, url ++ "\n", ""⟩)

variable {store : Store} {file : RouteFile} {executed : ModuleOutcome} {name baseUrl : String}
  {items : List String} {pairs : List (String × String)} {table : RouteTable Route}
  {failure : Failure}

/-! ### The program, step by step -/

theorem getD_settings? : (settings? baseUrl).getD .standard = { Config.standard with baseUrl } := by
  unfold settings?
  split
  · next isEmpty =>
      subst isEmpty
      rfl
  · rfl

theorem isSome_settings? : (settings? baseUrl).isSome = !baseUrl.isEmpty := by
  unfold settings?
  by_cases isEmpty : baseUrl = "" <;> simp [isEmpty]

/-- The link that a router under a base address is asked for. -/
def askedLink (table : RouteTable Route) (name : String) (parameters : Parameters)
    (baseUrl : String) : Except Failure String :=
  table.link ((settings? baseUrl).getD .standard) name parameters (settings? baseUrl).isSome

theorem isSkippable_iff_of_askedLink {parameters : Parameters}
    (fails : askedLink table name parameters baseUrl = .error failure) :
    RouteTable.isSkippable failure = true ↔ failure ≠ .tooManyDigits := by
  refine RouteTable.isSkippable_iff_of_link ?_ fails
  rw [getD_settings?, isSome_settings?]
  intro isThere isEmpty
  rw [show baseUrl = "" from isEmpty] at isThere
  cases isThere

theorem perform_ask_link {handle : Handle Router} {made : Store}
    (answers : ∀ question : Router.Question, ((Session.ask handle question).perform made).1 =
      (question.answer table ((settings? baseUrl).getD .standard)).run.2)
    (name : String) (parameters : Parameters) :
    ((Session.ask handle (question name parameters baseUrl)).perform made).1 =
      (askedLink table name parameters baseUrl).map .link := by
  rw [answers, question, askedLink, Router.Question.answer, UrlGenerator.Question.answer]
  cases table.link ((settings? baseUrl).getD .standard) name parameters
    (settings? baseUrl).isSome <;> rfl

theorem withTable_of_unloaded (fails : (file.table executed).run.2 = .error failure)
    (next : RouteTable Route → Except Failure Outcome) :
    withTable file executed next = ofFailure [.configuration] failure := by
  rw [withTable, fails]

theorem withTable_of_loaded (isTable : (file.table executed).run.2 = .ok table)
    (next : RouteTable Route → Except Failure Outcome) :
    withTable file executed next = next table := by
  rw [withTable, isTable]

theorem ofLink_of_isRefused {front behind : List String} {item : String}
    (items_eq : items = front ++ item :: behind) (areRead : List.Forall₂ Assigns front pairs)
    (isRefused : IsRefused item) :
    ofLink file executed name items baseUrl = .ok (refusedItem item) := by
  rw [ofLink, readParameters_eq_error_iff.mpr ⟨front, behind, pairs, items_eq, areRead, isRefused⟩]

theorem ofLink_of_unloaded (areRead : List.Forall₂ Assigns items pairs)
    (fails : (file.table executed).run.2 = .error failure) :
    ofLink file executed name items baseUrl = ofFailure [.configuration] failure := by
  rw [ofLink, readParameters_eq_ok_iff.mpr areRead]
  exact withTable_of_unloaded fails _

theorem ofLink_of_loaded (areRead : List.Forall₂ Assigns items pairs)
    (isTable : (file.table executed).run.2 = .ok table) :
    ofLink file executed name items baseUrl =
      match askedLink table name (textParameters pairs) baseUrl with
      | .error failure => ofFailure [.http, .generation] failure
      | .ok url => .ok (printed [url]) := by
  rw [ofLink, readParameters_eq_ok_iff.mpr areRead, askedLink, getD_settings?, isSome_settings?]
  exact withTable_of_loaded isTable _

theorem printed_singleton (line : String) : printed [line] = ⟨0, line ++ "\n", ""⟩ := by
  simp [printed, String.join]

/-! ### The program and a router -/

theorem linking_ofLink (store : Store) :
    Linking store file executed name items baseUrl (ofLink file executed name items baseUrl) := by
  cases isRead : readParameters items with
  | error item =>
      obtain ⟨front, behind, pairs, items_eq, areRead, isRefused⟩ :=
        readParameters_eq_error_iff.mp isRead
      rw [ofLink_of_isRefused items_eq areRead isRefused]
      exact .refused items_eq areRead isRefused
  | ok pairs =>
      have areRead := readParameters_eq_ok_iff.mp isRead
      cases isTable : (file.table executed).run.2 with
      | error failure =>
          have fails : ((router file executed baseUrl).perform store).1 = .error failure :=
            Session.perform_loadRouter_eq_error_iff.mpr isTable
          rw [ofLink_of_unloaded areRead isTable, ofFailure]
          cases isTold : failure.kind.isA .configuration with
          | true =>
              rw [if_pos (by rw [List.any_cons, isTold, Bool.true_or])]
              exact .unloaded areRead fails isTold
          | false =>
              rw [if_neg (by simp [isTold])]
              exact .escaped areRead fails isTold
      | ok table =>
          obtain ⟨handle, made, isMade, answers⟩ :=
            (Session.loadRouter_answers file ((settings? baseUrl).getD .standard) executed
              store).2 table isTable
          have gathers := gathers_iff.mpr (rfl : textParameters pairs = _)
          have asked := perform_ask_link answers name (textParameters pairs)
          rw [ofLink_of_loaded areRead isTable]
          cases linked : askedLink table name (textParameters pairs) baseUrl with
          | error failure =>
              rw [linked] at asked
              dsimp only
              by_cases tooLong : failure = .tooManyDigits
              · subst tooLong
                exact .unwritten areRead gathers isMade asked
              · obtain ⟨isTold, -⟩ := RouteTable.kinds_of_isSkippable
                  ((isSkippable_iff_of_askedLink linked).mpr tooLong)
                rw [ofFailure, if_pos isTold]
                exact .unmade areRead gathers isMade asked (by simpa using isTold)
          | ok url =>
              rw [linked] at asked
              dsimp only
              rw [printed_singleton]
              exact .printed areRead gathers isMade asked

theorem ofLink_of_askedLink_error {parameters : Parameters} {handle : Handle Router} {made : Store}
    (areRead : List.Forall₂ Assigns items pairs) (gathers : Gathers pairs parameters)
    (isMade : (router file executed baseUrl).perform store = (.ok handle, made))
    (fails : ((Session.ask handle (question name parameters baseUrl)).perform made).1 =
      .error failure) :
    ofLink file executed name items baseUrl = ofFailure [.http, .generation] failure := by
  obtain ⟨table, isTable, answers⟩ := Session.exists_table_of_perform_loadRouter isMade
  rw [perform_ask_link answers, gathers_iff.mp gathers] at fails
  rw [ofLink_of_loaded areRead isTable]
  cases linked : askedLink table name (textParameters pairs) baseUrl with
  | ok url =>
      rw [linked] at fails
      cases fails
  | error other =>
      rw [linked] at fails
      cases fails
      rfl

theorem ofLink_of_linking {result : Except Failure Outcome}
    (linking : Linking store file executed name items baseUrl result) :
    ofLink file executed name items baseUrl = result := by
  cases linking with
  | refused items_eq areRead isRefused => exact ofLink_of_isRefused items_eq areRead isRefused
  | unloaded areRead fails isTold =>
      rw [ofLink_of_unloaded areRead (Session.perform_loadRouter_eq_error_iff.mp fails), ofFailure,
        if_pos (by simp [isTold])]
      rfl
  | escaped areRead fails isOther =>
      rw [ofLink_of_unloaded areRead (Session.perform_loadRouter_eq_error_iff.mp fails), ofFailure,
        if_neg (by simp [isOther])]
  | unmade areRead gathers isMade fails isTold =>
      rw [ofLink_of_askedLink_error areRead gathers isMade fails, ofFailure,
        if_pos (by simpa using isTold)]
      rfl
  | unwritten areRead gathers isMade fails =>
      exact ofLink_of_askedLink_error areRead gathers isMade fails
  | printed areRead gathers isMade links =>
      obtain ⟨table, isTable, answers⟩ := Session.exists_table_of_perform_loadRouter isMade
      rw [perform_ask_link answers, gathers_iff.mp gathers] at links
      rw [ofLink_of_loaded areRead isTable]
      cases linked : askedLink table name (textParameters _) baseUrl with
      | error failure =>
          rw [linked] at links
          cases links
      | ok url =>
          rw [linked] at links
          cases links
          exact congrArg Except.ok (printed_singleton _)

/-- Asked for a link, the program does one thing, which depends on the items, then on what a router
from the file is and answers.  An item that is none is told whatever the file; failures of the
configuration, of the name and of the parameters are told; the link of the router is printed, unless
a value has no text.  A router that has been made does not fail for its configuration. -/
theorem links_as_router (store : Store) (content : Option (List UInt8)) (executed : ModuleOutcome)
    (path name : String) (items : List String) (baseUrl : String) :
    (∀ result, ofRequest content (.link path (some name) items baseUrl) executed = result ↔
      Linking store ⟨path, content⟩ executed name items baseUrl result) ∧
    ¬ ∃ parameters handle made failure,
      (router ⟨path, content⟩ executed baseUrl).perform store = (.ok handle, made) ∧
      ((Session.ask handle (question name parameters baseUrl)).perform made).1 = .error failure ∧
      failure.kind.isA .configuration = true := by
  refine ⟨fun result => ⟨?_, ofLink_of_linking⟩, ?_⟩
  · rintro rfl
    exact linking_ofLink store
  · rintro ⟨parameters, handle, made, failure, isMade, fails, isConfiguration⟩
    obtain ⟨table, -, answers⟩ := Session.exists_table_of_perform_loadRouter isMade
    rw [perform_ask_link answers] at fails
    cases linked : askedLink table name parameters baseUrl with
    | ok url =>
        rw [linked] at fails
        cases fails
    | error other =>
        rw [linked] at fails
        cases fails
        by_cases tooLong : failure = .tooManyDigits
        · subst tooLong
          cases isConfiguration
        · obtain ⟨-, notConfiguration⟩ := RouteTable.kinds_of_isSkippable
            ((isSkippable_iff_of_askedLink linked).mpr tooLong)
          rw [isConfiguration] at notConfiguration
          cases notConfiguration

/-- What a module defines for a blog with a default that is too long to be written. -/
def blogModule : List (Value × Value) :=
  [(.text "blog", .map [(.text "path", .text "/blog/\x7bpage\x7d"),
    (.text "defaults", .map [(.text "page", .tooLong)]), (.text "requirements", .map []),
    (.text "methods", .list [])])]

/-- The link to a blog whose first page is too long to be written is neither told nor printed, for
the failure is passed on, although the routes are loaded and nothing is missing. -/
theorem blog_module_escapes :
    (∃ table, (RouteFile.table ⟨"routes.py", some []⟩ (.defined (.map blogModule))).run.2 =
      .ok table) ∧
    ofRequest (some []) (.link "routes.py" (some "blog") [] "") (.defined (.map blogModule)) =
      .error .tooManyDigits := by
  obtain ⟨route, path_eq, defaults_eq, requirements_eq, methods_eq, names_eq, -, -⟩ :=
    exists_blog_of_default .tooLong
  have isModule : (FilePath.ofText "routes.py").isModule = true := by cbv
  have nodup : (RouteTable.ofEntries [("blog", route)]).names.Nodup := List.nodup_singleton _
  have toValue_eq : (RouteTable.ofEntries [("blog", route)]).toValue = .map blogModule := by
    simp [RouteTable.toValue, Route.toValue, RouteTable.ofEntries, blogModule, path_eq,
      defaults_eq, requirements_eq, methods_eq, MethodSet.empty]
  obtain ⟨table, isDeclared, isIndexed, entries_eq⟩ :=
    RouteTable.exists_ofConfiguration_toValue nodup
  have isTable : (RouteFile.table ⟨"routes.py", some []⟩ (.defined (.map blogModule))).run.2 =
      .ok table := by
    rw [RouteFile.run_table, RouteFile.configuration]
    dsimp only
    rw [RouteFile.contentValue, isModule, if_pos rfl]
    exact toValue_eq ▸ isDeclared
  have registered : table.get "blog" = .ok route := by
    rw [isIndexed.get_eq_ok_iff, entries_eq]
    exact List.mem_singleton_self _
  have isVariable : "page" ∈ route.compiled.variableNames := by
    rw [names_eq]
    exact List.mem_singleton_self _
  have isPage : Generation.valueOf? route.defaults (textParameters []) "page" = some .tooLong := by
    rw [defaults_eq]
    rfl
  refine ⟨⟨table, isTable⟩, ?_⟩
  rw [ofRequest, ofLink_of_loaded .nil isTable, askedLink,
    RouteTable.link_of_hasText_eq_false registered isVariable isPage Value.hasText_tooLong]
  rfl

/-- The second item has no name, which is told although there is no file. -/
example : ofRequest none (.link "routes.json" (some "home") ["a=b=c", "=1"] "") =
    .ok ⟨2, "", "Error: --param expects KEY=VALUE, got '=1'\n"⟩ := by
  decide +kernel

end CommandLine.Outcome

end UrlRouting
