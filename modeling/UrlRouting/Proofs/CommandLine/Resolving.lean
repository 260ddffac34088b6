import UrlRouting.Proofs.CommandLine.Linking
import UrlRouting.Proofs.File.Failures
import UrlRouting.Proofs.Json.Output
import UrlRouting.Proofs.Json.Values
import UrlRouting.Proofs.Table.Configuration
import UrlRouting.Proofs.Text.Utf8

/-!
# Parameters from a command line

The program prints the parameters of a request as a JSON text.  Where the routes come from a JSON
file and have no default with a fraction, this text is read as the same parameters again
(`CommandLine.Outcome.resolution_reads_back`).
-/

namespace UrlRouting

/-! ### Values that are read back -/

namespace Value

/-- A value that JSON has a notation for, without a fraction. -/
structure IsExact (value : Value) : Prop where
  isJson : value.IsJson
  noFloat : ¬ value.HasFloat

theorem isExact_null : null.IsExact := ⟨.null, nofun⟩

theorem isExact_text (text : String) : (Value.text text).IsExact := ⟨.text text, nofun⟩

theorem isExact_int {n : Int} (isShort : Json.IsShort n) : (int n).IsExact := ⟨.int isShort, nofun⟩

theorem isExact_list {items : List Value} (areExact : ∀ item ∈ items, item.IsExact) :
    (list items).IsExact := by
  refine ⟨.list fun item isItem => (areExact item isItem).isJson, ?_⟩
  intro hasFloat
  cases hasFloat with
  | list isItem hasFloat => exact (areExact _ isItem).noFloat hasFloat

theorem isExact_ofNamed {pairs : Entries String Value} (nodup : pairs.names.Nodup)
    (areExact : ∀ pair ∈ pairs, pair.2.IsExact) : (map (Attributes.ofNamed pairs)).IsExact := by
  refine ⟨.map nodup fun pair isPair => (areExact pair isPair).isJson, ?_⟩
  intro hasFloat
  cases hasFloat with
  | key isEntry hasFloat =>
      obtain ⟨pair, -, rfl⟩ := List.mem_map.mp isEntry
      cases hasFloat
  | value isEntry hasFloat =>
      obtain ⟨pair, isPair, rfl⟩ := List.mem_map.mp isEntry
      exact (areExact pair isPair).noFloat hasFloat

theorem IsExact.exists_ofNamed {entries : Attributes} (isExact : (map entries).IsExact) :
    ∃ pairs : Entries String Value, entries = Attributes.ofNamed pairs ∧ pairs.names.Nodup ∧
      ∀ pair ∈ pairs, pair.2.IsExact := by
  obtain ⟨isJson, noFloat⟩ := isExact
  obtain ⟨pairs, rfl, nodup, areJson⟩ := isJson.exists_ofNamed
  exact ⟨pairs, rfl, nodup, fun pair isPair => ⟨areJson pair isPair, fun hasFloat =>
    noFloat (.value (List.mem_map_of_mem isPair) hasFloat)⟩⟩

theorem IsExact.putName {entries : Attributes} (isExact : (map entries).IsExact) {value : Value}
    (isValue : value.IsExact) (name : String) : (map (entries.putName name value)).IsExact := by
  obtain ⟨pairs, rfl, nodup, areExact⟩ := isExact.exists_ofNamed
  rw [Attributes.putName_ofNamed]
  exact isExact_ofNamed (Entries.nodup_names_merge nodup [(name, value)])
    (Entries.forall_mem_put IsExact areExact isValue name)

theorem IsExact.parameters {defaults : Attributes} (isExact : (map defaults).IsExact)
    (captured : List (String × Option String)) :
    (map (Route.parameters defaults captured none)).IsExact := by
  induction captured generalizing defaults with
  | nil => exact isExact
  | cons first rest inductionHypothesis =>
      rcases first with ⟨name, text?⟩
      rw [Route.parameters_cons]
      cases text? with
      | none => exact inductionHypothesis isExact
      | some text => exact inductionHypothesis (isExact.putName (isExact_text text) name)

end Value

namespace Attributes

theorem isJson_of_named? {entries : Attributes} (isJson : (Value.map entries).IsJson)
    {name : String} {value : Value} (isThere : entries.named? name = some value) :
    value.IsJson := by
  obtain ⟨pairs, rfl, -, areJson⟩ := isJson.exists_ofNamed
  obtain ⟨entry, isEntry, rfl⟩ := Option.map_eq_some_iff.mp isThere
  obtain ⟨pair, isPair, rfl⟩ := List.mem_map.mp (List.mem_of_find?_eq_some isEntry)
  exact areJson pair isPair

end Attributes

/-! ### Routes from JSON files -/

namespace Declaration

theorem isJson_of_builds {entry : Value} (isJson : entry.IsJson) {route : Route}
    (builds : Builds entry route) : (Value.map route.defaults).IsJson := by
  obtain ⟨fields, declaration, rfl, declares, isBuilt⟩ := builds
  obtain ⟨-, defaults_eq, -⟩ := build_eq_ok_iff.mp isBuilt
  rw [defaults_eq]
  rcases declares.defaults with ⟨-, isEmpty⟩ | isThere
  · rw [isEmpty]
    exact Value.isJson_emptyMap
  · exact Attributes.isJson_of_named? isJson isThere

end Declaration

namespace RouteFile

variable {file : RouteFile}

theorem isJson_configuration (isFormat : (FilePath.ofText file.path).format? = some .json)
    {entries : Attributes} (isRead : file.configuration = .ok entries) :
    (Value.map entries).IsJson := by
  unfold configuration at isRead
  split at isRead
  · cases isRead
  · next bytes _ =>
      rw [contentValue_of_format? isFormat] at isRead
      split at isRead
      · cases isRead
      · next others isValue =>
          cases isRead
          unfold value at isValue
          split at isValue
          · cases isValue
          · next text _ =>
              change (Json.read (Text.normalizeLineEnds text.toList)).mapError file.failure = _
                at isValue
              cases answer : Json.read (Text.normalizeLineEnds text.toList) with
              | error fault =>
                  rw [answer] at isValue
                  cases isValue
              | ok value =>
                  rw [answer] at isValue
                  cases isValue
                  exact Json.isJson_of_read answer
      · cases isRead

/-- The defaults of routes from a JSON file have a notation in JSON. -/
theorem isJson_defaults (isFormat : (FilePath.ofText file.path).format? = some .json)
    {table : RouteTable Route} (isTable : file.table.run.2 = .ok table) :
    ∀ entry ∈ table.entries, (Value.map entry.2.defaults).IsJson := by
  obtain ⟨pairs, isRead, -, declared⟩ := exists_of_run_table isTable
  obtain ⟨_, same, areDeclared, -⟩ := Entries.ofConfiguration_eq_ok_iff.mp declared
  obtain rfl := Value.map.inj same
  obtain ⟨named, rfl, -, areJson⟩ := (isJson_configuration isFormat isRead).exists_ofNamed
  have areJson : ∀ pair ∈ Attributes.ofNamed named, pair.2.IsJson :=
    List.forall_mem_map.mpr areJson
  obtain ⟨-, -, builds⟩ := areDeclared
  intro entry isEntry
  obtain ⟨index, isIndex, rfl⟩ := List.getElem_of_mem isEntry
  obtain ⟨length_eq, builds⟩ := List.forall₂_iff_get.mp builds
  have isBuilt := builds index (length_eq ▸ isIndex) isIndex
  exact Declaration.isJson_of_builds (areJson _ (List.get_mem ..)) isBuilt

/-- A file from which a table is read that is written as a configuration has the entries of it. -/
theorem exists_run_table_of_configuration {original : RouteTable Route}
    (nodup : original.names.Nodup) {entries : Attributes}
    (toValue_eq : original.toValue = .map entries) (isRead : file.configuration = .ok entries) :
    ∃ table, file.table.run.2 = .ok table ∧ table.entries = original.entries := by
  obtain ⟨table, isTable, -, entries_eq⟩ := RouteTable.exists_ofConfiguration_toValue nodup
  refine ⟨table, ?_, entries_eq⟩
  rw [file.run_table, isRead, Except.bind, ← toValue_eq, isTable]

end RouteFile

/-! ### Parameters of a match -/

namespace RouteTable

variable {table : RouteTable Route} {path method : String} {parameters : Attributes}

/-- Parameters have only texts besides the defaults of their route. -/
theorem isExact_of_resolveParameters
    (areExact : ∀ entry ∈ table.entries, (Value.map entry.2.defaults).IsExact)
    (resolves : (table.resolveParameters path method).run.2 = .ok parameters) :
    (Value.map parameters).IsExact := by
  obtain ⟨name, captured, first, rfl⟩ := run_eq_ok_iff.mp resolves
  obtain ⟨front, route, rest, entries_eq, -, takes⟩ := first
  have isRoute : (name, route) ∈ table.entries := by
    rw [entries_eq]
    exact List.mem_append_right _ List.mem_cons_self
  have isExact := areExact _ isRoute
  unfold Route.takes at takes
  split at takes
  · cases takes
  · next groups _ =>
      split at takes <;> cases takes
      exact (isExact.parameters groups).putName (Value.isExact_text name) _

end RouteTable

theorem Router.Question.run_answer_parameters_eq_ok_iff {table : RouteTable Route}
    {config : Config} {path method : String} {parameters : Attributes} :
    (answer table config (.matching (.parameters path method))).run.2 =
        .ok (.parameters parameters) ↔
      (table.resolveParameters path method).run.2 = .ok parameters := by
  rw [answer, UrlMatcher.Question.answer]
  unfold Reported.run
  rw [ExceptT.run_map, StateT.run_map]
  generalize StateT.run (ExceptT.run (table.resolveParameters path method)) [] = result
  rcases result with ⟨failure | found, events⟩
  · constructor <;> intro same <;> cases same
  · constructor <;> intro same <;> cases same <;> rfl

/-! ### Texts in files -/

theorem Text.normalizeLineEnds_eq_self {chars : List Char} (noReturn : '\r' ∉ chars) :
    normalizeLineEnds chars = chars := by
  fun_induction normalizeLineEnds chars with
  | case1 => rfl
  | case2 rest _ => simp at noReturn
  | case3 char rest _ inductionHypothesis =>
      obtain ⟨isOther, noReturnRest⟩ : '\r' ≠ char ∧ '\r' ∉ rest := by simpa using noReturn
      rw [inductionHypothesis noReturnRest, if_neg (by simpa using isOther.symm)]

/-- A file with a line in which a map is written has this map in it. -/
theorem RouteFile.configuration_of_written {entries : Attributes}
    (isExact : (Value.map entries).IsExact) {output : String}
    (toList_eq : output.toList = Json.write 0 (.map entries) ++ ['\n']) {path : String}
    (isFormat : (FilePath.ofText path).format? = some .json) :
    configuration ⟨path, some (Text.encodeUtf8 output)⟩ = .ok entries := by
  obtain ⟨isJson, noFloat⟩ := isExact
  have noReturn : '\r' ∉ output.toList := by
    rw [toList_eq]
    intro isReturn
    rcases List.mem_append.mp isReturn with isReturn | isReturn
    · have isPlain := Json.isPlain_write isJson noFloat 0 '\r' isReturn
      revert isPlain
      decide
    · revert isReturn
      decide
  let file : RouteFile := ⟨path, some (Text.encodeUtf8 output)⟩
  have isValue : file.value .json (Text.encodeUtf8 output) = .ok (.map entries) := by
    rw [value, Text.decodeUtf8_eq_ok_iff.mpr rfl]
    dsimp only [FileFormat.read]
    rw [Text.normalizeLineEnds_eq_self noReturn, toList_eq, Json.read_write isJson noFloat]
    rfl
  have isContent : file.contentValue .notImported (Text.encodeUtf8 output) = .ok (.map entries) :=
    (@contentValue_of_format? file .json isFormat .notImported _).trans isValue
  rw [configuration]
  dsimp only
  rw [isContent]

namespace Json

/-! ### Maps that are printed -/

theorem obstacleIn?_eq_none {items : List Value}
    (noneStands : ∀ item ∈ items, obstacle? item = none) : obstacleIn? items = none := by
  induction items with
  | nil => rfl
  | cons item rest inductionHypothesis =>
      obtain ⟨isFree, areFreeRest⟩ := List.forall_mem_cons.mp noneStands
      rw [obstacleIn?, isFree, inductionHypothesis areFreeRest]
      rfl

theorem obstacleAmong?_ofNamed {pairs : Entries String Value}
    (noneStands : ∀ pair ∈ pairs, obstacle? pair.2 = none) :
    obstacleAmong? (Attributes.ofNamed pairs) = none := by
  induction pairs with
  | nil => rfl
  | cons pair rest inductionHypothesis =>
      obtain ⟨isFree, areFreeRest⟩ := List.forall_mem_cons.mp noneStands
      have isName : keyObstacle? (.text pair.1) = none := rfl
      rw [Attributes.ofNamed, List.map_cons, obstacleAmong?, isName, isFree]
      exact inductionHypothesis areFreeRest

theorem obstacle?_eq_none {value : Value} (isJson : value.IsJson) : obstacle? value = none := by
  induction isJson with
  | int isShort =>
      have hasText : (Value.int _).hasText = true := decide_eq_true_iff.mpr isShort
      rw [obstacle?, hasText, if_pos rfl]
  | list areJson noneStands =>
      rw [obstacle?]
      exact obstacleIn?_eq_none noneStands
  | map nodup areJson noneStands =>
      rw [obstacle?]
      exact obstacleAmong?_ofNamed noneStands
  | _ => rfl

end Json

namespace CommandLine.Outcome

theorem ofParameters_of_isJson {parameters : Attributes} (isJson : (Value.map parameters).IsJson) :
    ofParameters parameters =
      .ok ⟨0, String.ofList (Json.write 0 (.map parameters) ++ ['\n']), ""⟩ := by
  rw [ofParameters, Json.obstacle?_eq_none isJson]
  dsimp only
  rw [printed_singleton, String.ofList_append]

theorem ofResolution_of_resolves {file : RouteFile} {table : RouteTable Route}
    (isTable : file.table.run.2 = .ok table) {path method : String} {parameters : Attributes}
    (resolves : (table.resolveParameters path method).run.2 = .ok parameters) :
    ofResolution file .notImported path method = ofParameters parameters := by
  rw [ofResolution, withTable_of_loaded isTable, resolves]

/-- Let a router be made from a JSON file with no default that has a fraction.  If the router finds
parameters for a request, the program prints a text for it that is read as these parameters, keys in
the same order, also from any JSON file that it is put into. -/
theorem resolution_reads_back {filePath path method : String} {content : Option (List UInt8)}
    {table : RouteTable Route} {store made : Store} {router : Handle Router}
    {parameters : Attributes} (isFormat : (FilePath.ofText filePath).format? = some .json)
    (isTable : (RouteFile.table ⟨filePath, content⟩).run.2 = .ok table)
    (noFloat : ∀ entry ∈ table.entries, ¬ (Value.map entry.2.defaults).HasFloat)
    (isMade : (Session.loadRouter ⟨filePath, content⟩ .standard).perform store = (.ok router, made))
    (isAnswer : ((Session.ask router (.matching (.parameters path method))).perform made).1 =
      .ok (.parameters parameters)) :
    ∃ output, ofRequest content (.resolve filePath (some path) method) = .ok ⟨0, output, ""⟩ ∧
      Json.read output.toList = .ok (.map parameters) ∧
      ∀ otherPath, (FilePath.ofText otherPath).format? = some .json →
        RouteFile.configuration ⟨otherPath, some (Text.encodeUtf8 output)⟩ = .ok parameters := by
  have resolves : (table.resolveParameters path method).run.2 = .ok parameters := by
    obtain ⟨other, isOther, answers⟩ := Session.exists_table_of_perform_loadRouter isMade
    rw [isTable] at isOther
    cases isOther
    rw [answers] at isAnswer
    exact Router.Question.run_answer_parameters_eq_ok_iff.mp isAnswer
  have areExact : ∀ entry ∈ table.entries, (Value.map entry.2.defaults).IsExact :=
    fun entry isEntry =>
      ⟨@RouteFile.isJson_defaults ⟨filePath, content⟩ isFormat _ isTable entry isEntry,
        noFloat entry isEntry⟩
  have isExact := RouteTable.isExact_of_resolveParameters areExact resolves
  obtain ⟨output, output_eq⟩ : ∃ output : String,
      output = String.ofList (Json.write 0 (.map parameters) ++ ['\n']) := ⟨_, rfl⟩
  have toList_eq : output.toList = Json.write 0 (.map parameters) ++ ['\n'] := by
    rw [output_eq, String.toList_ofList]
  refine ⟨output, ?_, ?_, fun _ => RouteFile.configuration_of_written isExact toList_eq⟩
  · rw [ofRequest, ofResolution_of_resolves isTable resolves, output_eq]
    exact ofParameters_of_isJson isExact.isJson
  · rw [toList_eq]
    exact Json.read_write isExact.isJson isExact.noFloat

def blogDefaults : Attributes := .ofNamed [("page", .int 1), ("tags", .list [.text "né\n", .null])]

theorem isExact_blogDefaults : (Value.map blogDefaults).IsExact := by
  have isShort : Json.IsShort 1 := by
    rw [Json.IsShort]
    decide
  have tagsExact : (Value.list [.text "né\n", .null]).IsExact :=
    Value.isExact_list (by simp [Value.isExact_text, Value.isExact_null])
  exact Value.isExact_ofNamed (by decide) (by simp [Value.isExact_int isShort, tagsExact])

/-- The pages of a blog.  Its tags are a default, one of them a text that is not plain. -/
def blogFields : Attributes :=
  .ofNamed [("path", .text "/blog/\x7bpage\x7d"), ("defaults", .map blogDefaults),
    ("requirements", .map (Attributes.ofNamed [("page", .text "[0-9]+")])), ("methods", .list [])]

def blogFile : String :=
  String.ofList (Json.write 0 (.map (Attributes.ofNamed [("blog", .map blogFields)])) ++ ['\n'])

theorem isExact_blogFields :
    (Value.map (Attributes.ofNamed [("blog", .map blogFields)])).IsExact := by
  have requirementsExact : (Value.map (Attributes.ofNamed [("page", .text "[0-9]+")])).IsExact :=
    Value.isExact_ofNamed (by decide) (by simp [Value.isExact_text])
  have methodsExact : (Value.list []).IsExact := Value.isExact_list (by simp)
  have fieldsExact : (Value.map blogFields).IsExact :=
    Value.isExact_ofNamed (by decide)
      (by simp [Value.isExact_text, isExact_blogDefaults, requirementsExact, methodsExact])
  exact Value.isExact_ofNamed (by decide) (by simp [fieldsExact])

/-- The page comes from the path, the tags are the default. -/
theorem blog_resolution : ∃ output,
    ofRequest (some (Text.encodeUtf8 blogFile)) (.resolve "routes.json" (some "/blog/7") "GET") =
      .ok ⟨0, output, ""⟩ ∧
    Json.read output.toList = .ok (.map [(.text "page", .text "7"),
      (.text "tags", .list [.text "né\n", .null]), (.text "_route", .text "blog")]) := by
  obtain ⟨compiled, compile_eq, found⟩ : ∃ compiled,
      CompiledTemplate.compile "/blog/\x7bpage\x7d" blogDefaults [(.text "page", "[0-9]+")] =
        .ok compiled ∧
      compiled.expression.fullMatch? "/blog/7" = some [("page", some "7")] := ⟨_, by cbv, by cbv⟩
  let route : Route := ⟨_, _, _, .empty, compiled, compile_eq, ⟨[], rfl⟩⟩
  have isFormat : (FilePath.ofText "routes.json").format? = some .json := by cbv
  obtain ⟨table, isTable, entries_eq⟩ : ∃ table : RouteTable Route,
      (RouteFile.table ⟨"routes.json", some (Text.encodeUtf8 blogFile)⟩).run.2 = .ok table ∧
        table.entries = [("blog", route)] :=
    @RouteFile.exists_run_table_of_configuration _ (.ofEntries [("blog", route)])
      (by simp [RouteTable.names, RouteTable.ofEntries]) _ rfl
      (RouteFile.configuration_of_written isExact_blogFields String.toList_ofList isFormat)
  obtain ⟨router, made, isMade, answers⟩ :=
    (Session.loadRouter_answers _ .standard _ .empty).2 table isTable
  have isTaken : route.takes "/blog/7" "GET" none =
      .ok [(.text "page", .text "7"), (.text "tags", .list [.text "né\n", .null])] := by
    rw [Route.takes, show route.compiled.expression.fullMatch? _ = _ from found]
    rfl
  have noneBefore : RouteTable.TakenByNone [] "/blog/7" "GET" :=
    fun _ isEntry => absurd isEntry List.not_mem_nil
  have resolves := RouteTable.run_of_takenFirst ⟨[], route, [], entries_eq, noneBefore, isTaken⟩
  obtain ⟨output, prints, readsBack, -⟩ := resolution_reads_back isFormat isTable
    (by simpa [entries_eq] using isExact_blogDefaults.noFloat) isMade
    ((answers _).trans (Router.Question.run_answer_parameters_eq_ok_iff.mpr resolves))
  exact ⟨output, prints, readsBack⟩

end CommandLine.Outcome

end UrlRouting
