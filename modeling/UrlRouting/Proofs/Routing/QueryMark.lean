import UrlRouting.Proofs.Routing.QueryText

/-!
# The mark in front of a query

The mark depends on the parameters that are left for the query, what stands behind it on the pairs
that they tell.  A parameter with an empty list for its value is left and tells none, so that there
are three endings of a link and not two (`RouteTable.link_ending`).
-/

namespace UrlRouting

namespace Query

/-- The values that tell no pair are those that run through nothing. -/
theorem told_eq_nil_iff {value : Value} :
    told value = [] ↔ value = .list [] ∨ value = .tuple [] ∨ value = .map [] := by
  cases value <;> simp [told]

theorem toldPairs_eq_nil_iff {parameters : Parameters} :
    toldPairs parameters = [] ↔ ∀ entry ∈ parameters,
      entry.2 = .list [] ∨ entry.2 = .tuple [] ∨ entry.2 = .map [] := by
  rw [toldPairs, List.flatMap_eq_nil_iff]
  apply forall₂_congr
  rintro ⟨name, value⟩ _
  rw [List.map_eq_nil_iff, told_eq_nil_iff]

theorem encodePairs_eq_nil_iff {pairs : List (List UInt8 × List UInt8)} :
    encodePairs pairs = [] ↔ pairs = [] := by
  constructor
  · intro isEmpty
    have isRead := read?_encodePairs pairs
    rw [isEmpty] at isRead
    exact (Option.some.inj isRead).symm
  · rintro rfl
    rfl

theorem encode_eq_empty_iff {parameters : Parameters} :
    encode parameters = "" ↔ toldPairs parameters = [] := by
  rw [encode, ← String.ofList_nil, String.ofList_inj, encodePairs_eq_nil_iff, pairs_eq_toldPairs]

end Query

namespace Generation

open Query

theorem ne_append_mark (path query : String) : path ≠ path ++ "?" ++ query := by
  intro isSame
  have lengths := congrArg String.length isSame
  rw [String.length_append, String.length_append] at lengths
  have isLong : "?".length = 1 := rfl
  omega

theorem withQuery_eq_self_iff {path : String} {others : Parameters} :
    withQuery path others = path ↔ others = [] := by
  cases others with
  | nil => exact iff_of_true rfl rfl
  | cons first rest => exact iff_of_false (ne_append_mark path _).symm (List.cons_ne_nil _ _)

theorem withQuery_eq_mark_iff {path query : String} {others : Parameters} :
    withQuery path others = path ++ "?" ++ query ↔ others ≠ [] ∧ encode others = query := by
  cases others with
  | nil => exact iff_of_false (ne_append_mark path query) fun isLeft => isLeft.1 rfl
  | cons first rest =>
      rw [and_iff_right (List.cons_ne_nil _ _)]
      exact String.append_right_inj _

end Generation

namespace RouteTable

open Generation Query

/-- A link is made from the path parameters alone, and it ends there exactly if no parameter is left
for a query.  If some are left, a mark stands behind it.  Nothing follows the mark exactly if all of
them run through nothing; otherwise the query is not empty. -/
theorem link_ending {table : RouteTable Route} {config : Config} {name : String}
    {parameters : Parameters} (nodup : (Entries.names parameters).Nodup) {absolute : Bool}
    {url : String} (made : table.link config name parameters absolute = .ok url) :
    ∃ path, table.link config name (table.pathParameters name parameters) absolute = .ok path ∧
      (url = path ↔ table.queryParameters config name parameters = []) ∧
      (url = path ++ "?" ↔ table.queryParameters config name parameters ≠ [] ∧
        ∀ entry ∈ table.queryParameters config name parameters,
          entry.2 = .list [] ∨ entry.2 = .tuple [] ∨ entry.2 = .map []) ∧
      ((∃ query, query ≠ "" ∧ url = path ++ "?" ++ query) ↔
        toldPairs (table.queryParameters config name parameters) ≠ []) := by
  obtain ⟨path, linked, rfl⟩ := exists_path_of_link nodup made
  generalize table.queryParameters config name parameters = others
  refine ⟨path, linked, withQuery_eq_self_iff, ?_, ?_⟩
  · rw [← toldPairs_eq_nil_iff, ← encode_eq_empty_iff, ← withQuery_eq_mark_iff,
      String.append_empty]
  · constructor
    · rintro ⟨query, isSome, url_eq⟩ tellsNothing
      obtain ⟨-, isQuery⟩ := withQuery_eq_mark_iff.mp url_eq
      exact isSome (isQuery.symm.trans (encode_eq_empty_iff.mpr tellsNothing))
    · intro tells
      have isLeft : others ≠ [] := by
        rintro rfl
        exact tells rfl
      exact ⟨encode others, mt encode_eq_empty_iff.mp tells,
        withQuery_eq_mark_iff.mpr ⟨isLeft, rfl⟩⟩

/-- A page of a blog, asked for with a list of tags that is empty and a tuple of years that is
not. -/
theorem blog_ending : ∃ (table : RouteTable Route) (parameters : Parameters),
    parameters = [("page", .int 7), ("tag", .list []), ("year", .tuple [.int 2024])] ∧
      (Entries.names parameters).Nodup ∧
      table.link .standard "blog" parameters false = .ok "/blog/7?year=2024" ∧
      table.link .standard "blog" [("page", .int 7)] false = .ok "/blog/7" ∧
      (∃ query, query ≠ "" ∧ "/blog/7?year=2024" = "/blog/7" ++ "?" ++ query) := by
  obtain ⟨table, names_eq, linked⟩ := exists_blog_variableNames
  have nodup : (Entries.names [("page", Value.int 7), ("tag", .list []),
      ("year", .tuple [.int 2024])]).Nodup := by decide
  have made := link_eq_map nodup table .standard "blog"
    (by rw [queryParameters, names_eq]; decide) false
  rw [pathParameters, queryParameters, names_eq] at made
  change _ = (table.link .standard "blog" [("page", .int 7)] false).map _ at made
  have url_eq : withQuery "/blog/7" [("tag", .list []), ("year", .tuple [.int 2024])] =
      "/blog/7?year=2024" := by decide +kernel
  rw [linked] at made
  replace made := made.trans (congrArg Except.ok url_eq)
  obtain ⟨path, path_eq, -, -, hasQuery⟩ := link_ending nodup made
  rw [pathParameters, names_eq] at path_eq
  obtain rfl : "/blog/7" = path := Except.ok.inj (linked.symm.trans path_eq)
  refine ⟨table, _, rfl, nodup, made, linked, hasQuery.mpr ?_⟩
  rw [queryParameters, names_eq]
  decide +kernel

/-- With an empty list of tags and nothing else, the link to a page of a blog ends with a mark,
although no pair is told. -/
theorem blog_ends_with_mark : ∃ (table : RouteTable Route) (parameters : Parameters),
    parameters = [("page", .int 7), ("tag", .list [])] ∧
      table.link .standard "blog" (table.pathParameters "blog" parameters) false = .ok "/blog/7" ∧
      toldPairs (table.queryParameters .standard "blog" parameters) = [] ∧
      table.link .standard "blog" parameters false = .ok "/blog/7?" := by
  obtain ⟨table, names_eq, linked⟩ := exists_blog_variableNames
  have nodup : (Entries.names [("page", Value.int 7), ("tag", .list [])]).Nodup := by decide
  have linkedAlone : table.link .standard "blog"
      (table.pathParameters "blog" [("page", .int 7), ("tag", .list [])]) false =
        .ok "/blog/7" := by
    rw [pathParameters, names_eq]
    exact linked
  refine ⟨table, _, rfl, linkedAlone, ?_, ?_⟩
  · rw [queryParameters, names_eq]
    rfl
  · rw [link_eq_map nodup _ _ _ (by rw [queryParameters, names_eq]; decide), linkedAlone,
      queryParameters, names_eq]
    decide +kernel

end RouteTable

end UrlRouting
