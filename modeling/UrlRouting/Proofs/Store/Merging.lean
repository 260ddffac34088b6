import UrlRouting.Proofs.Store.Listings
import UrlRouting.Proofs.Table.Union

/-!
# Tables put together in a store

A table takes over the entries of another one, which can be the table itself, and nothing else
changes; where names that are taken are refused, the first of them is told and nothing changes at
all (`Store.merges_tables`).
-/

namespace UrlRouting

theorem Store.isIndexed_table_after (calls : List Call) (handle : Handle SharedTable) :
    ((Store.empty.after calls).table handle).IsIndexed :=
  (Listings.Describes.empty.after calls).2.isIndexed_table handle

namespace Store

theorem table_set_self {tables : Arena SharedTable} {handle : Handle SharedTable}
    (isThere : (tables.get? handle).isSome) (store : Store) (table : SharedTable) :
    { store with tables := tables.set handle table }.table handle = table := by
  obtain ⟨old, found⟩ := Option.isSome_iff_exists.mp isThere
  rw [Store.table, Arena.get?_set_self found, Option.getD_some]

theorem table_set_of_ne (store : Store) {handle other : Handle SharedTable}
    (different : handle ≠ other) (table : SharedTable) :
    { store with tables := store.tables.set handle table }.table other = store.table other := by
  rw [Store.table, Arena.get?_set_of_ne store.tables different, Store.table]

theorem isSome_get?_set {tables : Arena SharedTable} {handle : Handle SharedTable}
    (isThere : (tables.get? handle).isSome) (other : Handle SharedTable) (table : SharedTable) :
    ((tables.set other table).get? handle).isSome := by
  by_cases isOther : other = handle
  · obtain ⟨old, found⟩ := Option.isSome_iff_exists.mp isThere
    rw [isOther, Arena.get?_set_self found, Option.isSome_some]
  · rwa [Arena.get?_set_of_ne tables isOther]

end Store

namespace Session

theorem perform_mergeTable_of_merge {table other : Handle SharedTable} {overriding : Bool}
    {store : Store} {union : SharedTable}
    (merged : (store.table table).merge (store.table other) overriding = .ok union) :
    (mergeTable table other overriding).perform store =
      (.ok (), { store with tables := store.tables.set table union }) := by
  rw [perform_mergeTable, merged]

/-- Two tables that are put into a table one after the other come to what they come to if they are
put together first. -/
theorem exists_perform_mergeTable_assoc {store : Store} {table other third : Handle SharedTable}
    (isIndexed : ∀ handle, (store.table handle).IsIndexed)
    (isThere : (store.tables.get? table).isSome) (otherIsThere : (store.tables.get? other).isSome)
    (different : table ≠ third) :
    ∃ left right,
      (mergeTable table other true >>= fun _ => mergeTable table third true).perform store =
        (.ok (), left) ∧
      (mergeTable other third true >>= fun _ => mergeTable table other true).perform store =
        (.ok (), right) ∧
      (left.table table).entries = (right.table table).entries := by
  obtain ⟨front, isFront, frontIndexed, front_eq⟩ :=
    (isIndexed table).exists_merge (store.table other)
  obtain ⟨left, isLeft, -, left_eq⟩ := frontIndexed.exists_merge (store.table third)
  obtain ⟨behind, isBehind, behindIndexed, behind_eq⟩ :=
    (isIndexed other).exists_merge (store.table third)
  -- If the table is put into itself, it has the third one's entries already.
  obtain ⟨own, own_eq, ownIndexed, entries_eq⟩ : ∃ own : SharedTable,
      { store with tables := store.tables.set other behind }.table table = own ∧ own.IsIndexed ∧
      Entries.merge own.entries behind.entries = left.entries := by
    rw [left_eq, front_eq, behind_eq]
    by_cases isSame : table = other
    · subst isSame
      refine ⟨behind, Store.table_set_self isThere store behind, behindIndexed, ?_⟩
      rw [← behind_eq, Entries.merge_self behindIndexed.nodup,
        Entries.merge_self (isIndexed table).nodup, behind_eq]
    · refine ⟨_, Store.table_set_of_ne store (Ne.symm isSame) behind, isIndexed table, ?_⟩
      exact (Entries.merge_assoc (isIndexed table).nodup (isIndexed other).nodup
        (isIndexed third).nodup).symm
  obtain ⟨right, isRight, -, right_eq⟩ := ownIndexed.exists_merge behind
  refine ⟨{ store with tables := (store.tables.set table front).set table left },
    { store with tables := (store.tables.set other behind).set table right }, ?_, ?_, ?_⟩
  · rw [perform_bind, perform_mergeTable_of_merge isFront]
    apply perform_mergeTable_of_merge
    rw [Store.table_set_self isThere, Store.table_set_of_ne store different]
    exact isLeft
  · rw [perform_bind, perform_mergeTable_of_merge isBehind]
    apply perform_mergeTable_of_merge
    rw [own_eq, Store.table_set_self otherIsThere]
    exact isRight
  · rw [Store.table_set_self (Store.isSome_get?_set isThere table front),
      Store.table_set_self (Store.isSome_get?_set isThere other behind), right_eq, entries_eq]

end Session

/-- Of two tables after any calls, one takes over the entries of the other: its names stay in their
order, the other ones follow in theirs, each name of the other table is for what it is for there,
and nothing else in the store changes.  Unless names are overridden, this is so only if none of them
is taken; if some are, the first of them is told and the store stays as it was.  Of three tables it
does not matter which two are put together first, as values and, if the third one is not the first
that is changed meanwhile, also in place. -/
theorem Store.merges_tables (calls : List Call) (table other : Handle SharedTable)
    (isThere : ((Store.empty.after calls).tables.get? table).isSome)
    (otherIsThere : ((Store.empty.after calls).tables.get? other).isSome) :
    let store := Store.empty.after calls
    (∃ left, (Session.mergeTable table other true).perform store = (.ok (), left) ∧
      (store.table table).IsUnion (store.table other) (left.table table) ∧
      left = { store with tables := store.tables.set table (left.table table) }) ∧
    (Session.mergeTable table other false).perform store =
      (match (store.table other).names.find? fun name => name ∈ (store.table table).names with
      | some name => (.error (.mergedNameTaken name), store)
      | none => (Session.mergeTable table other true).perform store) ∧
    (∀ third, ∃ front behind left right,
      (store.table table).merge (store.table other) true = .ok front ∧
      front.merge (store.table third) true = .ok left ∧
      (store.table other).merge (store.table third) true = .ok behind ∧
      (store.table table).merge behind true = .ok right ∧ left.entries = right.entries) ∧
    ∀ third, table ≠ third → ∃ left right,
      (Session.mergeTable table other true >>= fun _ =>
        Session.mergeTable table third true).perform store = (.ok (), left) ∧
      (Session.mergeTable other third true >>= fun _ =>
        Session.mergeTable table other true).perform store = (.ok (), right) ∧
      (left.table table).entries = (right.table table).entries := by
  intro store
  have isIndexed := Store.isIndexed_table_after calls
  refine ⟨?_, ?_, ?_, ?_⟩
  · obtain ⟨union, merged, -⟩ := (isIndexed table).exists_merge (store.table other)
    have left_eq := Store.table_set_self isThere store union
    refine ⟨_, Session.perform_mergeTable_of_merge merged, ?_, ?_⟩
    · rw [left_eq]
      exact (isIndexed table).isUnion_of_merge (isIndexed other) merged
    · rw [left_eq]
  · rw [Session.perform_mergeTable, (isIndexed table).merge_false]
    cases (store.table other).names.find? fun name => name ∈ (store.table table).names with
    | some name => rfl
    | none => rw [Session.perform_mergeTable]
  · intro third
    exact (isIndexed table).exists_merge_assoc (isIndexed other) (isIndexed third)
  · intro third different
    exact Session.exists_perform_mergeTable_assoc isIndexed isThere otherIsThere different

/-- The pages of a site, and those of its news, which have a page about themselves. -/
theorem Store.exists_site : ∃ calls : List Call,
    ((Store.empty.after calls).tables.get? ⟨0⟩).isSome ∧
      ((Store.empty.after calls).tables.get? ⟨1⟩).isSome ∧
      ((Store.empty.after calls).table ⟨0⟩).names = ["home", "about"] ∧
      ((Store.empty.after calls).table ⟨1⟩).names = ["news", "about"] ∧
      ((Store.empty.after calls).table ⟨0⟩).get "home" = .ok ⟨0⟩ ∧
      ((Store.empty.after calls).table ⟨1⟩).get "about" = .ok ⟨2⟩ :=
  ⟨[.make "/" [] [] .null, .make "/about" [] [] .null, .make "/news/about" [] [] .null,
    .make "/news" [] [] .null, .create, .create, .add ⟨0⟩ "home" ⟨0⟩, .add ⟨0⟩ "about" ⟨1⟩,
    .add ⟨1⟩ "news" ⟨3⟩, .add ⟨1⟩ "about" ⟨2⟩], by decide +kernel⟩

/-- The page about the news takes the place of that about the site, if this is asked for. -/
theorem Store.site_merges_news : ∃ store left : Store,
    (store.tables.get? ⟨0⟩).isSome ∧ (store.tables.get? ⟨1⟩).isSome ∧
      (store.table ⟨0⟩).names = ["home", "about"] ∧
      (store.table ⟨1⟩).names = ["news", "about"] ∧
      (Session.mergeTable ⟨0⟩ ⟨1⟩ true).perform store = (.ok (), left) ∧
      (left.table ⟨0⟩).names = ["home", "about", "news"] ∧
      (left.table ⟨0⟩).get "home" = .ok ⟨0⟩ ∧ (left.table ⟨0⟩).get "about" = .ok ⟨2⟩ ∧
      (Session.mergeTable ⟨0⟩ ⟨1⟩ false).perform store =
        (.error (.mergedNameTaken "about"), store) := by
  obtain ⟨calls, isThere, newsIsThere, names_eq, newsNames_eq, home_eq, about_eq⟩ :=
    Store.exists_site
  obtain ⟨⟨left, performed, isUnion, -⟩, refused, -, -⟩ :=
    Store.merges_tables calls ⟨0⟩ ⟨1⟩ isThere newsIsThere
  refine ⟨_, left, isThere, newsIsThere, names_eq, newsNames_eq, performed, ?_, ?_, ?_, ?_⟩
  · rw [isUnion.names_eq, names_eq, newsNames_eq]
    decide
  · rw [isUnion.get_eq, newsNames_eq, home_eq]
    rfl
  · rw [isUnion.get_eq, newsNames_eq, about_eq]
    rfl
  · rw [names_eq, newsNames_eq] at refused
    exact refused

end UrlRouting
