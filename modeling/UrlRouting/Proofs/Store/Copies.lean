import UrlRouting.Proofs.Store.Routers
import UrlRouting.Proofs.Table.Declaration

/-!
# Tables that are declared again

Whatever calls a table comes from, the configuration that it is written as gives a table with the
same names and the same routes, which answers alike (`Store.declares_again`).
-/

namespace UrlRouting

theorem Store.nodup_snapshot (calls : List Call) (handle : Handle SharedTable) :
    ((Store.empty.after calls).snapshot handle).names.Nodup := by
  have describes := (Listings.Describes.empty.after calls).2
  have nodup := describes.nodup_items handle
  rw [← describes.items_eq handle] at nodup
  exact nodup

theorem Session.exists_perform_shareTable (table : RouteTable Route) (store : Store) :
    ∃ copy left, perform (shareTable table) store = (.ok copy, left) ∧
      (left.table copy).names = table.names ∧ (left.snapshot copy).entries = table.entries := by
  rw [perform_shareTable]
  refine ⟨_, _, rfl, ?_, ?_⟩
  · rw [Store.table, Arena.get?_alloc_self]
    exact Arena.map_fst_allocAll table.entries store.routes
  · rw [Store.snapshot, Store.table, Arena.get?_alloc_self]
    exact Arena.filterMap_allocAll table.entries store.routes

theorem Session.exists_perform_declareTable {table : RouteTable Route}
    (nodup : table.names.Nodup) (store : Store) :
    ∃ copy left, perform (declareTable table.toValue) store = (.ok copy, left) ∧
      (left.table copy).names = table.names ∧ (left.snapshot copy).entries = table.entries := by
  obtain ⟨declared, isDeclared, -, entries_eq⟩ :=
    RouteTable.exists_ofConfiguration_toValue nodup
  obtain ⟨copy, left, shared, names_eq, shared_eq⟩ := exists_perform_shareTable declared
    { store with events := store.events ++ (RouteTable.ofConfiguration table.toValue).run.1 }
  refine ⟨copy, left, ?_, ?_, shared_eq.trans entries_eq⟩
  · rw [perform_declareTable]
    dsimp only
    rw [isDeclared]
    exact shared
  · rw [names_eq, RouteTable.names, entries_eq, RouteTable.names]

end UrlRouting
