import EntityMap.Proofs.Declaration.Latest

/-!
Building a schema a second time. A schema that was built from a script holds foreign keys that were
added to its tables later, and their columns are marked. When the same script is run on it again,
each declaration drops what starts from its table, so that after the last one the schema is what it
was when it had just been declared; `Schema.build_again` says that in the end nothing has changed.
-/

namespace EntityMap.Schema

open Identifier Relationship Statement TableDefinition

variable {s : Schema} {ds : List TableDefinition}

theorem names_foldl_declareTable_of_mem (hds : ∀ d ∈ ds, d.tableName ∈ s.tables.map (·.name)) :
    (ds.foldl declareTable s).tables.map (·.name) = s.tables.map (·.name) := by
  induction ds generalizing s with
  | nil => rfl
  | cons d ds ih =>
      have hmem : d.build.1.name ∈ s.tables.map (·.name) := by
        rw [d.build_fst_name]
        exact hds d List.mem_cons_self
      have hnames : (s.declareTable d).tables.map (·.name) = s.tables.map (·.name) := by
        rw [tables_declareTable, names_addTable_of_mem hmem]
      rw [List.foldl_cons, ih, hnames]
      exact fun x hx => hnames ▸ hds x (List.mem_cons_of_mem d hx)

/-- A table that is declared is what its last declaration makes of it. -/
theorem eq_build_of_mem_foldl_declareTable (hs : s.WellFormed) {t : Table} {d : TableDefinition}
    (ht : t ∈ (ds.foldl declareTable s).tables) (hd : last? ds t.name = some d) :
    t = d.build.1 := by
  induction ds using List.reverseRecOn with
  | nil => simp [last?] at hd
  | append_singleton ds x ih =>
      rw [last?_append_singleton] at hd
      rw [List.foldl_append, List.foldl_cons, List.foldl_nil, tables_declareTable,
        mem_addTable_iff (hs.foldl_declareTable ds).names_nodup, x.build_fst_name] at ht
      rcases ht with rfl | ⟨ht, hne⟩
      · rw [if_pos x.build_fst_name.symm] at hd
        rw [Option.some.inj hd]
      · rw [if_neg (Ne.symm hne)] at hd
        exact ih ht hd

/-- Once its tables have been declared, a schema has nothing left of what it was before. -/
theorem foldl_declareTable_eq_of_names (hs : s.WellFormed)
    (hnames : s.tables.map (·.name) = (ds.foldl declareTable empty).tables.map (·.name))
    (hdots : ∀ d ∈ ds, Dotless d.tableName) :
    ds.foldl declareTable s = ds.foldl declareTable empty := by
  have hmem (name : String) : name ∈ s.tables.map (·.name) ↔ name ∈ ds.map (·.tableName) := by
    rw [hnames, mem_names_foldl_declareTable]
    simp [empty]
  have hkept : (ds.foldl declareTable s).tables.map (·.name) = s.tables.map (·.name) :=
    names_foldl_declareTable_of_mem fun d hd => (hmem _).mpr (List.mem_map_of_mem hd)
  refine Schema.ext ?_ ?_
  · refine eq_of_map_eq (hkept.trans hnames) fun t ht t' ht' hname => ?_
    have hdeclared : t.name ∈ ds.map (·.tableName) :=
      (hmem _).mp (hkept ▸ List.mem_map_of_mem ht)
    obtain ⟨d, hd⟩ := exists_last? hdeclared
    rw [eq_build_of_mem_foldl_declareTable hs ht hd,
      eq_build_of_mem_foldl_declareTable WellFormed.empty ht' (hname ▸ hd)]
  -- every relationship starts from a table, and each of these is declared
  · have hnone : s.relationships.filter
        (fun r => decide (r.sourceTable ∉ ds.map (·.tableName))) = [] := by
      refine List.filter_eq_nil_iff.mpr fun r hr => ?_
      simpa using (hmem _).mp (hs.sources r hr)
    have hdotless : ∀ name ∈ s.tables.map (·.name), Dotless name := by
      intro name hname
      obtain ⟨d, hd, rfl⟩ := List.mem_map.mp ((hmem name).mp hname)
      exact hdots d hd
    rw [relationships_foldl_declareTable_of_wellFormed hs hdotless hdots, hnone, List.nil_append,
      relationships_foldl_declareTable hdots]

/-- Running a script again on the schema that was built from it changes nothing, neither a mark nor
a reference nor the order of tables and relationships. -/
theorem build_again {statements : List Statement}
    (h : ∀ d ∈ definitions statements, Dotless d.tableName) :
    (((build statements).declare statements).alter statements).infer = build statements := by
  have hdeclared := foldl_declareTable_eq_of_names (wellFormed_build statements)
    (names_build statements) h
  rw [declare_eq_foldl, alter_eq_foldl, hdeclared, build_eq_infer_declared, declared]

/-- Orders are altered before they are declared, and declared anew with other columns. -/
def movedOrders : List Statement :=
  let linked (name table : String) : ColumnDefinition :=
    { ColumnDefinition.named name with reference := some ⟨[], table, ["id"]⟩ }
  [.alterTable ⟨some "ORDERS", [⟨["buyer"], "Users", ["ID"]⟩]⟩,
    .createTable ⟨some "orders", [linked "user_id" "clients"], [], []⟩,
    .createTable ⟨some "users", [.named "id"], ["id"], []⟩,
    .createTable ⟨some "[orders]", [.named "buyer", linked "item" "users"], [], []⟩,
    .alterTable ⟨some "orders", [⟨["item"], "users", ["id"]⟩]⟩]

theorem build_again_movedOrders :
    (∀ d ∈ definitions movedOrders, Dotless d.tableName) ∧
      (((build movedOrders).declare movedOrders).alter movedOrders).infer = build movedOrders := by
  have h : ∀ d ∈ definitions movedOrders, Dotless d.tableName := by decide +kernel
  exact ⟨h, build_again h⟩

end EntityMap.Schema
