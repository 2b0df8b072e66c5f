import EntityMap.Proofs.Build

/-!
Tables that are declared more than once. The last declaration of a name counts: it takes the place
of the first one among the tables, and the relationships of all earlier ones go with them.
`Schema.declare_empty` gives tables and relationships of all declarations in closed form.
-/

namespace EntityMap

open Identifier Relationship Statement

namespace TableDefinition

variable {ds : List TableDefinition} {d x : TableDefinition}

def last? (ds : List TableDefinition) (name : String) : Option TableDefinition :=
  ds.findRev? (·.tableName == name)

/-- The declarations that no later one of the same name follows, in their order. -/
def latest : List TableDefinition → List TableDefinition
  | [] => []
  | d :: ds => if d.tableName ∈ ds.map (·.tableName) then latest ds else d :: latest ds

theorem last?_append_singleton (ds : List TableDefinition) (d : TableDefinition) (name : String) :
    last? (ds ++ [d]) name = if d.tableName = name then some d else last? ds name := by
  simp only [last?, List.findRev?_eq_find?_reverse, List.reverse_append, List.reverse_singleton,
    List.singleton_append]
  by_cases h : d.tableName = name
  · rw [if_pos h, List.find?_cons_of_pos (by simpa using h)]
  · rw [if_neg h, List.find?_cons_of_neg (by simpa using h)]

theorem tableName_of_last? {name : String} (h : last? ds name = some d) : d.tableName = name := by
  rw [last?, List.findRev?_eq_find?_reverse] at h
  simpa using List.find?_some h

theorem exists_last? {name : String} (h : name ∈ ds.map (·.tableName)) :
    ∃ d, last? ds name = some d := by
  obtain ⟨d, hd, hname⟩ := List.mem_map.mp h
  rw [← Option.isSome_iff_exists, last?, List.findRev?_eq_find?_reverse, List.find?_isSome]
  exact ⟨d, List.mem_reverse.mpr hd, by simpa using hname⟩

theorem latest_append_singleton (ds : List TableDefinition) (d : TableDefinition) :
    latest (ds ++ [d]) = (latest ds).filter (·.tableName != d.tableName) ++ [d] := by
  induction ds with
  | nil => simp [latest]
  | cons x ds ih =>
      rw [List.cons_append, latest, latest, ih]
      by_cases hlater : x.tableName ∈ ds.map (·.tableName)
      · rw [if_pos hlater, if_pos (by simp [hlater])]
      · rw [if_neg hlater, List.filter_cons]
        by_cases hsame : x.tableName = d.tableName
        · rw [if_pos (by simp [hsame]), if_neg (by simp [hsame])]
        · rw [if_neg (by simpa [hsame] using hlater), if_pos (by simp [hsame]), List.cons_append]

theorem latest_eq_self (h : (ds.map (·.tableName)).Nodup) : latest ds = ds := by
  induction ds with
  | nil => rfl
  | cons d ds ih =>
      rw [List.map_cons, List.nodup_cons] at h
      rw [latest, if_neg h.1, ih h.2]

end TableDefinition

namespace Schema

open TableDefinition

variable {s : Schema} {d : TableDefinition}

theorem mem_names_foldl_declareTable {ds : List TableDefinition} {name : String} :
    name ∈ (ds.foldl declareTable s).tables.map (·.name) ↔
      name ∈ s.tables.map (·.name) ∨ name ∈ ds.map (·.tableName) := by
  induction ds generalizing s with
  | nil => simp
  | cons d ds ih =>
      rw [List.foldl_cons, ih, tables_declareTable, mem_names_addTable, d.build_fst_name,
        List.map_cons, List.mem_cons, or_assoc]

/-- All relationships of the declared table are new once those of the table it replaces have gone:
an id tells which table it starts from. -/
theorem relationships_declareTable_of_dotless (hs : s.WellFormed)
    (hnames : ∀ name ∈ s.tables.map (·.name), Dotless name) (hd : Dotless d.tableName) :
    (s.declareTable d).relationships =
      s.relationships.filter (·.sourceTable != d.tableName) ++ d.build.2 := by
  rw [relationships_declareTable hs.sources]
  refine foldl_appendUnique_of_nodup ?_
  have hkept : (ids (s.relationships.filter (·.sourceTable != d.tableName))).Nodup :=
    hs.ids_nodup.sublist (List.filter_sublist.map _)
  have hadded : (ids d.build.2).Nodup := by
    rw [d.build_snd]
    exact ids_nodup_foldl List.nodup_nil
  rw [ids_append]
  refine List.nodup_append.mpr ⟨hkept, hadded, ?_⟩
  intro id hid id' hid' he
  obtain ⟨r, hr, rfl⟩ := mem_ids.mp hid
  obtain ⟨q, hq, rfl⟩ := mem_ids.mp hid'
  obtain ⟨hr, hne⟩ := List.mem_filter.mp hr
  obtain ⟨hwf, hsource⟩ := of_mem_build_snd hq
  have hsame := sourceTable_eq_of_id_eq (hs.relationships r hr).canonical hwf.canonical
    (hnames _ (hs.sources r hr)) (hsource ▸ hd) he
  rw [hsource] at hsame
  simp [hsame] at hne

/-- The tables stand in the order of the first declarations, each as it is declared last. -/
theorem tables_foldl_declareTable (ds : List TableDefinition) :
    (ds.foldl declareTable empty).tables =
      (ds.map (·.tableName)).eraseDups.filterMap fun name => (last? ds name).map (·.build.1) := by
  induction ds using List.reverseRecOn with
  | nil => rfl
  | append_singleton ds d ih =>
      have hnames := (WellFormed.empty.foldl_declareTable ds).names_nodup
      have hmem : d.build.1.name ∈ (ds.foldl declareTable empty).tables.map (·.name) ↔
          d.tableName ∈ ds.map (·.tableName) := by
        rw [mem_names_foldl_declareTable, d.build_fst_name]
        simp [empty]
      rw [List.foldl_append, List.foldl_cons, List.foldl_nil, tables_declareTable, List.map_append,
        List.map_singleton, eraseDups_append_singleton]
      -- a name that is declared again keeps its place, a new one comes last
      by_cases hd : d.tableName ∈ ds.map (·.tableName)
      · rw [tables_addTable_of_mem hnames (hmem.mpr hd), ih, if_pos hd, List.map_filterMap]
        refine List.filterMap_congr fun name hname => ?_
        obtain ⟨x, hx⟩ := exists_last? (List.mem_eraseDups.mp hname)
        rw [last?_append_singleton, hx, ← tableName_of_last? hx]
        simp only [Option.map_some, build_fst_name]
        by_cases hsame : x.tableName = d.tableName
        · rw [if_pos hsame, if_pos hsame.symm, Option.map_some]
        · rw [if_neg hsame, if_neg (Ne.symm hsame), Option.map_some]
      · have hkept : ∀ name ∈ (ds.map (·.tableName)).eraseDups,
            (last? (ds ++ [d]) name).map (·.build.1) = (last? ds name).map (·.build.1) := by
          intro name hname
          have hne : d.tableName ≠ name := fun he => hd (he ▸ List.mem_eraseDups.mp hname)
          rw [last?_append_singleton, if_neg hne]
        rw [addTable_of_notMem (mt hmem.mp hd), if_neg hd, List.filterMap_append,
          List.filterMap_congr hkept, ← ih]
        simp [last?_append_singleton]

/-- Of the relationships that were there, those go that start from a declared table. The others are
followed by those of the last declarations, in their order. -/
theorem relationships_foldl_declareTable_of_wellFormed (hs : s.WellFormed)
    (hnames : ∀ name ∈ s.tables.map (·.name), Dotless name) {ds : List TableDefinition}
    (hds : ∀ d ∈ ds, Dotless d.tableName) :
    (ds.foldl declareTable s).relationships =
      s.relationships.filter (fun r => decide (r.sourceTable ∉ ds.map (·.tableName))) ++
        (latest ds).flatMap (·.build.2) := by
  induction ds using List.reverseRecOn with
  | nil => simp [latest]
  | append_singleton ds d ih =>
      have hearlier : ∀ x ∈ ds, Dotless x.tableName := fun x hx =>
        hds x (List.mem_append_left [d] hx)
      have hdotless : ∀ name ∈ (ds.foldl declareTable s).tables.map (·.name), Dotless name := by
        intro name hname
        rcases mem_names_foldl_declareTable.mp hname with hname | hname
        · exact hnames name hname
        · obtain ⟨x, hx, rfl⟩ := List.mem_map.mp hname
          exact hearlier x hx
      have hkept : (s.relationships.filter fun r =>
            decide (r.sourceTable ∉ ds.map (·.tableName))).filter (·.sourceTable != d.tableName) =
          s.relationships.filter fun r =>
            decide (r.sourceTable ∉ (ds ++ [d]).map (·.tableName)) := by
        rw [List.filter_filter]
        refine List.filter_congr fun r _ => ?_
        rw [Bool.eq_iff_iff]
        simp [and_comm]
      have hadded : ((latest ds).flatMap (·.build.2)).filter (·.sourceTable != d.tableName) =
          ((latest ds).filter (·.tableName != d.tableName)).flatMap (·.build.2) :=
        filter_flatMap_of_key (fun x _ r hr => (of_mem_build_snd hr).2) (· != d.tableName)
      rw [List.foldl_append, List.foldl_cons, List.foldl_nil,
        relationships_declareTable_of_dotless (hs.foldl_declareTable ds) hdotless (hds d (by simp)),
        ih hearlier, List.filter_append, hkept, hadded, latest_append_singleton,
        List.flatMap_append, List.flatMap_singleton, List.append_assoc]

/-- The relationships stand in the order of the last declarations. -/
theorem relationships_foldl_declareTable {ds : List TableDefinition}
    (hds : ∀ d ∈ ds, Dotless d.tableName) :
    (ds.foldl declareTable empty).relationships = (latest ds).flatMap (·.build.2) :=
  relationships_foldl_declareTable_of_wellFormed WellFormed.empty (by simp [empty]) hds

/-- Of each name, the last declaration is left, with all its relationships, and nothing else. -/
theorem declare_empty {statements : List Statement}
    (h : ∀ d ∈ definitions statements, Dotless d.tableName) :
    empty.declare statements =
      ⟨((definitions statements).map (·.tableName)).eraseDups.filterMap fun name =>
          (last? (definitions statements) name).map (·.build.1),
        (latest (definitions statements)).flatMap (·.build.2)⟩ := by
  rw [declare_eq_foldl]
  exact Schema.ext (tables_foldl_declareTable _) (relationships_foldl_declareTable h)

/-- Orders are declared anew after their items and refer to other tables then. -/
def reorderedOrders : List Statement :=
  let linked (name table : String) : ColumnDefinition :=
    { ColumnDefinition.named name with reference := some ⟨[], table, ["id"]⟩ }
  [.createTable ⟨some "orders", [linked "user_id" "users"], [], []⟩,
    .createTable ⟨none, [.named "id"], [], []⟩,
    .createTable ⟨some "items", [linked "order_id" "orders"], [], []⟩,
    .alterTable ⟨some "items", [⟨["order_id"], "users", ["id"]⟩]⟩,
    .createTable ⟨some "`orders`", [linked "client_id" "clients"], [], []⟩]

theorem declare_empty_reorderedOrders :
    (∀ d ∈ definitions reorderedOrders, Dotless d.tableName) ∧
      empty.declare reorderedOrders =
        ⟨((definitions reorderedOrders).map (·.tableName)).eraseDups.filterMap fun name =>
            (last? (definitions reorderedOrders) name).map (·.build.1),
          (latest (definitions reorderedOrders)).flatMap (·.build.2)⟩ := by
  have h : ∀ d ∈ definitions reorderedOrders, Dotless d.tableName := by decide +kernel
  exact ⟨h, declare_empty h⟩

end Schema

end EntityMap
