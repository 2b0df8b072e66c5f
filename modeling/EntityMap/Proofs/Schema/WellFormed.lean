import EntityMap.Proofs.Declaration.Table
import EntityMap.Proofs.Schema.Store

/-!
Well-formed schemas: names and ids are distinct, every name is in its clean form, a primary key is
not nullable, what refers to something is a foreign key, and every relationship starts from a table
of the schema. Declaring a table and adding a link keep a schema well-formed, whatever is declared.
-/

namespace EntityMap

open Identifier Relationship

/-- The column's name is clean, and its marks agree with its key and its reference. -/
structure Column.WellFormed (c : Column) : Prop where
  name : clean c.name = c.name
  notNull : c.isPrimaryKey → c.isNotNull
  flagged : c.references.isSome → c.isForeignKey

/-- The table has a clean name for an id, and its columns are well-formed. -/
structure Table.WellFormed (t : Table) : Prop where
  name : IsName t.name
  id_eq : t.id = t.name
  columns : ∀ c ∈ t.columns, c.WellFormed

/-- Tables and relationships are well-formed, each is there once, and no relationship starts from
elsewhere. -/
structure Schema.WellFormed (s : Schema) : Prop where
  names_nodup : (s.tables.map (·.name)).Nodup
  ids_nodup : (ids s.relationships).Nodup
  tables : ∀ t ∈ s.tables, t.WellFormed
  relationships : ∀ r ∈ s.relationships, r.WellFormed
  sources : ∀ r ∈ s.relationships, r.sourceTable ∈ s.tables.map (·.name)

theorem Column.WellFormed.markForeignKey {c : Column} (hc : c.WellFormed)
    (target : ColumnReference) (overwrite : Bool) :
    (c.markForeignKey target overwrite).WellFormed := ⟨hc.name, hc.notNull, fun _ => rfl⟩

theorem TableDefinition.wellFormed_build (d : TableDefinition) : d.build.1.WellFormed := by
  refine ⟨?_, ?_, fun c hc => ?_⟩
  · rw [build_fst_name]
    exact isName_tableName d
  · rw [build_fst_id, build_fst_name]
  · have hskel : c.skeleton ∈ d.build.1.skeleton.columns := List.mem_map_of_mem hc
    rw [build_fst_skeleton] at hskel
    obtain ⟨x, -, hx⟩ := List.mem_map.mp hskel
    have hname : clean c.name = c.name := by
      rw [← Column.skeleton_name c, ← hx, ColumnDefinition.toColumn_name, clean_clean]
    have hnull : c.isPrimaryKey → c.isNotNull := by
      rw [← Column.skeleton_isPrimaryKey c, ← Column.skeleton_isNotNull c, ← hx]
      intro hkey
      exact Bool.or_eq_true_iff.mpr (Or.inr hkey)
    exact ⟨hname, hnull, flagged_of_mem_build hc⟩

theorem TableDefinition.ColumnsDistinct.build {d : TableDefinition} (hd : d.ColumnsDistinct) :
    d.build.1.ColumnsDistinct := by
  rw [← Table.columnsDistinct_skeleton, build_fst_skeleton, Table.ColumnsDistinct, List.map_map]
  exact hd

namespace Schema.WellFormed

variable {s : Schema}

theorem empty : Schema.empty.WellFormed := by
  constructor <;> simp [Schema.empty]

theorem modifyColumn (hs : s.WellFormed) (i j : Nat) {f : Column → Column}
    (hskel : ∀ c, (f c).skeleton = c.skeleton)
    (hf : ∀ c : Column, c.WellFormed → (f c).WellFormed) :
    (s.modifyColumn i j f).WellFormed := by
  have hnames := names_eq_of_skeleton_eq (skeleton_modifyColumn s i j hskel)
  refine ⟨hnames ▸ hs.names_nodup, hs.ids_nodup, fun t ht => ?_, hs.relationships,
    fun r hr => hnames ▸ hs.sources r hr⟩
  rcases mem_or_eq_of_mem_modify ht with ht | ⟨t', ht', rfl⟩
  · exact hs.tables t ht
  · have htable := hs.tables t' ht'
    refine ⟨htable.name, htable.id_eq, fun c hc => ?_⟩
    rcases mem_or_eq_of_mem_modify hc with hc | ⟨c', hc', rfl⟩
    · exact htable.columns c hc
    · exact hf c' (htable.columns c' hc')

theorem addRelationship (hs : s.WellFormed) {r : Relationship} (hr : r.WellFormed)
    (hsource : r.sourceTable ∈ s.tables.map (·.name)) : (s.addRelationship r).WellFormed := by
  have hmem : ∀ q ∈ (s.addRelationship r).relationships, q ∈ s.relationships ∨ q = r :=
    fun q hq => mem_or_eq_of_mem_appendUnique hq
  refine ⟨hs.names_nodup, ids_nodup_appendUnique hs.ids_nodup, hs.tables, fun q hq => ?_,
    fun q hq => ?_⟩
  · exact (hmem q hq).elim (hs.relationships q) fun he => he ▸ hr
  · exact (hmem q hq).elim (hs.sources q) fun he => he ▸ hsource

theorem addLink (hs : s.WellFormed) {l : Link} (overwrite : Bool)
    (hl : l.relationship.WellFormed)
    (hsource : l.relationship.sourceTable ∈ s.tables.map (·.name)) :
    (s.addLink overwrite l).WellFormed := by
  rw [Schema.addLink]
  split
  · exact hs
  · exact (hs.addRelationship hl hsource).modifyColumn _ _
      (fun c => Column.skeleton_markForeignKey ..) fun c hc => hc.markForeignKey ..

theorem foldl_addLink (hs : s.WellFormed) {ls : List Link} (overwrite : Bool)
    (hls : ∀ l ∈ ls, l.Sound s.tables) : (ls.foldl (Schema.addLink overwrite) s).WellFormed := by
  induction ls generalizing s with
  | nil => exact hs
  | cons l ls ih =>
      have hl := hls l List.mem_cons_self
      exact ih (hs.addLink overwrite hl.wellFormed hl.source) fun l' hl' =>
        (hls l' (List.mem_cons_of_mem l hl')).of_skeleton_eq (skeleton_addLink overwrite s l).symm

end Schema.WellFormed

/-! ### Declaring a table -/

namespace Schema

variable {s : Schema}

theorem declareTable_eq (s : Schema) (d : TableDefinition) :
    s.declareTable d = d.build.2.foldl addRelationship
      ((if s.hasTable d.tableName then s.removeRelationshipsFrom d.tableName else s).addTable
        d.build.1) := by
  rw [← TableDefinition.build_fst_name]
  rfl

theorem tables_declareTable (s : Schema) (d : TableDefinition) :
    (s.declareTable d).tables = (s.addTable d.build.1).tables := by
  rw [declareTable_eq, foldl_addRelationship]
  by_cases h : s.hasTable d.tableName
  · rw [if_pos h]
    exact tables_addTable_congr rfl
  · rw [if_neg h]

/-- What is left of the relationships when a table is declared. A table that is not there yet has
no relationships that could go. -/
theorem relationships_declareTable
    (hs : ∀ r ∈ s.relationships, r.sourceTable ∈ s.tables.map (·.name)) (d : TableDefinition) :
    (s.declareTable d).relationships =
      d.build.2.foldl appendUnique (s.relationships.filter (·.sourceTable != d.tableName)) := by
  rw [declareTable_eq, foldl_addRelationship, relationships_addTable]
  by_cases h : s.hasTable d.tableName
  · rw [if_pos h]
    rfl
  · rw [if_neg h, List.filter_eq_self.mpr]
    intro r hr
    simpa using fun he : r.sourceTable = d.tableName => h (hasTable_iff.mpr (he ▸ hs r hr))

/-- The relationships of a declared table all start from it, and all others start from elsewhere,
where they did before. -/
theorem mem_relationships_declareTable
    (hs : ∀ r ∈ s.relationships, r.sourceTable ∈ s.tables.map (·.name)) {d : TableDefinition}
    {r : Relationship} (h : r ∈ (s.declareTable d).relationships) :
    r ∈ s.relationships ∧ r.sourceTable ≠ d.tableName ∨ r ∈ d.writtenPairs := by
  rw [relationships_declareTable hs, TableDefinition.build_snd] at h
  rcases mem_or_mem_of_mem_foldl h with h | h
  · rw [List.mem_filter] at h
    exact Or.inl ⟨h.1, by simpa using h.2⟩
  · exact Or.inr ((mem_or_mem_of_mem_foldl h).resolve_left List.not_mem_nil)

theorem WellFormed.declareTable (hs : s.WellFormed) (d : TableDefinition) :
    (s.declareTable d).WellFormed := by
  have hname : d.build.1.name = d.tableName := TableDefinition.build_fst_name d
  refine ⟨?_, ?_, fun t ht => ?_, fun r hr => ?_, fun r hr => ?_⟩
  · rw [tables_declareTable]
    exact names_nodup_addTable hs.names_nodup
  -- some relationships go before those of the table are added
  · rw [relationships_declareTable hs.sources]
    refine ids_nodup_foldl (hs.ids_nodup.sublist ?_)
    exact List.filter_sublist.map _
  · rw [tables_declareTable] at ht
    exact (mem_or_eq_of_mem_addTable ht).elim (hs.tables t) fun he =>
      he ▸ TableDefinition.wellFormed_build d
  · exact (mem_relationships_declareTable hs.sources hr).elim
      (fun h => hs.relationships r h.1) fun h => (TableDefinition.of_mem_writtenPairs h).1
  · rw [tables_declareTable, mem_names_addTable, hname]
    exact (mem_relationships_declareTable hs.sources hr).imp (fun h => hs.sources r h.1)
      fun h => (TableDefinition.of_mem_writtenPairs h).2

end Schema

end EntityMap
