import EntityMap.Proofs.Build

/-!
Schemas whose names can be read from the ids of their relationships. Ids then tell relationships
apart, and none is lost because another has its id. Declaring a legible table and adding a link keep
a schema legible: a link starts and ends at names that the schema has already.
-/

namespace EntityMap

open Identifier Relationship

/-- The names of the table can be read from the ids of the relationships that start from it. -/
structure Table.Legible (t : Table) : Prop where
  name : Dotless t.name
  columns : ∀ c ∈ t.columns, Arrowless c.name

/-- The ids of the relationships of the schema can be read, and so can those of any relationship
between its tables. -/
structure Schema.Legible (s : Schema) : Prop where
  tables : ∀ t ∈ s.tables, t.Legible
  relationships : ∀ r ∈ s.relationships, r.Legible

theorem Table.Legible.of_skeleton_eq {t t' : Table} (ht : t.Legible)
    (h : t.skeleton = t'.skeleton) : t'.Legible := by
  refine ⟨congrArg Table.name h ▸ ht.name, fun c hc => ?_⟩
  have hmem : c.skeleton ∈ t.skeleton.columns := h ▸ List.mem_map_of_mem hc
  obtain ⟨c', hc', he⟩ := List.mem_map.mp hmem
  exact congrArg Column.name he ▸ ht.columns c' hc'

theorem TableDefinition.Legible.build {d : TableDefinition} (hd : d.Legible) :
    d.build.1.Legible := by
  refine ⟨d.build_fst_name ▸ hd.tableName, fun c hc => ?_⟩
  have hskel : c.skeleton ∈ d.build.1.skeleton.columns := List.mem_map_of_mem hc
  rw [d.build_fst_skeleton] at hskel
  obtain ⟨x, hx, he⟩ := List.mem_map.mp hskel
  rw [← Column.skeleton_name c, ← he, ColumnDefinition.toColumn_name]
  exact hd.columns x hx

namespace Schema

variable {s : Schema}

theorem Legible.of_sound {l : Link} (hs : ∀ t ∈ s.tables, t.Legible) (hl : l.Sound s.tables) :
    l.relationship.Legible := by
  obtain ⟨t, ht, htname, c, hc, hcname⟩ := hl.fits.sourceIn
  obtain ⟨target, htarget, hname⟩ := List.mem_map.mp hl.target
  exact ⟨htname ▸ (hs t ht).name, hcname ▸ (hs t ht).columns c hc, hname ▸ (hs target htarget).name⟩

theorem Legible.addLink (hs : s.Legible) {l : Link} (overwrite : Bool) (hl : l.Sound s.tables) :
    (s.addLink overwrite l).Legible := by
  refine ⟨fun t ht => ?_, fun r hr => ?_⟩
  · obtain ⟨t', ht', he⟩ := exists_mem_of_skeleton_eq (skeleton_addLink overwrite s l) ht
    exact (hs.tables t' ht').of_skeleton_eq he
  · have hmem : r ∈ s.relationships ∨ r = l.relationship := by
      rw [Schema.addLink] at hr
      split at hr
      · exact Or.inl hr
      · exact mem_or_eq_of_mem_appendUnique hr
    rcases hmem with hr | rfl
    · exact hs.relationships r hr
    · exact Legible.of_sound hs.tables hl

theorem Legible.declareTable (hs : s.Legible) (hwf : s.WellFormed) {d : TableDefinition}
    (hd : d.Legible) : (s.declareTable d).Legible := by
  refine ⟨fun t ht => ?_, fun r hr => ?_⟩
  · rw [tables_declareTable] at ht
    exact (mem_or_eq_of_mem_addTable ht).elim (hs.tables t) fun he => he ▸ hd.build
  · exact (mem_relationships_declareTable hwf.sources hr).elim
      (fun h => hs.relationships r h.1) hd.of_mem_writtenPairs

/-- Where ids can be read, everything that a declaration writes ends up in the schema, and nothing
that starts from another table is lost. -/
theorem mem_relationships_declareTable_iff (hs : s.WellFormed) (hlegible : s.Legible)
    {d : TableDefinition} (hd : d.Legible) {r : Relationship} :
    r ∈ (s.declareTable d).relationships ↔
      r ∈ s.relationships ∧ r.sourceTable ≠ d.tableName ∨ r ∈ d.writtenPairs := by
  have hmem (q : Relationship)
      (hq : q ∈ s.relationships.filter (·.sourceTable != d.tableName) ++ d.writtenPairs) :
      q.Canonical ∧ q.Legible := by
    rcases List.mem_append.mp hq with hq | hq
    · have hq := (List.mem_filter.mp hq).1
      exact ⟨(hs.relationships q hq).canonical, hlegible.relationships q hq⟩
    · exact ⟨(TableDefinition.of_mem_writtenPairs hq).1.canonical, hd.of_mem_writtenPairs hq⟩
  rw [relationships_declareTable hs.sources, TableDefinition.build_snd, foldl_appendUnique_assoc,
    List.foldl_nil, mem_foldl_iff, List.mem_filter, bne_iff_ne]
  intro a ha b hb
  exact eq_of_id_eq (hmem a ha).1 (hmem b hb).1 (hmem a ha).2 (hmem b hb).2

end Schema

end EntityMap
