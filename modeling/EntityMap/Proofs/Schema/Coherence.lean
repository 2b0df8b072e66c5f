import EntityMap.Proofs.Schema.Legible

/-!
The three records of a foreign key. A column is marked as a foreign key, it refers to something,
and a relationship starts from it; `Schema.Coherent` says that each of the three tells the same.
Linking keeps a schema coherent, and so does declaring a table, in whose place the one before it
goes with its relationships. By `Schema.Coherent.tables_eq`, the marks and references of a coherent
schema are determined by its relationships if no two start from the same column.
-/

namespace EntityMap

open Identifier Relationship

/-- The relationship starts from this table and this column, case aside for the column. -/
def Relationship.StartsFrom (r : Relationship) (table column : String) : Prop :=
  r.sourceTable = table ∧ Text.lower r.sourceColumn = Text.lower column

/-- For this column of a table, its mark, its reference and the relationships tell the same. -/
structure Column.Coherent (rs : List Relationship) (table : String) (c : Column) : Prop where
  flagged_iff : c.isForeignKey ↔ c.references.isSome
  referenced_iff : c.references.isSome ↔ ∃ r ∈ rs, r.StartsFrom table c.name
  target : ∀ reference, c.references = some reference →
    ∃ r ∈ rs, r.StartsFrom table c.name ∧ r.target = reference

/-- Marks, references and relationships tell the same about every column. -/
def Schema.Coherent (s : Schema) : Prop :=
  ∀ t ∈ s.tables, ∀ c ∈ t.columns, c.Coherent s.relationships t.name

/-- Only the relationships that start from the column matter. -/
theorem Column.Coherent.congr {rs rs' : List Relationship} {table : String} {c : Column}
    (hc : c.Coherent rs table) (h : ∀ r, r.StartsFrom table c.name → (r ∈ rs ↔ r ∈ rs')) :
    c.Coherent rs' table := by
  refine ⟨hc.flagged_iff, hc.referenced_iff.trans ?_, fun reference href => ?_⟩
  · constructor
    · rintro ⟨r, hr, hstart⟩
      exact ⟨r, (h r hstart).mp hr, hstart⟩
    · rintro ⟨r, hr, hstart⟩
      exact ⟨r, (h r hstart).mpr hr, hstart⟩
  · obtain ⟨r, hr, hstart, htarget⟩ := hc.target reference href
    exact ⟨r, (h r hstart).mp hr, hstart, htarget⟩

/-- A new relationship from the column brings its mark and a reference, or leaves the reference
that was there. -/
theorem Column.Coherent.mark {rs : List Relationship} {r : Relationship} {table : String}
    {c : Column} (hc : c.Coherent rs table) (hr : r.StartsFrom table c.name) (overwrite : Bool) :
    (c.markForeignKey r.target overwrite).Coherent (rs ++ [r]) table := by
  have hmem : r ∈ rs ++ [r] := List.mem_append_right rs (List.mem_singleton_self r)
  have hsome : (c.markForeignKey r.target overwrite).references.isSome := by
    cases h : c.references <;> cases overwrite <;> simp [markForeignKey, h]
  refine ⟨⟨fun _ => hsome, fun _ => rfl⟩, ⟨fun _ => ⟨r, hmem, hr⟩, fun _ => hsome⟩, ?_⟩
  intro reference href
  rw [references_markForeignKey] at href
  split at href
  · exact ⟨r, hmem, hr, Option.some.inj href⟩
  · obtain ⟨q, hq, hstart, htarget⟩ := hc.target reference href
    exact ⟨q, List.mem_append_left _ hq, hstart, htarget⟩

namespace Schema

variable {s : Schema}

/-! ### Linking -/

/-- A new relationship starts from the one column that is marked for it, and from no other. -/
theorem Coherent.link (hs : s.Coherent) (hdistinct : s.Distinct) (overwrite : Bool)
    {r : Relationship} (hr : r.SourceIn s.tables) : (s.link overwrite r).Coherent := by
  by_cases hid : r.id ∈ ids s.relationships
  · rwa [link_of_mem hid]
  · obtain ⟨source, hsource, hsname, sc, hsc, hcname⟩ := hr
    rw [link_of_notMem hid]
    have hrels : ((s.addRelationship r).markSource overwrite r).relationships =
        s.relationships ++ [r] := appendUnique_of_notMem hid
    rw [Schema.Coherent, hrels]
    intro t' ht' c' hc'
    obtain ⟨t, ht, c, hc, hname, rfl⟩ := of_mem_markSource ht' hc'
    have hcoherent := hs t ht c hc
    rw [hname]
    split
    · next h => exact hcoherent.mark ⟨h.1.symm, by rw [h.2]⟩ overwrite
    · next h =>
        -- if `r` started here as well, the column would be its source, spelled in another way
        refine hcoherent.congr fun q hq => ?_
        rw [List.mem_append, List.mem_singleton, or_iff_left]
        rintro rfl
        obtain rfl := hdistinct.eq_of_name_eq ht hsource (hq.1.symm.trans hsname.symm)
        refine h ⟨hq.1.symm, ?_⟩
        rw [← hcname, (hdistinct.columns t ht).eq_of_lower_eq hc hsc (by rw [hcname, hq.2])]

theorem Coherent.foldl_link (hs : s.Coherent) (hdistinct : s.Distinct) (overwrite : Bool)
    {rs : List Relationship} (hrs : ∀ r ∈ rs, r.SourceIn s.tables) :
    (rs.foldl (Schema.link overwrite) s).Coherent := by
  induction rs generalizing s with
  | nil => exact hs
  | cons r rs ih =>
      have hskel : s.skeleton = (s.link overwrite r).skeleton := skeleton_link.symm
      refine ih (hs.link hdistinct overwrite (hrs r List.mem_cons_self))
        (hdistinct.of_skeleton_eq hskel) fun q hq => ?_
      rw [← sourceIn_skeleton, ← hskel, sourceIn_skeleton]
      exact hrs q (List.mem_cons_of_mem r hq)

/-! ### Declaring -/

theorem coherent_linkedColumn {d : TableDefinition} (hd : d.ColumnsDistinct)
    {x : ColumnDefinition} (hx : x ∈ d.columns) :
    (d.linkedColumn x).Coherent d.writtenPairs d.tableName := by
  have htarget (reference : ColumnReference) (h : d.reference? x = some reference) :
      ∃ r ∈ d.writtenPairs, r.StartsFrom d.tableName (clean x.name) ∧ r.target = reference := by
    obtain ⟨r, hr, hsc, hreference⟩ := TableDefinition.exists_of_reference? hx h
    exact ⟨r, hr, ⟨(TableDefinition.of_mem_writtenPairs hr).2, hsc⟩, hreference⟩
  refine ⟨Iff.rfl, ⟨fun h => ?_, ?_⟩, htarget⟩
  · obtain ⟨reference, href⟩ := Option.isSome_iff_exists.mp h
    obtain ⟨r, hr, hstart, -⟩ := htarget reference href
    exact ⟨r, hr, hstart⟩
  · rintro ⟨r, hr, -, hsc⟩
    exact TableDefinition.isSome_reference? hd hx hr hsc

/-- The relationships of a table that is replaced go with it, so those that start from the
declared table are its own. -/
theorem Coherent.declareTable (hs : s.Coherent) (hwf : s.WellFormed) (hlegible : s.Legible)
    {d : TableDefinition} (hd : d.Legible) (hdistinct : d.ColumnsDistinct) :
    (s.declareTable d).Coherent := by
  have hrels {r : Relationship} := mem_relationships_declareTable_iff hwf hlegible hd (r := r)
  intro t ht c hc
  rw [tables_declareTable, mem_addTable_iff hwf.names_nodup, TableDefinition.build_fst_name] at ht
  rcases ht with rfl | ⟨ht, hname⟩
  -- of the declared table, only what the declaration writes is left
  · rw [TableDefinition.build_fst_name]
    rw [TableDefinition.build_fst hdistinct] at hc
    obtain ⟨x, hx, rfl⟩ := List.mem_map.mp hc
    refine (coherent_linkedColumn hdistinct hx).congr fun r hr => ?_
    rw [hrels, or_iff_right fun h => h.2 hr.1]
  -- of any other table, everything is left
  · refine (hs t ht c hc).congr fun r hr => ?_
    rw [hrels, or_iff_left, and_iff_left (by rwa [hr.1])]
    exact fun h => hname (hr.1.symm.trans (TableDefinition.of_mem_writtenPairs h).2)

end Schema

/-! ### Coherent schemas with the same relationships -/

/-- No two relationships start from the same column. -/
def Relationship.SourcesUnique (rs : List Relationship) : Prop :=
  ∀ table column, ∀ r ∈ rs, ∀ q ∈ rs, r.StartsFrom table column → q.StartsFrom table column → r = q

theorem Column.Coherent.references_eq {rs : List Relationship} {table : String} {c c' : Column}
    (hc : c.Coherent rs table) (hc' : c'.Coherent rs table) (hname : c.name = c'.name)
    (hunique : SourcesUnique rs) : c.references = c'.references := by
  cases href : c.references with
  | none =>
      have hnone : ¬c'.references.isSome := fun h => by
        rw [hc'.referenced_iff, ← hname, ← hc.referenced_iff, href] at h
        contradiction
      exact (Option.not_isSome_iff_eq_none.mp hnone).symm
  | some reference =>
      obtain ⟨r, hr, hstart, htarget⟩ := hc.target reference href
      have hsome : c'.references.isSome := hc'.referenced_iff.mpr ⟨r, hr, hname ▸ hstart⟩
      obtain ⟨reference', href'⟩ := Option.isSome_iff_exists.mp hsome
      obtain ⟨q, hq, hstart', htarget'⟩ := hc'.target reference' href'
      obtain rfl := hunique table c'.name r hr q hq (hname ▸ hstart) hstart'
      rw [href', ← htarget, ← htarget']

/-- Where no column starts two relationships, the relationships of a coherent schema say all that
its skeleton leaves out. -/
theorem Schema.Coherent.tables_eq {s s' : Schema} (hs : s.Coherent) (hs' : s'.Coherent)
    (hskel : s.skeleton = s'.skeleton)
    (hmem : ∀ r, r ∈ s.relationships ↔ r ∈ s'.relationships)
    (hunique : SourcesUnique s.relationships) : s.tables = s'.tables := by
  refine eq_of_map_eq hskel fun t ht t' ht' he => ?_
  have hname : t.name = t'.name := by simpa using congrArg Table.name he
  have hcolumns : t.columns = t'.columns := by
    refine eq_of_map_eq (congrArg Table.columns he) fun c hc c' hc' hec => ?_
    have hcoherent := hs t ht c hc
    have hcoherent' : c'.Coherent s.relationships t.name :=
      hname ▸ (hs' t' ht' c' hc').congr fun r _ => (hmem r).symm
    have hcname : c.name = c'.name := by simpa using congrArg Column.name hec
    have hreferences := hcoherent.references_eq hcoherent' hcname hunique
    refine Column.ext_skeleton hec ?_ hreferences
    rw [Bool.eq_iff_iff, hcoherent.flagged_iff, hcoherent'.flagged_iff, hreferences]
  cases t
  cases t'
  simp_all [Table.skeleton]

end EntityMap
