import Mathlib.Data.List.Nodup
import Mathlib.Tactic.MkIffOfInductiveProp
import EntityMap.Proofs.Relationship.Identity
import EntityMap.Proofs.Relationship.Collection
import EntityMap.Proofs.Schema.Skeleton

/-!
What one table declaration builds. Every relationship of a declaration starts from the declared
table; each is found in the clauses of the table or next to a column. Where no two columns have the
same name, case aside, a column is a foreign key exactly if it refers to something.
-/

namespace EntityMap

open Identifier Relationship

namespace ForeignKeyClause

/-- A relationship of a clause has the clean names that the clause writes. -/
theorem of_mem_relationships {clause : ForeignKeyClause} {table : String} {r : Relationship}
    (h : r ∈ clause.relationships table) :
    r.WellFormed ∧ r.sourceTable = clean table ∧ r.targetTable = clean clause.referencesTable ∧
      ∃ column ∈ clause.columns, r.sourceColumn = clean column := by
  obtain ⟨⟨column, target⟩, hmem, hr⟩ := List.mem_filterMap.mp h
  have hwf := wellFormed_of_ofNames? hr
  obtain ⟨-, rfl⟩ := ofNames?_eq_some_iff.mp hr
  exact ⟨hwf, rfl, rfl, column, (List.of_mem_zip hmem).1, rfl⟩

/-- The names of the clause can be read from the ids of its relationships. -/
@[mk_iff] structure Legible (clause : ForeignKeyClause) : Prop where
  referencesTable : Dotless (clean clause.referencesTable)
  columns : ∀ column ∈ clause.columns, Arrowless (clean column)

instance (clause : ForeignKeyClause) : Decidable clause.Legible :=
  decidable_of_iff _ (legible_iff clause).symm

end ForeignKeyClause

namespace ColumnDefinition

def named (name : String) : ColumnDefinition :=
  ⟨name, "INT", false, false, false, false, none, none⟩

theorem of_inlineRelationship? {d : ColumnDefinition} {table : String} {r : Relationship}
    (h : d.inlineRelationship? table = some r) :
    r.WellFormed ∧ r.sourceTable = clean table ∧ r.sourceColumn = clean d.name ∧
      ∃ clause, d.reference = some clause ∧ r.targetTable = clean clause.referencesTable := by
  obtain ⟨clause, hclause, hhead⟩ := Option.bind_eq_some_iff.mp h
  obtain ⟨hwf, hst, htt, column, hcolumn, hsc⟩ :=
    ForeignKeyClause.of_mem_relationships (List.mem_of_mem_head? (by simpa using hhead))
  rw [List.mem_singleton.mp hcolumn, clean_clean] at hsc
  exact ⟨hwf, hst, hsc, clause, hclause, htt⟩

@[simp] theorem toColumn_name (keys : List String) (d : ColumnDefinition) :
    (d.toColumn keys).name = clean d.name := rfl

end ColumnDefinition

namespace TableDefinition

variable {d : TableDefinition} {r : Relationship}

theorem isName_tableName (d : TableDefinition) : IsName d.tableName := by
  simp only [tableName]
  split
  · decide
  · next h => exact isName_clean h

@[simp] theorem clean_tableName (d : TableDefinition) : clean d.tableName = d.tableName :=
  (isName_tableName d).clean_eq

/-! ### The relationships of a declaration -/

def inlinePairs (d : TableDefinition) : List Relationship :=
  d.columns.filterMap (·.inlineRelationship? d.tableName)

def writtenPairs (d : TableDefinition) : List Relationship := d.clausePairs ++ d.inlinePairs

theorem mem_inlinePairs :
    r ∈ d.inlinePairs ↔ ∃ x ∈ d.columns, x.inlineRelationship? d.tableName = some r :=
  List.mem_filterMap

theorem of_mem_clausePairs (h : r ∈ d.clausePairs) :
    r.WellFormed ∧ r.sourceTable = d.tableName ∧ ∃ clause ∈ d.foreignKeys,
      r.targetTable = clean clause.referencesTable ∧
        ∃ column ∈ clause.columns, r.sourceColumn = clean column := by
  obtain ⟨clause, hclause, hr⟩ := List.mem_flatMap.mp h
  obtain ⟨hwf, hst, htt, hsc⟩ := ForeignKeyClause.of_mem_relationships hr
  exact ⟨hwf, hst.trans (clean_tableName d), clause, hclause, htt, hsc⟩

theorem of_mem_writtenPairs (h : r ∈ d.writtenPairs) :
    r.WellFormed ∧ r.sourceTable = d.tableName := by
  rcases List.mem_append.mp h with h | h
  · obtain ⟨hwf, hst, -⟩ := of_mem_clausePairs h
    exact ⟨hwf, hst⟩
  · obtain ⟨x, -, hx⟩ := mem_inlinePairs.mp h
    obtain ⟨hwf, hst, -⟩ := ColumnDefinition.of_inlineRelationship? hx
    exact ⟨hwf, hst.trans (clean_tableName d)⟩

theorem writtenPairs_eq_nil (hclauses : d.foreignKeys = [])
    (hinline : ∀ x ∈ d.columns, x.reference = none) : d.writtenPairs = [] := by
  rw [writtenPairs, clausePairs, hclauses, List.flatMap_nil, List.nil_append, inlinePairs,
    List.filterMap_eq_nil_iff]
  intro x hx
  rw [ColumnDefinition.inlineRelationship?, hinline x hx, Option.bind_none]

@[mk_iff] structure Legible (d : TableDefinition) : Prop where
  tableName : Dotless d.tableName
  columns : ∀ x ∈ d.columns, Arrowless (clean x.name)
  inline : ∀ x ∈ d.columns, ∀ clause ∈ x.reference, Dotless (clean clause.referencesTable)
  foreignKeys : ∀ clause ∈ d.foreignKeys, clause.Legible

instance (d : TableDefinition) : Decidable d.Legible :=
  decidable_of_iff _ (legible_iff d).symm

theorem Legible.of_mem_writtenPairs (hd : d.Legible) (h : r ∈ d.writtenPairs) : r.Legible := by
  have hst : Dotless r.sourceTable := (TableDefinition.of_mem_writtenPairs h).2 ▸ hd.tableName
  rcases List.mem_append.mp h with h | h
  · obtain ⟨-, -, clause, hclause, htt, column, hcolumn, hsc⟩ := of_mem_clausePairs h
    have hlegible := hd.foreignKeys clause hclause
    exact ⟨hst, hsc ▸ hlegible.columns column hcolumn, htt ▸ hlegible.referencesTable⟩
  · obtain ⟨x, hx, hr⟩ := mem_inlinePairs.mp h
    obtain ⟨-, -, hsc, clause, hclause, htt⟩ := ColumnDefinition.of_inlineRelationship? hr
    exact ⟨hst, hsc ▸ hd.columns x hx, htt ▸ hd.inline x hx clause hclause⟩

/-! ### The columns of a declaration -/

/-- What a column refers to: what is written next to it, else what the clauses say. -/
def reference? (d : TableDefinition) (x : ColumnDefinition) : Option ColumnReference :=
  match x.inlineRelationship? d.tableName with
  | some r => some r.target
  | none => clauseReference? d.clausePairs (clean x.name)

/-- The column with what it refers to, a foreign key if there is something. -/
def linkedColumn (d : TableDefinition) (x : ColumnDefinition) : Column :=
  { x.toColumn d.keyNames with
    isForeignKey := (d.reference? x).isSome
    references := d.reference? x }

theorem clauseReference?_eq_some {pairs : List Relationship} {column : String}
    {target : ColumnReference} (h : clauseReference? pairs column = some target) :
    ∃ r ∈ pairs, Text.lower r.sourceColumn = Text.lower column ∧ r.target = target := by
  obtain ⟨r, hr, htarget⟩ := Option.map_eq_some_iff.mp h
  have hname := List.find?_some hr
  exact ⟨r, List.mem_reverse.mp (List.mem_of_find?_eq_some hr), by simpa using hname, htarget⟩

theorem isSome_clauseReference? {pairs : List Relationship} {column : String} (hr : r ∈ pairs)
    (hname : Text.lower r.sourceColumn = Text.lower column) :
    (clauseReference? pairs column).isSome := by
  rw [clauseReference?, Option.isSome_map, List.find?_isSome]
  exact ⟨r, List.mem_reverse.mpr hr, by simpa using hname⟩

/-- No two columns of the declaration have the same clean name, case aside. -/
def ColumnsDistinct (d : TableDefinition) : Prop :=
  (d.columns.map fun x => Text.lower (clean x.name)).Nodup

instance (d : TableDefinition) : Decidable d.ColumnsDistinct :=
  inferInstanceAs (Decidable (List.Nodup _))

theorem exists_of_reference? {x : ColumnDefinition} (hx : x ∈ d.columns)
    {reference : ColumnReference} (h : d.reference? x = some reference) :
    ∃ r ∈ d.writtenPairs, Text.lower r.sourceColumn = Text.lower (clean x.name) ∧
      r.target = reference := by
  rw [reference?] at h
  cases hinline : x.inlineRelationship? d.tableName with
  | some r =>
      rw [hinline] at h
      obtain ⟨-, -, hsc, -⟩ := ColumnDefinition.of_inlineRelationship? hinline
      exact ⟨r, List.mem_append_right _ (mem_inlinePairs.mpr ⟨x, hx, hinline⟩), by rw [hsc],
        Option.some.inj h⟩
  | none =>
      rw [hinline] at h
      obtain ⟨r, hr, hsc, htarget⟩ := clauseReference?_eq_some h
      exact ⟨r, List.mem_append_left _ hr, hsc, htarget⟩

/-- A relationship written next to one column cannot start from another, whose name is not the
same. -/
theorem isSome_reference? (hd : d.ColumnsDistinct) {x : ColumnDefinition} (hx : x ∈ d.columns)
    (hr : r ∈ d.writtenPairs) (hname : Text.lower r.sourceColumn = Text.lower (clean x.name)) :
    (d.reference? x).isSome := by
  rw [reference?]
  cases hinline : x.inlineRelationship? d.tableName with
  | some q => rfl
  | none =>
      rcases List.mem_append.mp hr with hr | hr
      · exact isSome_clauseReference? hr hname
      · obtain ⟨y, hy, hyr⟩ := mem_inlinePairs.mp hr
        obtain ⟨-, -, hsc, -⟩ := ColumnDefinition.of_inlineRelationship? hyr
        have hyx : y = x := List.inj_on_of_nodup_map hd hy hx (by rw [← hsc, hname])
        rw [hyx, hinline] at hyr
        contradiction

/-- The relationships found up to a column, what is written next to it included. -/
def foundAt (d : TableDefinition) (x : ColumnDefinition) (found : List Relationship) :
    List Relationship := (x.inlineRelationship? d.tableName).elim found (appendUnique found)

theorem mem_foundAt {x : ColumnDefinition} {found : List Relationship}
    (h : r ∈ d.foundAt x found) :
    r ∈ found ∨ x.inlineRelationship? d.tableName = some r := by
  rw [foundAt] at h
  cases hx : x.inlineRelationship? d.tableName with
  | none => exact Or.inl (by simpa [hx] using h)
  | some q =>
      rw [hx] at h
      rcases mem_or_eq_of_mem_appendUnique h with h | rfl
      · exact Or.inl h
      · exact Or.inr rfl

theorem buildColumns_cons (d : TableDefinition) (x : ColumnDefinition)
    (rest : List ColumnDefinition) (found : List Relationship) :
    d.buildColumns (x :: rest) found =
      ({ x.toColumn d.keyNames with
          isForeignKey := (d.reference? x).isSome || (d.foundAt x found).any fun r =>
            Text.lower r.sourceColumn == Text.lower (clean x.name)
          references := d.reference? x } :: (d.buildColumns rest (d.foundAt x found)).1,
        (d.buildColumns rest (d.foundAt x found)).2) := rfl

theorem buildColumns_snd (d : TableDefinition) (xs : List ColumnDefinition)
    (found : List Relationship) :
    (d.buildColumns xs found).2 =
      (xs.filterMap (·.inlineRelationship? d.tableName)).foldl appendUnique found := by
  induction xs generalizing found with
  | nil => rfl
  | cons x rest ih =>
      rw [buildColumns_cons, ih, foundAt]
      cases h : x.inlineRelationship? d.tableName <;> simp [h]

theorem buildColumns_fst_skeleton (d : TableDefinition) (xs : List ColumnDefinition)
    (found : List Relationship) :
    (d.buildColumns xs found).1.map Column.skeleton = xs.map (·.toColumn d.keyNames) := by
  induction xs generalizing found with
  | nil => rfl
  | cons x rest ih =>
      rw [buildColumns_cons, List.map_cons, ih]
      rfl

theorem flagged_of_mem_buildColumns {xs : List ColumnDefinition} {found : List Relationship}
    {c : Column} (h : c ∈ (d.buildColumns xs found).1) (href : c.references.isSome) :
    c.isForeignKey := by
  induction xs generalizing found with
  | nil => simp [buildColumns] at h
  | cons x rest ih =>
      rw [buildColumns_cons] at h
      rcases List.mem_cons.mp h with rfl | h
      · simp only [Bool.or_eq_true]
        exact Or.inl href
      · exact ih h

/-- The relationships found so far flag a column only if it refers to something. What is written
next to earlier columns keeps this true, since it starts from other names. -/
theorem buildColumns_fst {xs : List ColumnDefinition} {found : List Relationship}
    (hdistinct : (xs.map fun x => Text.lower (clean x.name)).Nodup)
    (hfound : ∀ x ∈ xs, ∀ r ∈ found, Text.lower r.sourceColumn = Text.lower (clean x.name) →
      (d.reference? x).isSome) :
    (d.buildColumns xs found).1 = xs.map d.linkedColumn := by
  induction xs generalizing found with
  | nil => rfl
  | cons x rest ih =>
      rw [List.map_cons, List.nodup_cons] at hdistinct
      have hflag : ((d.foundAt x found).any fun r =>
          Text.lower r.sourceColumn == Text.lower (clean x.name)) = true →
          (d.reference? x).isSome = true := by
        intro hany
        obtain ⟨r, hr, hname⟩ := List.any_eq_true.mp hany
        rcases mem_foundAt hr with hr | hr
        · exact hfound x List.mem_cons_self r hr (by simpa using hname)
        · simp [reference?, hr]
      -- the rest is built with one more relationship, which starts from this column only
      have hrest : (d.buildColumns rest (d.foundAt x found)).1 = rest.map d.linkedColumn := by
        refine ih hdistinct.2 fun y hy r hr hname => ?_
        rcases mem_foundAt hr with hr | hr
        · exact hfound y (List.mem_cons_of_mem x hy) r hr hname
        · rw [(ColumnDefinition.of_inlineRelationship? hr).2.2.1] at hname
          exact (hdistinct.1 (List.mem_map.mpr ⟨y, hy, hname.symm⟩)).elim
      rw [buildColumns_cons, hrest, Bool.or_eq_left_iff_imp.mpr hflag]
      rfl

/-! ### The declared table -/

theorem build_eq (d : TableDefinition) :
    d.build =
      (⟨d.tableName, d.tableName,
          (d.buildColumns d.columns (d.clausePairs.foldl appendUnique [])).1⟩,
        (d.buildColumns d.columns (d.clausePairs.foldl appendUnique [])).2) := rfl

@[simp] theorem build_fst_name (d : TableDefinition) : d.build.1.name = d.tableName := by
  rw [build_eq]

@[simp] theorem build_fst_id (d : TableDefinition) : d.build.1.id = d.tableName := by
  rw [build_eq]

theorem build_fst_skeleton (d : TableDefinition) :
    d.build.1.skeleton = ⟨d.tableName, d.tableName, d.columns.map (·.toColumn d.keyNames)⟩ := by
  rw [build_eq, Table.skeleton, buildColumns_fst_skeleton]

theorem build_snd (d : TableDefinition) : d.build.2 = d.writtenPairs.foldl appendUnique [] := by
  rw [build_eq, buildColumns_snd, writtenPairs, List.foldl_append, inlinePairs]

theorem of_mem_build_snd (h : r ∈ d.build.2) : r.WellFormed ∧ r.sourceTable = d.tableName := by
  rw [build_snd] at h
  exact of_mem_writtenPairs ((mem_or_mem_of_mem_foldl h).resolve_left List.not_mem_nil)

theorem build_fst (hd : d.ColumnsDistinct) :
    d.build.1 = ⟨d.tableName, d.tableName, d.columns.map d.linkedColumn⟩ := by
  rw [build_eq, buildColumns_fst hd]
  intro x _ r hr hname
  rw [reference?]
  cases x.inlineRelationship? d.tableName with
  | some q => rfl
  | none =>
      have hr := (mem_or_mem_of_mem_foldl hr).resolve_left List.not_mem_nil
      exact isSome_clauseReference? hr hname

theorem flagged_of_mem_build {c : Column} (h : c ∈ d.build.1.columns)
    (href : c.references.isSome) : c.isForeignKey := flagged_of_mem_buildColumns h href

end TableDefinition

end EntityMap
