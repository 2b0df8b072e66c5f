import EntityMap.Proofs.Build
import EntityMap.Proofs.Declaration.ForeignKey

/-!
Statements made from a schema. `Schema.statements` declares each table again and adds each
relationship by an alteration. `Schema.build_statements` says that these statements build the same
tables, foreign keys aside, and the same relationships, if every relationship is found under its
names; then it does not matter whether it was declared, added later or inferred.
-/

namespace EntityMap

open Identifier Relationship Statement

/-- The declaration of the column. A column of the primary key is not declared as not nullable. -/
def Column.definition (c : Column) : ColumnDefinition where
  name := c.name
  type := c.type
  primaryKey := false
  autoIncrement := false
  notNull := c.isNotNull && !c.isPrimaryKey
  unique := c.isUnique
  defaultValue := c.defaultValue
  reference := none

def Table.definition (t : Table) : TableDefinition where
  name := some t.name
  columns := t.columns.map (·.definition)
  primaryKeys := t.primaryKeyColumns.map (·.name)
  foreignKeys := []

def Schema.statements (s : Schema) : List Statement :=
  (s.tables.map (·.definition)).map Statement.createTable ++ s.additions

/-! ### Declaring a table again -/

theorem Column.toColumn_definition {c : Column} (hc : c.WellFormed) {keys : List String}
    (hkey : keys.contains (Text.lower c.name) = c.isPrimaryKey) :
    c.definition.toColumn keys = c.skeleton := by
  have hnull : (c.isNotNull && !c.isPrimaryKey || c.isPrimaryKey) = c.isNotNull := by
    have h := hc.notNull
    cases hp : c.isPrimaryKey with
    | false => simp
    | true => simpa [hp] using h
  simp only [ColumnDefinition.toColumn, definition, hc.name, hkey, Bool.or_false, hnull]
  rfl

namespace Table

variable {t : Table}

theorem tableName_definition (ht : t.WellFormed) : t.definition.tableName = t.name := by
  have hname : clean (t.definition.name.getD "") = t.name := ht.name.clean_eq
  rw [TableDefinition.tableName, hname, if_neg ht.name.ne_empty]

/-- The key of the declared table has just the columns that had been in the key. -/
theorem contains_keyNames_definition (ht : t.WellFormed) (hdistinct : t.ColumnsDistinct)
    {c : Column} (hc : c ∈ t.columns) :
    t.definition.keyNames.contains (Text.lower c.name) = c.isPrimaryKey := by
  have hkeys : t.definition.keyNames = t.primaryKeyColumns.map fun k => Text.lower k.name := by
    rw [TableDefinition.keyNames, definition, List.map_map]
    refine List.map_congr_left fun k hk => ?_
    rw [Function.comp, (ht.columns k (List.mem_filter.mp hk).1).name]
  rw [hkeys, Bool.eq_iff_iff, List.contains_iff_mem, List.mem_map]
  constructor
  · rintro ⟨k, hk, hname⟩
    obtain ⟨hmem, hkey⟩ := List.mem_filter.mp hk
    exact hdistinct.eq_of_lower_eq hmem hc hname ▸ hkey
  · exact fun hkey => ⟨c, List.mem_filter.mpr ⟨hc, hkey⟩, rfl⟩

theorem skeleton_build_definition (ht : t.WellFormed) (hdistinct : t.ColumnsDistinct) :
    t.definition.build.1.skeleton = t.skeleton := by
  have hcolumns : t.definition.columns.map (·.toColumn t.definition.keyNames) =
      t.columns.map Column.skeleton := by
    rw [definition, List.map_map]
    refine List.map_congr_left fun c hc => ?_
    exact Column.toColumn_definition (ht.columns c hc)
      (contains_keyNames_definition ht hdistinct hc)
  rw [TableDefinition.build_fst_skeleton, tableName_definition ht, hcolumns, skeleton, ht.id_eq]

theorem writtenPairs_definition (t : Table) : t.definition.writtenPairs = [] := by
  refine TableDefinition.writtenPairs_eq_nil rfl fun x hx => ?_
  obtain ⟨c, -, rfl⟩ := List.mem_map.mp hx
  rfl

end Table

/-! ### Building a schema again -/

namespace Schema

variable {s : Schema}

theorem definitions_statements (s : Schema) :
    definitions s.statements = s.tables.map (·.definition) := by
  rw [statements, definitions_append, definitions_map_createTable, additions,
    definitions_map_alterTable, List.append_nil]

theorem alterations_statements (s : Schema) :
    alterations s.statements = s.relationships.map (·.foreignKey.alteration) := by
  rw [statements, alterations_append, alterations_map_createTable, additions,
    alterations_map_alterTable, List.nil_append]

/-- The tables of a schema, declared again: the skeleton is there, and no relationship. -/
theorem foldl_declareTable_definitions (hs : s.WellFormed)
    (hcolumns : ∀ t ∈ s.tables, t.ColumnsDistinct) :
    ((s.tables.map (·.definition)).foldl declareTable empty).skeleton = s.skeleton ∧
      ((s.tables.map (·.definition)).foldl declareTable empty).relationships = [] := by
  have hnames : (s.tables.map (·.definition)).map (·.tableName) = s.tables.map (·.name) := by
    rw [List.map_map]
    refine List.map_congr_left fun t ht => ?_
    rw [Function.comp, Table.tableName_definition (hs.tables t ht)]
  have hnone : (s.tables.map (·.definition)).flatMap (·.writtenPairs) = [] := by
    rw [List.flatMap_map]
    exact List.flatMap_eq_nil_iff.mpr fun t _ => t.writtenPairs_definition
  rw [foldl_declareTable_empty (hnames ▸ hs.names_nodup), hnone]
  refine ⟨?_, rfl⟩
  rw [skeleton, skeleton, List.map_map, List.map_map]
  exact List.map_congr_left fun t ht =>
    Table.skeleton_build_definition (hs.tables t ht) (hcolumns t ht)

/-- The statements of a schema build it again before inference, marks and references aside. -/
theorem declared_statements (hs : s.WellFormed) (hcolumns : ∀ t ∈ s.tables, t.ColumnsDistinct)
    (hresolves : ∀ r ∈ s.relationships, s.Resolves r) :
    (declared s.statements).skeleton = s.skeleton ∧
      (declared s.statements).relationships = s.relationships := by
  obtain ⟨hskel, hrels⟩ := foldl_declareTable_definitions hs hcolumns
  rw [declared, definitions_statements, alterations_statements]
  generalize hd : (s.tables.map (·.definition)).foldl declareTable empty = d at hskel hrels
  have hwf : d.WellFormed := hd ▸ WellFormed.empty.foldl_declareTable _
  have hdistinct : d.Distinct :=
    Distinct.of_skeleton_eq ⟨hs.names_nodup, hcolumns⟩ hskel.symm
  have hlinked : (s.relationships.map (·.foreignKey.alteration)).foldl alterTable d =
      s.relationships.foldl (link false) d :=
    foldl_alterTable_of_resolves hwf hdistinct fun r hr =>
      ⟨hs.relationships r hr, (hresolves r hr).of_skeleton_eq hskel.symm⟩
  rw [hlinked, skeleton_foldl_link, relationships_foldl_link, hrels]
  exact ⟨hskel, foldl_appendUnique_of_nodup (by simpa using hs.ids_nodup)⟩

/-- The statements of a schema that was built from some statements build the same tables in the
same order, marks and references aside, and the same relationships in the same order. If there are
none, there was nothing to infer, and so there is nothing again. -/
theorem build_statements_build {statements : List Statement}
    (hcolumns : ∀ t ∈ (build statements).tables, t.ColumnsDistinct)
    (hresolves : ∀ r ∈ (build statements).relationships, (build statements).Resolves r) :
    (build (build statements).statements).skeleton = (build statements).skeleton ∧
      (build (build statements).statements).relationships = (build statements).relationships := by
  obtain ⟨hskel, hrels⟩ := declared_statements (wellFormed_build statements) hcolumns hresolves
  rw [build_eq_infer_declared (build statements).statements, skeleton_infer]
  refine ⟨hskel, ?_⟩
  by_cases hnone : (build statements).relationships = []
  -- inference has found nothing at first, and it looks at the skeleton only
  · rw [hnone]
    refine relationships_infer_eq_nil_of_skeleton_eq (s := declared statements) ?_
      (hrels.trans hnone) (build_eq_infer_declared statements ▸ hnone)
    rw [hskel, build_eq_infer_declared, skeleton_infer]
  · rw [infer_of_ne_nil (by rwa [hrels]), hrels]

def lending : List Statement :=
  let author : ColumnDefinition :=
    { ColumnDefinition.named "author_id" with
      notNull := true
      reference := some ⟨[], "authors", ["ID"]⟩ }
  let isbn : ColumnDefinition :=
    { ColumnDefinition.named "isbn" with unique := true, defaultValue := some "''" }
  [.createTable ⟨some "authors", [{ ColumnDefinition.named "ID" with autoIncrement := true }],
      [], []⟩,
    .alterTable ⟨some "Loans", [⟨["BOOK_ID"], "books", ["shelf"]⟩]⟩,
    .createTable ⟨some "books", [isbn, author], ["ISBN"], []⟩,
    .createTable ⟨some "loans", [{ ColumnDefinition.named "book_id" with primaryKey := true }],
      [], []⟩]

theorem build_statements_build_lending :
    (∀ t ∈ (build lending).tables, t.ColumnsDistinct) ∧
      (∀ r ∈ (build lending).relationships, (build lending).Resolves r) ∧
      (build (build lending).statements).skeleton = (build lending).skeleton ∧
      (build (build lending).statements).relationships = (build lending).relationships := by
  have hcolumns : ∀ t ∈ (build lending).tables, t.ColumnsDistinct := by decide +kernel
  have hresolves : ∀ r ∈ (build lending).relationships, (build lending).Resolves r := by
    decide +kernel
  exact ⟨hcolumns, hresolves, build_statements_build hcolumns hresolves⟩

end Schema

end EntityMap
