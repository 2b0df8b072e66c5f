import Mathlib.Data.List.Forall2
import EntityMap.Proofs.Identifier
import EntityMap.Proofs.Sql.Column

/-!
What the commands of a script become. All names come out clean, and where a name is needed it is not
empty: a foreign key to a table without a name is left out, and so are the columns without one in
the list of a key. `statements_normal` says this of every script.
-/

namespace EntityMap

open Identifier

/-! ### Clean statements -/

/-- All names in the clause are clean and not empty. -/
structure ForeignKeyClause.Normal (clause : ForeignKeyClause) : Prop where
  columns : ∀ name ∈ clause.columns, IsName name
  referencesTable : IsName clause.referencesTable
  referencesColumns : ∀ name ∈ clause.referencesColumns, IsName name

/-- The name of the column is clean. A reference next to it is about this column alone, and what it
refers to has clean names that are not empty. -/
structure ColumnDefinition.Normal (d : ColumnDefinition) : Prop where
  name : clean d.name = d.name
  reference : ∀ clause ∈ d.reference, clause.columns = [d.name] ∧
    IsName clause.referencesTable ∧ ∀ name ∈ clause.referencesColumns, IsName name

/-- All names in the declaration are clean, and none is empty but perhaps the names of columns. -/
structure TableDefinition.Normal (d : TableDefinition) : Prop where
  name : ∀ name ∈ d.name, IsName name
  columns : ∀ column ∈ d.columns, column.Normal
  primaryKeys : ∀ name ∈ d.primaryKeys, IsName name
  foreignKeys : ∀ clause ∈ d.foreignKeys, clause.Normal

structure TableAlteration.Normal (a : TableAlteration) : Prop where
  name : ∀ name ∈ a.name, IsName name
  foreignKeys : ∀ clause ∈ a.foreignKeys, clause.Normal

/-- All names in the statement are clean, and not empty where one is needed. -/
def Statement.Normal : Statement → Prop
  | createTable d => d.Normal
  | alterTable a => a.Normal
  | other _ => True

namespace Sql

/-! ### Names and references -/

theorem isName_of_mem_columnLabels {columns : List Expr} {name : String}
    (h : name ∈ columnLabels columns) : IsName name := by
  obtain ⟨hmem, hne⟩ := List.mem_filter.mp h
  obtain ⟨label, -, rfl⟩ := List.mem_map.mp hmem
  exact isName_clean (by simpa using hne)

theorem TableName.clean?_eq_some_iff {t : TableName} {name : String} :
    t.clean? = some name ↔ clean t.label ≠ "" ∧ clean t.label = name := by
  simp only [clean?, Option.ite_none_left_eq_some, Option.some.injEq, ne_eq]

theorem TableName.isName_of_clean? {t : TableName} {name : String} (h : t.clean? = some name) :
    IsName name := by
  obtain ⟨hne, hname⟩ := clean?_eq_some_iff.mp h
  exact hname ▸ isName_clean hne

theorem Reference.clause?_eq_some_iff {columns : List String} {r : Reference}
    {clause : ForeignKeyClause} :
    r.clause? columns = some clause ↔ clean r.table.label ≠ "" ∧
      ⟨columns, clean r.table.label, columnLabels r.columns⟩ = clause := by
  rw [clause?, Option.map_eq_some_iff]
  constructor
  · rintro ⟨table, htable, hclause⟩
    obtain ⟨hne, he⟩ := TableName.clean?_eq_some_iff.mp htable
    exact ⟨hne, he ▸ hclause⟩
  · rintro ⟨hne, hclause⟩
    exact ⟨_, TableName.clean?_eq_some_iff.mpr ⟨hne, rfl⟩, hclause⟩

theorem Reference.normal_of_clause? {columns : List String} {r : Reference}
    {clause : ForeignKeyClause} (h : r.clause? columns = some clause)
    (hcolumns : ∀ name ∈ columns, IsName name) : clause.Normal := by
  obtain ⟨hne, hclause⟩ := clause?_eq_some_iff.mp h
  rw [← hclause]
  exact ⟨hcolumns, isName_clean hne, fun _ => isName_of_mem_columnLabels⟩

theorem Constraint.normal_of_clause? {c : Constraint} {clause : ForeignKeyClause}
    (h : c.clause? = some clause) : clause.Normal := by
  cases c with
  | foreignKey columns reference =>
      obtain ⟨r, rfl, hr⟩ := Option.bind_eq_some_iff.mp h
      exact r.normal_of_clause? hr fun _ => isName_of_mem_columnLabels
  | _ => cases h

theorem Constraint.isName_of_mem_keyColumns {c : Constraint} {name : String}
    (h : name ∈ c.keyColumns) : IsName name := by
  cases c with
  | primaryKeyOf columns => exact isName_of_mem_columnLabels h
  | _ => cases h

/-! ### Tables -/

theorem ColumnDeclaration.normal_definition (dialect : Dialect) (c : ColumnDeclaration) :
    (c.definition dialect).Normal := by
  rw [definition_eq]
  refine ⟨clean_clean _, fun clause hclause => ?_⟩
  -- the reference comes from one of the constraints, and gets the name of the column
  obtain ⟨r, -, hr⟩ := Option.bind_eq_some_iff.mp hclause
  obtain ⟨hne, rfl⟩ := Reference.clause?_eq_some_iff.mp hr
  exact ⟨rfl, isName_clean hne, fun _ => isName_of_mem_columnLabels⟩

def TableElement.declaration? : TableElement → Option ColumnDeclaration
  | column declaration => some declaration
  | _ => none

def TableDeclaration.columns (t : TableDeclaration) : List ColumnDeclaration :=
  (t.elements.getD []).filterMap (·.declaration?)

theorem TableDeclaration.name_definition (dialect : Dialect) (t : TableDeclaration) :
    (t.definition dialect).name = t.name.clean? := by
  simp only [definition]

theorem TableDeclaration.columns_definition (dialect : Dialect) (t : TableDeclaration) :
    (t.definition dialect).columns = t.columns.map (·.definition dialect) := by
  rw [definition, columns, List.map_filterMap]
  refine List.filterMap_congr fun element _ => ?_
  cases element <;> rfl

theorem TableDeclaration.normal_definition (dialect : Dialect) (t : TableDeclaration) :
    (t.definition dialect).Normal := by
  refine ⟨fun name hname => ?_, fun column hcolumn => ?_, fun name hname => ?_,
    fun clause hclause => ?_⟩
  · rw [name_definition] at hname
    exact t.name.isName_of_clean? hname
  · rw [columns_definition] at hcolumn
    obtain ⟨c, -, rfl⟩ := List.mem_map.mp hcolumn
    exact c.normal_definition dialect
  · obtain ⟨c, -, hc⟩ := List.mem_flatMap.mp hname
    exact c.isName_of_mem_keyColumns hc
  · obtain ⟨c, -, hc⟩ := List.mem_filterMap.mp hclause
    exact c.normal_of_clause? hc

/-! ### Statements -/

/-- The statement is of the kind of the command. If it declares a table, its columns are those of
the list, in their order. -/
def Command.Becomes (dialect : Dialect) : Command → Statement → Prop
  | createTable t, .createTable d => d.columns = t.columns.map (·.definition dialect)
  | alterTable _ _, .alterTable _ => True
  | other kind, .other kind' => kind' = kind
  | _, _ => False

theorem Command.becomes_statement (dialect : Dialect) (c : Command) :
    c.Becomes dialect (c.statement dialect) := by
  cases c with
  | createTable t => exact t.columns_definition dialect
  | alterTable _ _ => exact trivial
  | other kind => rfl

theorem Command.normal_statement (dialect : Dialect) (c : Command) :
    (c.statement dialect).Normal := by
  cases c with
  | createTable t => exact t.normal_definition dialect
  | alterTable name actions =>
      constructor
      · intro n hn
        dsimp only at hn
        exact name.isName_of_clean? hn
      · intro clause hclause
        obtain ⟨c, -, hc⟩ := List.mem_filterMap.mp hclause
        exact c.normal_of_clause? hc
  | other _ => exact trivial

/-- Every command of a script becomes one statement, in their order, with clean names only. The name
of a table is missing rather than empty; keys and the columns and tables of foreign keys always have
names; a reference next to a column is about this column; and a table has just the columns in the
list that declares it, in their order. -/
theorem statements_normal (dialect : Dialect) (commands : List Command) :
    List.Forall₂ (fun command statement => command.Becomes dialect statement ∧ statement.Normal)
      commands (statements dialect commands) := by
  rw [statements, List.forall₂_map_right_iff, List.forall₂_same]
  exact fun c _ => ⟨c.becomes_statement dialect, c.normal_statement dialect⟩

end Sql

end EntityMap
