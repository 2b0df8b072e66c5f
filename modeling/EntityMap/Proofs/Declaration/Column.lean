import EntityMap.Proofs.Declaration.Table

/-!
What a declaration makes of each of its columns, given by position. The pairs of the declaration are
those of its clauses, then those written next to columns. Of two pairs with the same id the first is
kept; of two clauses for the same column the last says what the column refers to, and what is
written next to the column goes before both. `TableDefinition.build_makes` puts this together, also
for columns that share a name, for lists that differ in length and for names that are empty.
-/

namespace EntityMap

open Identifier Relationship

/-- The pair written next to a column: the column and the first referenced one, unless a name in it
is empty. -/
def ColumnDefinition.pair? (table : String) (x : ColumnDefinition) : Option Relationship := do
  let clause ← x.reference
  let target ← clause.referencesColumns.head?
  let r := between table (clean x.name) (clean clause.referencesTable) (clean target)
  if r.sourceColumn ≠ "" ∧ r.targetTable ≠ "" ∧ r.targetColumn ≠ "" then some r else none

/-- Only the first referenced column has a partner, since there is one column to pair it with. -/
theorem ColumnDefinition.inlineRelationship?_eq_pair? {table : String} (htable : IsName table)
    (x : ColumnDefinition) : x.inlineRelationship? table = x.pair? table := by
  have hnames (referenced target : String) : ofNames? table (clean x.name) referenced target =
      let r := between table (clean x.name) (clean referenced) (clean target)
      if r.sourceColumn ≠ "" ∧ r.targetTable ≠ "" ∧ r.targetColumn ≠ "" then some r else none := by
    simp only [ofNames?, between, clean_clean, htable.clean_eq, ne_eq, htable.ne_empty,
      not_false_eq_true, true_and]
    congr
  rw [inlineRelationship?, pair?]
  cases x.reference with
  | none => rfl
  | some clause =>
      rw [Option.bind_some, Option.bind_eq_bind, Option.bind_some]
      dsimp only [ForeignKeyClause.relationships]
      cases clause.referencesColumns with
      | nil => rfl
      | cons target targets =>
          rw [List.zip_cons_cons, List.zip_nil_left, List.head?_filterMap,
            List.findSome?_singleton, hnames]
          simp only [List.head?_cons, Option.bind_eq_bind, Option.bind_some]

namespace TableDefinition

variable {d : TableDefinition} {x : ColumnDefinition}

/-- The pairs of the clauses, followed by those written next to the first columns. -/
def pairsTo (d : TableDefinition) (n : Nat) : List Relationship :=
  d.clausePairs ++ (d.columns.take n).filterMap (·.pair? d.tableName)

/-- The last pair of the clauses that starts from a column of this name, case aside. -/
def lastClausePair? (d : TableDefinition) (column : String) : Option Relationship :=
  (d.clausePairs.filter fun r => Text.lower r.sourceColumn = Text.lower column).getLast?

/-- The column is what the declaration makes of the definition at a position. -/
structure Makes (d : TableDefinition) (k : Nat) (x : ColumnDefinition) (c : Column) : Prop where
  name : c.name = clean x.name
  type : c.type = x.type
  isUnique : c.isUnique = x.unique
  defaultValue : c.defaultValue = x.defaultValue
  isPrimaryKey : c.isPrimaryKey ↔ x.primaryKey ∨ x.autoIncrement ∨
    ∃ key ∈ d.primaryKeys, Text.lower (clean key) = Text.lower c.name
  isNotNull : c.isNotNull ↔ x.notNull ∨ c.isPrimaryKey
  references : c.references =
    ((x.pair? d.tableName).or (d.lastClausePair? c.name)).map (·.target)
  isForeignKey : c.isForeignKey ↔ c.references.isSome ∨
    ∃ r ∈ firsts (d.pairsTo (k + 1)), Text.lower r.sourceColumn = Text.lower c.name

/-- The column for a definition, given all relationships found up to it. -/
def columnWith (d : TableDefinition) (found : List Relationship) (x : ColumnDefinition) : Column :=
  { x.toColumn d.keyNames with
    isForeignKey := (d.reference? x).isSome ||
      found.any fun r => Text.lower r.sourceColumn == Text.lower (clean x.name)
    references := d.reference? x }

@[simp] theorem columnWith_name (d : TableDefinition) (found : List Relationship)
    (x : ColumnDefinition) : (d.columnWith found x).name = clean x.name := rfl

@[simp] theorem columnWith_references (d : TableDefinition) (found : List Relationship)
    (x : ColumnDefinition) : (d.columnWith found x).references = d.reference? x := rfl

/-- A column knows what the earlier ones have added to the relationships found at first. -/
theorem getElem?_buildColumns (d : TableDefinition) (xs : List ColumnDefinition)
    (found : List Relationship) (k : Nat) :
    (d.buildColumns xs found).1[k]? = xs[k]?.map (d.columnWith
      (((xs.take (k + 1)).filterMap (·.inlineRelationship? d.tableName)).foldl appendUnique
        found)) := by
  induction xs generalizing found k with
  | nil => rfl
  | cons x rest ih =>
      have hfound : d.foundAt x found =
          ([x].filterMap (·.inlineRelationship? d.tableName)).foldl appendUnique found := by
        rw [foundAt]
        cases h : x.inlineRelationship? d.tableName <;> simp [h]
      rw [buildColumns_cons, hfound]
      cases k with
      | zero => rfl
      | succ k =>
          rw [List.getElem?_cons_succ, List.getElem?_cons_succ, ih, ← List.foldl_append,
            ← List.filterMap_append]
          rfl

theorem inlinePairs_eq (d : TableDefinition) (xs : List ColumnDefinition) :
    xs.filterMap (·.inlineRelationship? d.tableName) = xs.filterMap (·.pair? d.tableName) :=
  List.filterMap_congr fun x _ => x.inlineRelationship?_eq_pair? (isName_tableName d)

theorem reference?_eq (d : TableDefinition) (x : ColumnDefinition) : d.reference? x =
    ((x.pair? d.tableName).or (d.lastClausePair? (clean x.name))).map (·.target) := by
  rw [reference?, x.inlineRelationship?_eq_pair? (isName_tableName d)]
  cases x.pair? d.tableName with
  | some r => rfl
  | none =>
      rw [clauseReference?, lastClausePair?, Option.none_or, List.getLast?_filter]
      rfl

theorem makes_columnWith (d : TableDefinition) (k : Nat) (x : ColumnDefinition) :
    d.Makes k x (d.columnWith (firsts (d.pairsTo (k + 1))) x) := by
  generalize hfound : firsts (d.pairsTo (k + 1)) = found
  constructor
  case name | type | isUnique | defaultValue => rfl
  case isPrimaryKey =>
    simp only [columnWith, ColumnDefinition.toColumn, keyNames, Bool.or_eq_true,
      List.contains_iff_mem, List.mem_map]
    exact or_comm.trans (or_congr_right or_comm)
  case isNotNull => simp only [columnWith, ColumnDefinition.toColumn, Bool.or_eq_true]
  case references => rw [columnWith_references, columnWith_name, reference?_eq]
  case isForeignKey =>
    simp only [columnWith, ColumnDefinition.toColumn, hfound, Bool.or_eq_true, List.any_eq_true,
      beq_iff_eq]

theorem getElem?_columns_build (d : TableDefinition) (k : Nat) : d.build.1.columns[k]? =
    d.columns[k]?.map (d.columnWith (firsts (d.pairsTo (k + 1)))) := by
  rw [build_eq, getElem?_buildColumns, inlinePairs_eq, ← List.foldl_append, foldl_appendUnique_nil]
  rfl

/-- The declared table has a column for each definition, in their order, and each is what the
declaration makes of it. Of all pairs, the first of each id is kept, in their order. -/
theorem build_makes (d : TableDefinition) :
    d.build.1.id = d.tableName ∧ d.build.1.name = d.tableName ∧
    (∀ k : Nat, Option.Rel (d.Makes k) d.columns[k]? d.build.1.columns[k]?) ∧
    d.build.2 = firsts (d.pairsTo d.columns.length) := by
  refine ⟨d.build_fst_id, d.build_fst_name, fun k => ?_, ?_⟩
  · rw [getElem?_columns_build]
    cases d.columns[k]? with
    | none => exact .none
    | some x => exact .some (d.makes_columnWith k x)
  · rw [build_snd, foldl_appendUnique_nil, writtenPairs, pairsTo, List.take_length, inlinePairs,
      inlinePairs_eq]

/-- The pair next to the first column has the id of the clause's pair and is not kept, so the second
column is no foreign key. -/
example : (build ⟨some "t", [{ ColumnDefinition.named "a->b.c" with
        reference := some ⟨[], "u", ["w"]⟩ }, .named "a->b.c"], [],
      [⟨["a"], "b", ["c->u.w"]⟩]⟩).1.columns.map (·.isForeignKey) = [true, false] := by
  decide +kernel

end TableDefinition

end EntityMap
