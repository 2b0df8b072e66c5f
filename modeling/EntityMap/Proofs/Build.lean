import EntityMap.Proofs.Declaration.Alteration
import EntityMap.Proofs.Inference.Relationship

/-!
The stages of building a schema. Declaring takes the declarations of a script in their order,
altering its alterations; everything else is passed over. Whatever the statements are, the schema
is well-formed after each stage.
-/

namespace EntityMap

namespace Statement

def definition? : Statement → Option TableDefinition
  | createTable d => some d
  | _ => none

def alteration? : Statement → Option TableAlteration
  | alterTable a => some a
  | _ => none

def definitions (statements : List Statement) : List TableDefinition :=
  statements.filterMap definition?

def alterations (statements : List Statement) : List TableAlteration :=
  statements.filterMap alteration?

theorem mem_definitions {statements : List Statement} {d : TableDefinition} :
    d ∈ definitions statements ↔ createTable d ∈ statements := by
  rw [definitions, List.mem_filterMap]
  constructor
  · rintro ⟨statement, hmem, hstatement⟩
    cases statement with
    | createTable x => exact Option.some.inj hstatement ▸ hmem
    | _ => cases hstatement
  · exact fun hmem => ⟨createTable d, hmem, rfl⟩

theorem mem_alterations {statements : List Statement} {a : TableAlteration} :
    a ∈ alterations statements ↔ alterTable a ∈ statements := by
  rw [alterations, List.mem_filterMap]
  constructor
  · rintro ⟨statement, hmem, hstatement⟩
    cases statement with
    | alterTable x => exact Option.some.inj hstatement ▸ hmem
    | _ => cases hstatement
  · exact fun hmem => ⟨alterTable a, hmem, rfl⟩

@[simp] theorem definitions_append (xs ys : List Statement) :
    definitions (xs ++ ys) = definitions xs ++ definitions ys := List.filterMap_append

@[simp] theorem alterations_append (xs ys : List Statement) :
    alterations (xs ++ ys) = alterations xs ++ alterations ys := List.filterMap_append

@[simp] theorem definitions_map_createTable (ds : List TableDefinition) :
    definitions (ds.map createTable) = ds := by
  rw [definitions, List.filterMap_map]
  exact List.filterMap_some

@[simp] theorem alterations_map_createTable (ds : List TableDefinition) :
    alterations (ds.map createTable) = [] := by
  rw [alterations, List.filterMap_map]
  exact List.filterMap_eq_nil_iff.mpr fun _ _ => rfl

@[simp] theorem definitions_map_alterTable (as : List TableAlteration) :
    definitions (as.map alterTable) = [] := by
  rw [definitions, List.filterMap_map]
  exact List.filterMap_eq_nil_iff.mpr fun _ _ => rfl

@[simp] theorem alterations_map_alterTable (as : List TableAlteration) :
    alterations (as.map alterTable) = as := by
  rw [alterations, List.filterMap_map]
  exact List.filterMap_some

end Statement

namespace Relationship

theorem foldl_appendUnique_assoc (rs ps qs : List Relationship) :
    (qs.foldl appendUnique ps).foldl appendUnique rs =
      qs.foldl appendUnique (ps.foldl appendUnique rs) := by
  induction qs generalizing ps with
  | nil => rfl
  | cons q qs ih =>
      rw [List.foldl_cons, ih, List.foldl_cons]
      congr 1
      by_cases h : q.id ∈ ids ps
      · rw [appendUnique_of_mem h, appendUnique_of_mem (mem_ids_foldl.mpr (Or.inr h))]
      · rw [appendUnique_of_notMem h, List.foldl_append]
        rfl

end Relationship

namespace Schema

open Identifier Statement Relationship

variable {s : Schema} {statements : List Statement}

theorem declare_eq_foldl (s : Schema) (statements : List Statement) :
    s.declare statements = (definitions statements).foldl declareTable s := by
  rw [definitions, List.foldl_filterMap, declare]
  congr 1
  funext s statement
  cases statement <;> rfl

theorem alter_eq_foldl (s : Schema) (statements : List Statement) :
    s.alter statements = (alterations statements).foldl alterTable s := by
  rw [alterations, List.foldl_filterMap, alter]
  congr 1
  funext s statement
  cases statement <;> rfl

/-- The schema of some statements before inference. -/
def declared (statements : List Statement) : Schema :=
  (alterations statements).foldl alterTable ((definitions statements).foldl declareTable empty)

theorem build_eq_infer_declared (statements : List Statement) :
    build statements = (declared statements).infer := by
  rw [build, declare_eq_foldl, alter_eq_foldl]
  rfl

theorem declared_append_alterTable (statements : List Statement) (as : List TableAlteration) :
    declared (statements ++ as.map Statement.alterTable) =
      as.foldl alterTable (declared statements) := by
  rw [declared, alterations_append, alterations_map_alterTable, List.foldl_append,
    definitions_append, definitions_map_alterTable, List.append_nil, declared]

theorem skeleton_foldl_alterTable (s : Schema) (as : List TableAlteration) :
    (as.foldl alterTable s).skeleton = s.skeleton := skeleton_foldl skeleton_alterTable s as

theorem WellFormed.foldl_declareTable (hs : s.WellFormed) (ds : List TableDefinition) :
    (ds.foldl Schema.declareTable s).WellFormed := by
  induction ds generalizing s with
  | nil => exact hs
  | cons d ds ih => exact ih (hs.declareTable d)

theorem WellFormed.foldl_alterTable (hs : s.WellFormed) (as : List TableAlteration) :
    (as.foldl Schema.alterTable s).WellFormed := by
  induction as generalizing s with
  | nil => exact hs
  | cons a as ih => exact ih (hs.alterTable a)

theorem wellFormed_declared (statements : List Statement) : (declared statements).WellFormed :=
  (WellFormed.empty.foldl_declareTable _).foldl_alterTable _

theorem wellFormed_build (statements : List Statement) : (build statements).WellFormed := by
  rw [build_eq_infer_declared]
  exact (wellFormed_declared statements).infer

theorem names_build (statements : List Statement) : (build statements).tables.map (·.name) =
    ((definitions statements).foldl declareTable empty).tables.map (·.name) := by
  rw [build_eq_infer_declared]
  refine names_eq_of_skeleton_eq ?_
  rw [skeleton_infer, declared, skeleton_foldl_alterTable]

/-- Whatever the names in a script look like, those of the schema are clean, and no relationship
has lost the table that it starts from. -/
theorem names_clean_build (statements : List Statement) :
    (∀ t ∈ (build statements).tables, IsName t.name ∧ t.id = t.name ∧
      ∀ c ∈ t.columns, clean c.name = c.name ∧ (c.references.isSome → c.isForeignKey)) ∧
    ∀ r ∈ (build statements).relationships, r.type = oneToMany ∧
      IsName r.sourceTable ∧ IsName r.sourceColumn ∧ IsName r.targetTable ∧
      IsName r.targetColumn ∧
      r.id = idOf r.sourceTable r.sourceColumn r.targetTable r.targetColumn ∧
      ∃ t ∈ (build statements).tables, t.name = r.sourceTable := by
  have hbuild := wellFormed_build statements
  constructor
  · intro t ht
    have htable := hbuild.tables t ht
    refine ⟨htable.name, htable.id_eq, fun c hc => ?_⟩
    exact ⟨(htable.columns c hc).name, (htable.columns c hc).flagged⟩
  · intro r hr
    have hwf := hbuild.relationships r hr
    have htype : r.type = oneToMany := congrArg Relationship.type hwf.canonical
    exact ⟨htype, hwf.sourceTable, hwf.sourceColumn, hwf.targetTable, hwf.targetColumn,
      hwf.canonical.id_eq, List.mem_map.mp (hbuild.sources r hr)⟩

/-! ### Declarations of different tables -/

/-- Tables with new and distinct names are appended in the order of their declaration, each id of
their relationships once. -/
theorem foldl_declareTable_of_nodup {ds : List TableDefinition}
    (h : (s.tables.map (·.name) ++ ds.map (·.tableName)).Nodup) :
    ds.foldl declareTable s =
      ⟨s.tables ++ ds.map (·.build.1),
        (ds.flatMap (·.writtenPairs)).foldl appendUnique s.relationships⟩ := by
  induction ds generalizing s with
  | nil => simp
  | cons d ds ih =>
      have hnew : d.build.1.name ∉ s.tables.map (·.name) := fun hmem =>
        (List.nodup_append.mp h).2.2 _ hmem _ List.mem_cons_self (d.build_fst_name)
      have hstep : s.declareTable d = ⟨s.tables ++ [d.build.1],
          d.writtenPairs.foldl appendUnique s.relationships⟩ := by
        have hnot : ¬s.hasTable d.tableName := by
          rwa [hasTable_iff, ← d.build_fst_name]
        rw [declareTable_eq, if_neg hnot, addTable_of_notMem hnew, foldl_addRelationship,
          d.build_snd, foldl_appendUnique_assoc]
        rfl
      rw [List.foldl_cons, hstep, ih]
      · simp
      · simpa using h

theorem foldl_declareTable_empty {ds : List TableDefinition} (h : (ds.map (·.tableName)).Nodup) :
    ds.foldl declareTable empty =
      ⟨ds.map (·.build.1), (ds.flatMap (·.writtenPairs)).foldl appendUnique []⟩ := by
  rw [foldl_declareTable_of_nodup (by simpa [empty] using h)]
  rfl

theorem tablesDistinct_of_tables_eq {ds : List TableDefinition}
    (hs : s.tables = ds.map (·.build.1)) (hds : (ds.map fun d => Text.lower d.tableName).Nodup) :
    s.TablesDistinct := by
  rw [TablesDistinct, hs, List.map_map]
  simpa only [Function.comp_def, TableDefinition.build_fst_name] using hds

end Schema

end EntityMap
