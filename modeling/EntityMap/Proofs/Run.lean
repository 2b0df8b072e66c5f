import EntityMap.Proofs.Schema.Coherence

/-!
Runs of the stages that build a schema. Stages may be run in any order and as often as one likes,
also on a schema that has tables and relationships already. `Schema.coherent_run` says that marks,
references and relationships agree after every run, as long as the columns of each declaration are
distinct and its names can be read from the ids of its relationships.
-/

namespace EntityMap.Schema

open Statement

variable {s : Schema}

/-! ### What the stages keep true -/

/-- What the stages keep true as long as declarations are distinct and legible. -/
structure Consistent (s : Schema) : Prop where
  wellFormed : s.WellFormed
  columns : ∀ t ∈ s.tables, t.ColumnsDistinct
  legible : s.Legible
  coherent : s.Coherent

theorem Consistent.distinct (hs : s.Consistent) : s.Distinct :=
  ⟨hs.wellFormed.names_nodup, hs.columns⟩

theorem Consistent.empty : Schema.empty.Consistent := by
  refine ⟨WellFormed.empty, ?_, ⟨?_, ?_⟩, ?_⟩ <;> simp [Schema.empty, Schema.Coherent]

theorem Consistent.declareTable (hs : s.Consistent) {d : TableDefinition} (hd : d.Legible)
    (hdistinct : d.ColumnsDistinct) : (s.declareTable d).Consistent := by
  refine ⟨hs.wellFormed.declareTable d, fun t ht => ?_,
    hs.legible.declareTable hs.wellFormed hd,
    hs.coherent.declareTable hs.wellFormed hs.legible hd hdistinct⟩
  rw [tables_declareTable] at ht
  rcases mem_or_eq_of_mem_addTable ht with ht | rfl
  · exact hs.columns t ht
  · exact hdistinct.build

theorem Consistent.addLink (hs : s.Consistent) {l : Link} (overwrite : Bool)
    (hl : l.Sound s.tables) : (s.addLink overwrite l).Consistent := by
  refine ⟨hs.wellFormed.addLink overwrite hl.wellFormed hl.source,
    (hs.distinct.of_skeleton_eq (skeleton_addLink overwrite s l).symm).columns,
    hs.legible.addLink overwrite hl, ?_⟩
  rw [addLink_eq_link hs.distinct hl.fits]
  exact hs.coherent.link hs.distinct overwrite hl.fits.sourceIn

theorem Consistent.foldl_addLink (hs : s.Consistent) {ls : List Link} (overwrite : Bool)
    (hls : ∀ l ∈ ls, l.Sound s.tables) : (ls.foldl (Schema.addLink overwrite) s).Consistent := by
  induction ls generalizing s with
  | nil => exact hs
  | cons l ls ih =>
      exact ih (hs.addLink overwrite (hls l List.mem_cons_self)) fun l' hl' =>
        (hls l' (List.mem_cons_of_mem l hl')).of_skeleton_eq (skeleton_addLink overwrite s l).symm

theorem Consistent.foldl_declareTable (hs : s.Consistent) {ds : List TableDefinition}
    (hds : ∀ d ∈ ds, d.ColumnsDistinct ∧ d.Legible) :
    (ds.foldl Schema.declareTable s).Consistent := by
  induction ds generalizing s with
  | nil => exact hs
  | cons d ds ih =>
      obtain ⟨hdistinct, hlegible⟩ := hds d List.mem_cons_self
      exact ih (hs.declareTable hlegible hdistinct) fun d' hd' =>
        hds d' (List.mem_cons_of_mem d hd')

theorem Consistent.alterTable (hs : s.Consistent) (a : TableAlteration) :
    (s.alterTable a).Consistent := by
  rw [alterTable_eq_foldl_addLink]
  exact hs.foldl_addLink false fun _ hl => sound_of_mem_alterationLinks hs.wellFormed hl

theorem Consistent.foldl_alterTable (hs : s.Consistent) (as : List TableAlteration) :
    (as.foldl Schema.alterTable s).Consistent := by
  induction as generalizing s with
  | nil => exact hs
  | cons a as ih => exact ih (hs.alterTable a)

/-! ### Stages -/

inductive Stage where
  | declare (statements : List Statement)
  | alter (statements : List Statement)
  | infer

namespace Stage

def apply (s : Schema) : Stage → Schema
  | declare statements => s.declare statements
  | alter statements => s.alter statements
  | infer => s.infer

def definitions : Stage → List TableDefinition
  | declare statements => Statement.definitions statements
  | _ => []

end Stage

/-- The schema after some stages, run one after another from the schema without tables. -/
def run (stages : List Stage) : Schema := stages.foldl Stage.apply empty

theorem Consistent.apply (hs : s.Consistent) {stage : Stage}
    (hstage : ∀ d ∈ stage.definitions, d.ColumnsDistinct ∧ d.Legible) :
    (stage.apply s).Consistent := by
  cases stage with
  | declare statements =>
      rw [Stage.apply, declare_eq_foldl]
      exact hs.foldl_declareTable hstage
  | alter statements =>
      rw [Stage.apply, alter_eq_foldl]
      exact hs.foldl_alterTable _
  | infer =>
      rw [Stage.apply, infer_eq_foldl_addLink]
      split
      · exact hs.foldl_addLink true fun l hl => sound_of_mem_inferredLinks hs.wellFormed hl
      · exact hs

theorem Consistent.foldl_apply (hs : s.Consistent) {stages : List Stage}
    (hstages : ∀ stage ∈ stages, ∀ d ∈ stage.definitions, d.ColumnsDistinct ∧ d.Legible) :
    (stages.foldl Stage.apply s).Consistent := by
  induction stages generalizing s with
  | nil => exact hs
  | cons stage stages ih =>
      exact ih (hs.apply (hstages stage List.mem_cons_self)) fun stage' hstage' =>
        hstages stage' (List.mem_cons_of_mem stage hstage')

/-- After every run of stages, for every column: its mark, its reference and the relationships
that start from it tell the same. -/
theorem coherent_run {stages : List Stage}
    (hstages : ∀ stage ∈ stages, ∀ d ∈ stage.definitions, d.ColumnsDistinct ∧ d.Legible) :
    (run stages).Coherent :=
  (Consistent.empty.foldl_apply hstages).coherent

/-- Orders refer to users next to the column, to customers in a clause, and to users once more in
an alteration; then orders are declared anew, and what they refer to is inferred. -/
def redeclaredOrders : List Stage :=
  let users : TableDefinition := ⟨some "users", [.named "ID"], ["id"], []⟩
  let orders : TableDefinition := ⟨some "orders", [.named "user_id"], [], []⟩
  let linked : TableDefinition :=
    { orders with
      columns := [{ ColumnDefinition.named "user_id" with reference := some ⟨[], "users", ["id"]⟩ }]
      foreignKeys := [⟨["USER_ID"], "customers", ["id"]⟩] }
  [.declare [.createTable users, .createTable linked],
    .alter [.alterTable ⟨some "orders", [⟨["user_id"], "Users", ["id"]⟩]⟩],
    .infer, .declare [.createTable orders], .infer]

theorem coherent_run_redeclaredOrders :
    (∀ stage ∈ redeclaredOrders, ∀ d ∈ stage.definitions, d.ColumnsDistinct ∧ d.Legible) ∧
      (run redeclaredOrders).Coherent :=
  ⟨by decide +kernel, coherent_run (by decide +kernel)⟩

end EntityMap.Schema
