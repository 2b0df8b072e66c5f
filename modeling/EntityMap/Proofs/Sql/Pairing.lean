import EntityMap.Declaration.ForeignKey
import EntityMap.Proofs.Relationship.Identity
import EntityMap.Proofs.Sql.Interpretation

/-!
Which columns of a foreign key are partners. A foreign key lists its columns and the columns that it
refers to. Columns without a name are left out of each list before the lists are paired, so a column
keeps the partner at its position only as long as the lists lack the same ones;
`relationships_foreignKey` says when that is so.
-/

namespace EntityMap.Sql

open Identifier Relationship

variable {columns targets : List Expr} {e : Expr} {start : Nat}

/-! ### Columns that have a name -/

/-- The columns that have a name, with their positions from `start` on. -/
def named (columns : List Expr) (start : Nat) : List (Expr × Nat) :=
  (columns.zipIdx start).filter fun c => clean c.1.label ≠ ""

theorem named_nil : named [] start = [] := rfl

theorem named_cons_of_eq_empty (h : clean e.label = "") :
    named (e :: columns) start = named columns (start + 1) := by
  simp [named, h]

theorem named_cons_of_ne_empty (h : clean e.label ≠ "") :
    named (e :: columns) start = (e, start) :: named columns (start + 1) := by
  simp [named, h]

theorem le_of_mem_named {c : Expr × Nat} (h : c ∈ named columns start) : start ≤ c.2 :=
  List.le_snd_of_mem_zipIdx (List.mem_filter.mp h).1

theorem eq_empty_of_named_eq_nil (h : named columns start = []) :
    ∀ e ∈ columns, clean e.label = "" := by
  induction columns generalizing start with
  | nil => exact fun _ he => absurd he List.not_mem_nil
  | cons e columns ih =>
      by_cases he : clean e.label = ""
      · rw [named_cons_of_eq_empty he] at h
        exact List.forall_mem_cons.mpr ⟨he, ih h⟩
      · rw [named_cons_of_ne_empty he] at h
        exact absurd h (List.cons_ne_nil _ _)

/-- Positions behind a column are not that of the column. -/
theorem named_succ_eq_nil
    (h : ∀ c cs, named columns (start + 1) = c :: cs → c.2 = start) :
    named columns (start + 1) = [] := by
  cases hnamed : named columns (start + 1) with
  | nil => rfl
  | cons c cs =>
      have hle : start + 1 ≤ c.2 := le_of_mem_named (hnamed ▸ List.mem_cons_self)
      have heq : c.2 = start := h c cs hnamed
      omega

theorem columnLabels_eq_map_named (columns : List Expr) (start : Nat) :
    columnLabels columns = (named columns start).map fun c => clean c.1.label := by
  induction columns generalizing start with
  | nil => rfl
  | cons e columns ih =>
      by_cases h : clean e.label = ""
      · rw [named_cons_of_eq_empty h, ← ih (start + 1)]
        simp [columnLabels, cleanAll, h]
      · rw [named_cons_of_ne_empty h, List.map_cons, ← ih (start + 1)]
        simp [columnLabels, cleanAll, h]

/-! ### Partners -/

/-- The columns that are paired: the first with a name in one list with the first in the other, and
so on. -/
def partners (columns targets : List Expr) : List ((Expr × Nat) × (Expr × Nat)) :=
  (named columns 0).zip (named targets 0)

/-- The relationship between two columns by their names, unless one is missing. -/
def pair? (source table : String) (column target : Expr) : Option Relationship :=
  ofNames? source column.label table target.label

/-- The relationships between the columns at the same positions. -/
def pairedByPosition (source table : String) (columns targets : List Expr) : List Relationship :=
  (columns.zip targets).filterMap fun p => pair? source table p.1 p.2

theorem pair?_eq_none {source table : String} {column target : Expr}
    (h : clean column.label = "" ∨ clean target.label = "" ∨ clean table = "") :
    pair? source table column target = none := by
  refine Option.eq_none_iff_forall_ne_some.mpr fun r hr => ?_
  obtain ⟨⟨-, hcolumn, htable, htarget⟩, -⟩ := ofNames?_eq_some_iff.mp hr
  exact h.elim hcolumn fun h => h.elim htarget htable

theorem pairedByPosition_eq_nil {source table : String}
    (h : named columns start = [] ∨ named targets start = []) :
    pairedByPosition source table columns targets = [] := by
  refine List.filterMap_eq_nil_iff.mpr fun p hp => pair?_eq_none ?_
  obtain ⟨hcolumn, htarget⟩ := List.of_mem_zip hp
  exact h.imp (fun h => eq_empty_of_named_eq_nil h _ hcolumn) fun h =>
    .inl (eq_empty_of_named_eq_nil h _ htarget)

theorem relationships_clause (source table : String) (columns targets : List Expr) :
    (ForeignKeyClause.mk (columnLabels columns) (clean table) (columnLabels targets)).relationships
        source =
      (partners columns targets).filterMap fun p => pair? source table p.1.1 p.2.1 := by
  rw [ForeignKeyClause.relationships, columnLabels_eq_map_named columns 0,
    columnLabels_eq_map_named targets 0, List.zip_map, List.filterMap_map, partners]
  refine List.filterMap_congr fun p _ => ?_
  simp only [Function.comp_apply, Prod.map, pair?, ofNames?, clean_clean]

/-- As long as the partners stand at the same positions, leaving out columns without a name leaves
out no others. -/
theorem filterMap_zip_named {source table : String}
    (h : ∀ p ∈ (named columns start).zip (named targets start), p.1.2 = p.2.2) :
    (((named columns start).zip (named targets start)).filterMap
        fun p => pair? source table p.1.1 p.2.1) =
      pairedByPosition source table columns targets := by
  induction columns generalizing targets start with
  | nil => rfl
  | cons c columns ih =>
      cases targets with
      | nil => simp [named_nil, pairedByPosition]
      | cons d targets =>
          rw [pairedByPosition, List.zip_cons_cons, List.filterMap_cons]
          by_cases hc : clean c.label = "" <;> by_cases hd : clean d.label = ""
          · rw [named_cons_of_eq_empty hc, named_cons_of_eq_empty hd] at h ⊢
            rw [pair?_eq_none (.inl hc)]
            exact ih h
          · rw [named_cons_of_eq_empty hc, named_cons_of_ne_empty hd] at h ⊢
            have hnil : named columns (start + 1) = [] := named_succ_eq_nil fun x xs hx => by
              rw [hx] at h
              exact h (x, (d, start)) List.mem_cons_self
            rw [hnil, pair?_eq_none (.inl hc)]
            exact (pairedByPosition_eq_nil (.inl hnil)).symm
          · rw [named_cons_of_ne_empty hc, named_cons_of_eq_empty hd] at h ⊢
            have hnil : named targets (start + 1) = [] := named_succ_eq_nil fun x xs hx => by
              rw [hx] at h
              exact (h ((c, start), x) List.mem_cons_self).symm
            rw [hnil, pair?_eq_none (.inr (.inl hd)), List.zip_nil_right]
            exact (pairedByPosition_eq_nil (.inr hnil)).symm
          · rw [named_cons_of_ne_empty hc, named_cons_of_ne_empty hd, List.zip_cons_cons] at h ⊢
            rw [List.filterMap_cons, ih fun p hp => h p (List.mem_cons_of_mem _ hp),
              pairedByPosition]

/-! ### Positions -/

def namedPositions (columns : List Expr) : List Nat := (named columns 0).map (·.2)

theorem forall_mem_zip_iff_prefix {α : Type} {as bs : List α} :
    (∀ p ∈ as.zip bs, p.1 = p.2) ↔ as <+: bs ∨ bs <+: as := by
  induction as generalizing bs with
  | nil => simp
  | cons a as ih =>
      cases bs with
      | nil => simp
      | cons b bs =>
          rw [List.zip_cons_cons, List.forall_mem_cons, ih, List.cons_prefix_cons,
            List.cons_prefix_cons, eq_comm (a := b), ← and_or_left]

theorem forall_partners_iff : (∀ p ∈ partners columns targets, p.1.2 = p.2.2) ↔
    namedPositions columns <+: namedPositions targets ∨
      namedPositions targets <+: namedPositions columns := by
  rw [← forall_mem_zip_iff_prefix, namedPositions, namedPositions, List.zip_map,
    List.forall_mem_map]
  rfl

/-- Which relationships a foreign key gives to its table. The first column that has a name is paired
with the first referenced column that has one, and so on. All partners stand at the same positions
just if the columns with a name stand, as far as both lists have any, at the same positions; only
then can one rely on a column being paired with the referenced one at its position. -/
theorem relationships_foreignKey (source : String) (columns : List Expr) (reference : Reference) :
    let table := reference.table.label
    let pairs := partners columns reference.columns
    let clause? := (Constraint.foreignKey columns (some reference)).clause?
    (clause?.isSome ↔ clean table ≠ "") ∧
      clause?.elim [] (·.relationships source) =
        pairs.filterMap (fun p => pair? source table p.1.1 p.2.1) ∧
      ((∀ p ∈ pairs, p.1.2 = p.2.2) ↔
        namedPositions columns <+: namedPositions reference.columns ∨
          namedPositions reference.columns <+: namedPositions columns) ∧
      ((∀ p ∈ pairs, p.1.2 = p.2.2) →
        clause?.elim [] (·.relationships source) =
          pairedByPosition source table columns reference.columns) := by
  intro table pairs clause?
  have hclause : clause? = reference.clause? (columnLabels columns) := by
    simp only [clause?, Constraint.clause?, Option.bind_some]
  have hrelationships : clause?.elim [] (·.relationships source) =
      pairs.filterMap (fun p => pair? source table p.1.1 p.2.1) := by
    by_cases hname : clean table = ""
    · have hnone : reference.clause? (columnLabels columns) = none :=
        Option.eq_none_iff_forall_ne_some.mpr fun _ h =>
          (Reference.clause?_eq_some_iff.mp h).1 hname
      rw [hclause, hnone]
      exact (List.filterMap_eq_nil_iff.mpr fun p _ => pair?_eq_none (.inr (.inr hname))).symm
    · rw [hclause, Reference.clause?_eq_some_iff.mpr ⟨hname, rfl⟩]
      exact relationships_clause source table columns reference.columns
  refine ⟨?_, hrelationships, forall_partners_iff, fun h => hrelationships.trans ?_⟩
  · rw [hclause, Option.isSome_iff_exists]
    exact ⟨fun ⟨_, h⟩ => (Reference.clause?_eq_some_iff.mp h).1,
      fun h => ⟨_, Reference.clause?_eq_some_iff.mpr ⟨h, rfl⟩⟩⟩
  · exact filterMap_zip_named h

/-- The second column gets the partner of the first, which has no name. -/
theorem relationships_blankColumn_ne :
    let columns : List Expr := [.name ⟨" ", true⟩, .name ⟨"b", false⟩]
    let reference : Reference :=
      ⟨⟨[⟨"t", false⟩]⟩, [.name ⟨"x", false⟩, .name ⟨"y", false⟩]⟩
    let clause? := (Constraint.foreignKey columns (some reference)).clause?
    let paired := pairedByPosition "a" reference.table.label columns reference.columns
    clean reference.table.label ≠ "" ∧ clean "a" ≠ "" ∧
      clause?.elim [] (·.relationships "a") = [between "a" "b" "t" "x"] ∧
      paired = [between "a" "b" "t" "y"] ∧ clause?.elim [] (·.relationships "a") ≠ paired := by
  decide +kernel

end EntityMap.Sql
