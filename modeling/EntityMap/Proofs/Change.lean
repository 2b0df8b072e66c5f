import Mathlib.Logic.Relation
import EntityMap.Proofs.Run

/-!
What an operation on a schema can do. Whatever is done to a schema comes down to four kinds of
changes: a table is put in its place, a relationship is added, the relationships of a table are
dropped, or a column is marked. What each of these keeps true is kept by every stage and, in the
end, by every sequence of operations.
-/

namespace EntityMap

open Identifier Relationship

/-- No column of the primary key may be null. -/
def Table.KeysNotNull (t : Table) : Prop := ∀ c ∈ t.columns, c.isPrimaryKey → c.isNotNull

theorem Table.keysNotNull_skeleton {t : Table} : t.skeleton.KeysNotNull ↔ t.KeysNotNull := by
  simp [KeysNotNull]

/-- The table with its columns as they are made. -/
def Table.normalize (t : Table) : Table := { t with columns := t.columns.map Column.normalize }

theorem Table.keysNotNull_normalize (t : Table) : t.normalize.KeysNotNull := by
  intro c hc hkey
  obtain ⟨c, -, rfl⟩ := List.mem_map.mp hc
  exact Bool.or_eq_true_iff.mpr (Or.inr hkey)

namespace Schema

variable {s s' : Schema}

/-- One change of a schema. No primary key of a new table is nullable, and no new relationship is
without an id. -/
inductive Change (s : Schema) : Schema → Prop where
  | addTable {t : Table} (ht : t.KeysNotNull) : Change s (s.addTable t)
  | addRelationship {r : Relationship} (hr : r.id ≠ "") : Change s (s.addRelationship r)
  | removeRelationshipsFrom (table : String) : Change s (s.removeRelationshipsFrom table)
  | markAt (table column : Nat) (target : ColumnReference) (overwrite : Bool) :
      Change s (s.modifyColumn table column (·.markForeignKey target overwrite))

theorem Change.keysNotNull (h : s.Change s') (hs : ∀ t ∈ s.tables, t.KeysNotNull) :
    ∀ t ∈ s'.tables, t.KeysNotNull := by
  intro t' ht'
  cases h with
  | addTable ht => exact (mem_or_eq_of_mem_addTable ht').elim (hs t') fun he => he ▸ ht
  | addRelationship hr => exact hs t' ht'
  | removeRelationshipsFrom table => exact hs t' ht'
  | markAt i j target overwrite =>
      obtain ⟨t, ht, he⟩ := exists_mem_of_skeleton_eq (skeleton_markAt s i j target overwrite) ht'
      exact Table.keysNotNull_skeleton.mp (he ▸ Table.keysNotNull_skeleton.mpr (hs t ht))

/-- Some changes lead from the first schema to the second. -/
abbrev Changes : Schema → Schema → Prop := Relation.ReflTransGen Change

namespace Changes

theorem foldl {α : Type} {f : Schema → α → Schema} {as : List α}
    (hf : ∀ s : Schema, ∀ a ∈ as, s.Changes (f s a)) (s : Schema) : s.Changes (as.foldl f s) := by
  induction as generalizing s with
  | nil => exact .refl
  | cons a as ih =>
      have hfirst := hf s a List.mem_cons_self
      exact hfirst.trans (ih (fun s b hb => hf s b (List.mem_cons_of_mem a hb)) (f s a))

/-- What every change keeps true is true after all of them. -/
theorem keep {P : Schema → Prop} (hP : ∀ {s s' : Schema}, P s → s.Change s' → P s')
    (h : s.Changes s') (hs : P s) : P s' := by
  induction h with
  | refl => exact hs
  | tail _ hlast ih => exact hP ih hlast

theorem addLink (s : Schema) {l : Link} (overwrite : Bool) (hl : l.relationship.id ≠ "") :
    s.Changes (s.addLink overwrite l) := by
  rw [Schema.addLink]
  split
  · exact .refl
  · exact (Relation.ReflTransGen.single (.addRelationship hl)).tail (.markAt ..)

/-! ### Stages -/

theorem declareTable (s : Schema) (d : TableDefinition) : s.Changes (s.declareTable d) := by
  have hkeys : d.build.1.KeysNotNull := fun c hc => (d.wellFormed_build.columns c hc).notNull
  have hdropped : s.Changes
      (if s.hasTable d.tableName then s.removeRelationshipsFrom d.tableName else s) := by
    split
    · exact .single (.removeRelationshipsFrom d.tableName)
    · exact .refl
  rw [declareTable_eq]
  refine (hdropped.tail (.addTable hkeys)).trans (foldl (fun s r hr => ?_) _)
  exact .single (.addRelationship (TableDefinition.of_mem_build_snd hr).1.id_ne_empty)

theorem alterTable (s : Schema) (a : TableAlteration) : s.Changes (s.alterTable a) := by
  rw [alterTable_eq_foldl_addLink]
  refine foldl (fun s' l hl => addLink s' false ?_) s
  obtain ⟨i, pair, -, hpair⟩ := mem_alterationLinks hl
  obtain ⟨t, j, c, target, r, -, -, -, -, hr, rfl⟩ := resolve?_eq_some_iff.mp hpair
  exact (wellFormed_of_ofNames? hr).id_ne_empty

theorem infer (s : Schema) : s.Changes s.infer := by
  rw [infer_eq_foldl_addLink]
  split
  · refine foldl (fun s' l hl => addLink s' true ?_) s
    obtain ⟨i, t, j, c, -, -, hinferred⟩ := mem_inferredLinks.mp hl
    obtain ⟨-, base, target, r, -, -, hr, rfl⟩ := inferredLink?_eq_some_iff.mp hinferred
    exact (wellFormed_of_ofNames? hr).id_ne_empty
  · exact .refl

theorem apply (s : Schema) (stage : Stage) : s.Changes (stage.apply s) := by
  cases stage with
  | declare statements =>
      rw [Stage.apply, declare_eq_foldl]
      exact foldl (fun s d _ => declareTable s d) s
  | alter statements =>
      rw [Stage.apply, alter_eq_foldl]
      exact foldl (fun s a _ => alterTable s a) s
  | infer => exact infer s

end Changes

end Schema

end EntityMap
