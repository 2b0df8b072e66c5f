import EntityMap.Proofs.Declaration.Resolution

/-!
Alterations that are run again. A foreign key that has been looked up once is looked up with the
same result later on, and whether it was added or dropped, its id is there from then on. So the
second run finds nothing to add: `Schema.alter_alter`.
-/

namespace EntityMap.Schema

open Relationship

variable {s : Schema} {overwrite : Bool} {l : Link} {ls : List Link}

theorem foldl_addLink_of_mem (h : ∀ l ∈ ls, l.relationship.id ∈ ids s.relationships) :
    ls.foldl (addLink overwrite) s = s := by
  induction ls with
  | nil => rfl
  | cons l ls ih =>
      obtain ⟨hl, hls⟩ := List.forall_mem_cons.mp h
      rw [List.foldl_cons, addLink_of_mem hl]
      exact ih hls

/-- The id of every link is there in the end, also of those that were dropped. -/
theorem id_mem_foldl_addLink (hl : l ∈ ls) (s : Schema) :
    l.relationship.id ∈ ids (ls.foldl (addLink overwrite) s).relationships := by
  rw [relationships_foldl_addLink, mem_ids_foldl]
  exact .inr (id_mem_ids (List.mem_map_of_mem hl))

theorem skeleton_alter (s : Schema) (statements : List Statement) :
    (s.alter statements).skeleton = s.skeleton := by
  rw [alter_eq_foldl, skeleton_foldl_alterTable]

theorem linksFor_subset {statements statements' : List Statement}
    (h : Statement.alterations statements' ⊆ Statement.alterations statements) (s : Schema) :
    s.linksFor statements' ⊆ s.linksFor statements := by
  intro l hl
  obtain ⟨f, hf, hlink⟩ := List.mem_filterMap.mp hl
  obtain ⟨a, ha, hfa⟩ := List.mem_flatMap.mp hf
  exact List.mem_filterMap.mpr ⟨f, List.mem_flatMap.mpr ⟨a, h ha, hfa⟩, hlink⟩

/-- Once alterations have been run, none of them has anything left to do. -/
theorem alter_alter_of_subset {statements statements' : List Statement}
    (h : Statement.alterations statements' ⊆ Statement.alterations statements) (s : Schema) :
    (s.alter statements).alter statements' = s.alter statements := by
  have hlinks : (s.alter statements).linksFor statements' = s.linksFor statements' := by
    rw [linksFor, linkFor?_of_skeleton_eq (skeleton_alter s statements), linksFor]
  rw [alter_eq_foldl_addLink (s.alter statements), hlinks]
  apply foldl_addLink_of_mem
  intro l hl
  rw [alter_eq_foldl_addLink]
  exact id_mem_foldl_addLink (linksFor_subset h s hl) s

/-- Running the same alterations a second time changes nothing, whatever names and ids the schema
has: no mark, no reference and no relationship. -/
theorem alter_alter (s : Schema) (statements : List Statement) :
    (s.alter statements).alter statements = s.alter statements :=
  alter_alter_of_subset (List.Subset.refl _) s

end EntityMap.Schema
