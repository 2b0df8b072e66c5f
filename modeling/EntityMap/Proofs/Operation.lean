import EntityMap.Proofs.Change
import EntityMap.Proofs.Schema.Record

/-!
Operations on a schema. Tables and relationships are added, relationships dropped, columns marked
and stages run, in any order and with any arguments; each of them comes down to changes.
-/

namespace EntityMap

open Relationship

/-- The relationship as it is made: an empty id stands for the one that its names give. -/
def Relationship.normalize (r : Relationship) : Relationship :=
  if r.id = "" then
    { r with id := idOf r.sourceTable r.sourceColumn r.targetTable r.targetColumn }
  else r

theorem Relationship.id_normalize_ne_empty (r : Relationship) : r.normalize.id ≠ "" := by
  rw [normalize]
  split
  · exact idOf_ne_empty _ _ _ _
  · next h => exact h

namespace Schema

/-- An operation on a schema. A column may be marked wherever it stands, or be found by name. -/
inductive Operation where
  | addTable (t : Table)
  | addRelationship (r : Relationship)
  | removeRelationshipsFrom (table : String)
  | markForeignKey (table column : String) (target : ColumnReference) (overwrite : Bool)
  | markAt (table column : Nat) (target : ColumnReference) (overwrite : Bool)
  | runStage (stage : Stage)

def Operation.apply (s : Schema) : Operation → Schema
  | addTable t => s.addTable t.normalize
  | addRelationship r => s.addRelationship r.normalize
  | removeRelationshipsFrom table => s.removeRelationshipsFrom table
  | markForeignKey table column target overwrite => s.markForeignKey table column target overwrite
  | markAt table column target overwrite =>
    s.modifyColumn table column (·.markForeignKey target overwrite)
  | runStage stage => stage.apply s

def operate (s : Schema) (operations : List Operation) : Schema :=
  operations.foldl Operation.apply s

theorem Changes.operation (s : Schema) (operation : Operation) :
    s.Changes (operation.apply s) := by
  cases operation with
  | addTable t => exact .single (.addTable t.keysNotNull_normalize)
  | addRelationship r => exact .single (.addRelationship r.id_normalize_ne_empty)
  | removeRelationshipsFrom table => exact .single (.removeRelationshipsFrom table)
  | markForeignKey table column target overwrite =>
      rw [Operation.apply, Schema.markForeignKey]
      split
      · exact .single (.markAt ..)
      · exact .refl
  | markAt i j target overwrite => exact .single (.markAt i j target overwrite)
  | runStage stage => exact apply s stage

theorem Changes.operate (s : Schema) (operations : List Operation) :
    s.Changes (s.operate operations) :=
  foldl (fun s o _ => Changes.operation s o) s

end Schema

end EntityMap
