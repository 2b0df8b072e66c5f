import EntityMap.Proofs.Record.Store

/-!
Operations on a schema that is loaded from data. Tables and relationships are added, relationships
dropped, columns marked and stages run, in any order and with any arguments; an operation may fail
on a name that is no text, and the next one then finds what it has left.
`SchemaRecord.stored_operate` says that names and ids stay distinct all the time, that no primary
key becomes nullable, and that a table keeps its name and its place.
-/

namespace EntityMap.SchemaRecord

variable {s : SchemaRecord}

/-- An operation on a schema. A column may be marked wherever it stands, or be found by name. -/
inductive Operation where
  | addTable (t : TableRecord)
  | addRelationship (r : RelationshipRecord)
  | removeRelationshipsFrom (table : Value)
  | markForeignKey (table column : Value) (target : ReferenceRecord) (overwrite : Bool)
  | markAt (table column : Nat) (target : ReferenceRecord) (overwrite : Bool)
  | declare (statements : List Statement)
  | alter (statements : List Statement)
  | infer

/-- New tables and relationships are normal. -/
def Operation.run : Operation → Store Unit
  | addTable t => modify (·.addTable t.normalize)
  | addRelationship r => modify (·.addRelationship r.normalize)
  | removeRelationshipsFrom table => modify (·.removeRelationshipsFrom table)
  | markForeignKey table column target overwrite =>
    Store.markForeignKey table column target overwrite
  | markAt table column target overwrite =>
    modify (·.modifyColumn table column (·.markForeignKey target overwrite))
  | declare statements => modify (·.declare statements)
  | alter statements => Store.alter statements
  | infer => Store.infer

def operate (s : SchemaRecord) (operations : List Operation) : SchemaRecord :=
  operations.foldl (fun s o => o.run.after s) s

theorem keeps_run (o : Operation) : o.run.Keeps := by
  cases o with
  | addTable t => exact .change fun s => Continues.addTable s t.keysNotNull_normalize
  | addRelationship r => exact .change fun s => Continues.addRelationship s r.normalize
  | removeRelationshipsFrom table =>
      exact .change fun s => Continues.removeRelationshipsFrom s table
  | markForeignKey table column target overwrite =>
      exact .markForeignKey table column target overwrite
  | markAt i j target overwrite => exact .change fun s => Continues.markAt s i j target overwrite
  | declare statements => exact .change fun s => Continues.declare s statements
  | alter statements => exact .alter statements
  | infer => exact .infer

theorem continues_operate (s : SchemaRecord) (operations : List Operation) :
    s.Continues (s.operate operations) :=
  Continues.foldl (fun s o => keeps_run o s) s operations

theorem operate_append (s : SchemaRecord) (earlier later : List Operation) :
    s.operate (earlier ++ later) = (s.operate earlier).operate later := List.foldl_append

/-- However a schema is loaded and whatever is done with it, as long as its names and ids are
distinct at first, they are in every later state; and the table names of every state start those of
every later one. -/
theorem stored_operate {v : Value} (h : ofValue v = .ok s) (hnames : s.names.Nodup)
    (hids : s.ids.Nodup) (earlier later : List Operation) :
    (s.operate (earlier ++ later)).Stored ∧
      (s.operate earlier).names <+: (s.operate (earlier ++ later)).names := by
  have hs : s.Stored := ⟨hnames, hids, notNull_of_ofValue h⟩
  refine ⟨(continues_operate s _).stored hs, ?_⟩
  rw [operate_append]
  exact (continues_operate (s.operate earlier) later).names

def mixedData : Value :=
  .record [
    ("tables", .list [
      .record [("id", .null), ("name", .text "users"), ("columns", .list [
        .record [("name", .text "id"), ("type", .number 15 1), ("isPrimaryKey", .number 1 0)]])],
      .record [("name", .number 1 0), ("columns", .list [.record [("name", .text "user_id")]])]]),
    ("relationships", .list [
      .record [("id", .number 5 0), ("sourceTable", .bool true), ("sourceColumn", .text "user_id"),
        ("targetTable", .text "users"), ("targetColumn", .text "id")],
      .record [("id", .null), ("sourceTable", .list [.null]), ("sourceColumn", .text "owner"),
        ("targetTable", .text "users"), ("targetColumn", .number 25 1)]])]

def mixed : SchemaRecord where
  tables := [
    ⟨.null, .text "users", [⟨.text "id", .number 15 1, true, false, true, false, none, .null⟩]⟩,
    ⟨.number 1 0, .number 1 0,
      [⟨.text "user_id", .text "VARCHAR", false, false, false, false, none, .null⟩]⟩]
  relationships := [
    ⟨.bool true, .text "user_id", .text "users", .text "id", .text "one-to-many", .number 5 0⟩,
    ⟨.list [.null], .text "owner", .text "users", .number 25 1, .text "one-to-many",
      .text (RelationshipRecord.idOf (.list [.null]) (.text "owner") (.text "users")
        (.number 25 1))⟩]

/-- A table is replaced by one whose name equals its own. Inference fails at it, and so does the
last alteration. -/
def mixedOperations : List Operation :=
  [.removeRelationshipsFrom (.number 10 1), .removeRelationshipsFrom (.list [.null]),
    .markAt 1 0 ⟨.text "users", .null⟩ false, .infer,
    .addTable ⟨.text "one", .bool true, [⟨.null, .null, true, false, false, false, none, .null⟩]⟩,
    .addRelationship ⟨.null, .null, .null, .null, .null, .text ""⟩,
    .markForeignKey (.text "USERS") (.text "ID") ⟨.text "users", .text "id"⟩ true,
    .declare [.createTable ⟨some "orders", [], ["id"], []⟩],
    .alter [.alterTable ⟨some "orders", [⟨["user_id"], "users", ["id"]⟩]⟩]]

theorem stored_operate_mixed :
    ofValue mixedData = .ok mixed ∧ mixed.names.Nodup ∧ mixed.ids.Nodup ∧
      (mixed.operate (mixedOperations ++ mixedOperations)).Stored ∧
      (mixed.operate mixedOperations).names <+:
        (mixed.operate (mixedOperations ++ mixedOperations)).names := by
  have hload : ofValue mixedData = .ok mixed := by rfl
  have hnames : mixed.names.Nodup := by decide +kernel
  have hids : mixed.ids.Nodup := by decide +kernel
  exact ⟨hload, hnames, hids, stored_operate hload hnames hids _ _⟩

end EntityMap.SchemaRecord
