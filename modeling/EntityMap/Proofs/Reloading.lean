import EntityMap.Proofs.Operation
import EntityMap.Proofs.Schema.RoundTrip

/-!
Schemas that are written as data and loaded again. Whatever is done with a loaded schema, it stays
normal: no primary key becomes nullable and no relationship loses its id, so nothing is rewritten
when it is read back. `Schema.reload_operate` says that a schema may be written and loaded again at
any time without a difference to any later state.
-/

namespace EntityMap.Schema

open Relationship

variable {s s' : Schema}

/-- No primary key is nullable, and no relationship is without an id. -/
structure Normal (s : Schema) : Prop where
  keys : ∀ t ∈ s.tables, t.KeysNotNull
  ids : ∀ r ∈ s.relationships, r.id ≠ ""

theorem normal_toRecord_iff : s.toRecord.Normal ↔ s.Normal := by
  have hkeys : (∀ t ∈ s.toRecord.tables, ∀ c ∈ t.columns, c.isPrimaryKey → c.isNotNull) ↔
      ∀ t ∈ s.tables, t.KeysNotNull := by
    simp only [toRecord, Table.toRecord, Table.KeysNotNull, List.forall_mem_map, Column.toRecord]
  have hids : (∀ r ∈ s.toRecord.relationships, r.id.isTruthy) ↔
      ∀ r ∈ s.relationships, r.id ≠ "" := by
    simp only [toRecord, Relationship.toRecord, List.forall_mem_map, Value.isTruthy, bne_iff_ne]
  exact ⟨fun h => ⟨hkeys.mp h.keys, hids.mp h.ids⟩, fun h => ⟨hkeys.mpr h.keys, hids.mpr h.ids⟩⟩

theorem ofValue_toValue (hs : s.Normal) : ofValue s.toValue = .ok s :=
  ofValue_eq_ok_iff.mpr (SchemaRecord.ofValue_toValue (normal_toRecord_iff.mpr hs))

namespace Normal

theorem change (hs : s.Normal) (h : s.Change s') : s'.Normal := by
  refine ⟨h.keysNotNull hs.keys, fun q hq => ?_⟩
  cases h with
  | addTable ht => exact hs.ids q (relationships_addTable s _ ▸ hq)
  | addRelationship hr => exact (mem_or_eq_of_mem_appendUnique hq).elim (hs.ids q) fun he => he ▸ hr
  | removeRelationshipsFrom table => exact hs.ids q (List.mem_filter.mp hq).1
  | markAt i j target overwrite => exact hs.ids q hq

theorem operate (hs : s.Normal) (operations : List Operation) : (s.operate operations).Normal :=
  (Changes.operate s operations).keep change hs

end Normal

/-! ### Loading on the way -/

/-- A step with a schema: an operation, or writing it as data and loading it again. -/
inductive Step where
  | operation (o : Operation)
  | reload

def Step.run (s : Schema) : Step → Except LoadError Schema
  | operation o => .ok (o.apply s)
  | reload => ofValue s.toValue

def Step.operation? : Step → Option Operation
  | operation o => some o
  | reload => none

theorem foldlM_run (hs : s.Normal) (steps : List Step) :
    steps.foldlM Step.run s = .ok (s.operate (steps.filterMap Step.operation?)) := by
  induction steps generalizing s with
  | nil => rfl
  | cons step steps ih =>
      rw [List.foldlM_cons]
      cases step with
      | operation o => exact ih (hs.operate [o])
      | reload =>
          rw [Step.run, ofValue_toValue hs]
          exact ih hs

/-- Data that is accepted gives the same data when it is written and read once more. If its names
are texts, the schema may be written and loaded again after whatever operations, and doing so
between them makes no difference. -/
theorem reload_operate {v : Value} {r : SchemaRecord} (h : SchemaRecord.ofValue v = .ok r) :
    SchemaRecord.ofValue r.toValue = .ok r ∧ ∀ s, ofRecord r = .ok s →
      (∀ operations, ofValue (s.operate operations).toValue = .ok (s.operate operations)) ∧
      ∀ steps : List Step,
        steps.foldlM Step.run s = .ok (s.operate (steps.filterMap Step.operation?)) := by
  have hr := SchemaRecord.normal_of_ofValue h
  refine ⟨SchemaRecord.ofValue_toValue hr, fun s hs => ?_⟩
  have hnormal : s.Normal := normal_toRecord_iff.mp (ofRecord_eq_ok_iff.mp hs ▸ hr)
  exact ⟨fun operations => ofValue_toValue (hnormal.operate operations), foldlM_run hnormal⟩

def accountData : Value :=
  .record [
    ("tables", .list [
      .record [("name", .text "users"), ("columns", .list [
        .record [("name", .text "ID"), ("type", .text "INT"), ("isPrimaryKey", .number 1 0)]])],
      .record [("name", .text "Users"), ("columns", .null)]]),
    ("relationships", .list [
      .record [("sourceTable", .text "Users"), ("sourceColumn", .text "owner"),
        ("targetTable", .text "users"), ("targetColumn", .text "ID")]])]

def accounts : Schema :=
  ⟨[⟨"users", "users", [⟨"ID", "INT", true, false, true, false, none, none⟩]⟩,
      ⟨"Users", "Users", []⟩],
    [between "Users" "owner" "users" "ID"]⟩

def accountOperations : List Operation :=
  let user : ColumnDefinition :=
    { ColumnDefinition.named "user_id" with reference := some ⟨[], "users", ["ID"]⟩ }
  [.runStage (.declare [.createTable ⟨some "orders", [user], [], []⟩]),
    .markForeignKey "USERS" "id" ⟨"orders", "id"⟩ false, .markAt 2 0 ⟨"Users", "owner"⟩ true,
    .removeRelationshipsFrom "orders", .removeRelationshipsFrom "Users", .runStage .infer,
    .addTable ⟨"u", "Users", [⟨"owner", "INT", true, false, false, false, none, none⟩]⟩,
    .addRelationship ⟨"orders", "user_id", "users", "ID", "one-to-one", ""⟩,
    .runStage (.alter [.alterTable ⟨some "Orders", [⟨["user_id"], "users", ["id"]⟩]⟩])]

/-- The steps with the accounts, where what each of them leaves is written and loaded again. -/
def reloadedAccounts : List Step :=
  .reload :: accountOperations.flatMap fun o => [.operation o, .reload]

theorem reload_operate_accounts :
    SchemaRecord.ofValue accountData = .ok accounts.toRecord ∧
      SchemaRecord.ofValue accounts.toRecord.toValue = .ok accounts.toRecord ∧
      ofRecord accounts.toRecord = .ok accounts ∧
      ofValue (accounts.operate accountOperations).toValue =
        .ok (accounts.operate accountOperations) ∧
      reloadedAccounts.filterMap Step.operation? = accountOperations ∧
      reloadedAccounts.foldlM Step.run accounts =
        .ok (accounts.operate (reloadedAccounts.filterMap Step.operation?)) := by
  have hload : ofValue accountData = .ok accounts := by decide +kernel
  have hrecord : SchemaRecord.ofValue accountData = .ok accounts.toRecord :=
    ofValue_eq_ok_iff.mp hload
  have hschema : ofRecord accounts.toRecord = .ok accounts := ofRecord_eq_ok_iff.mpr rfl
  obtain ⟨hagain, hsteps⟩ := reload_operate hrecord
  obtain ⟨hlater, hbetween⟩ := hsteps accounts hschema
  exact ⟨hrecord, hagain, hschema, hlater accountOperations, rfl, hbetween reloadedAccounts⟩

end EntityMap.Schema
