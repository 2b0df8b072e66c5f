import Mathlib.Tactic.MkIffOfInductiveProp
import EntityMap.Proofs.Schema.Record

/-!
Data that is no schema. A schema is refused where a field is missing that some record must have. The
first such record is reported, tables before relationships and lists from their front, with the
first key that it lacks: `SchemaRecord.ofValue_reports`.
-/

namespace EntityMap

/-! ### What a schema must have -/

namespace Value

def isRecord : Value → Bool
  | record _ => true
  | _ => false

/-- The field is not there, or holds a list of records. -/
def holdsRecords (key : String) (v : Value) : Bool :=
  match v.field? key with
  | none => true
  | some (.list items) => items.all isRecord
  | some _ => false

/-- The field is not there, or holds `null` or a record. -/
def holdsOptional (key : String) (v : Value) : Bool :=
  match v.field? key with
  | none | some .null | some (.record _) => true
  | some _ => false

def entries (key : String) (v : Value) : List Value :=
  match v.field? key with
  | some (.list items) => items
  | _ => []

end Value

/-- A field that must be there, by its record and its key. -/
structure Demand where
  holder : Value
  key : String

namespace Demand

def isMet (d : Demand) : Bool := (d.holder.field? d.key).isSome

/-- The key of the first field that is missing. -/
def firstMissing? (ds : List Demand) : Option String := (ds.find? (!·.isMet)).map (·.key)

end Demand

namespace ColumnRecord

@[mk_iff] structure Shaped (v : Value) : Prop where
  record : v.isRecord
  reference : v.holdsOptional "references"

instance (v : Value) : Decidable (Shaped v) := decidable_of_iff _ (shaped_iff v).symm

/-- The fields of a column that must be there, in the order of their reading: the name, and what a
reference must have if there is one. -/
def demands (v : Value) : List Demand :=
  ⟨v, "name"⟩ :: match v.field? "references" with
    | some (.record fields) => [⟨.record fields, "table"⟩, ⟨.record fields, "column"⟩]
    | _ => []

def Complete (v : Value) : Prop := ∀ d ∈ demands v, d.isMet

instance (v : Value) : Decidable (Complete v) := inferInstanceAs (Decidable (∀ d ∈ demands v, _))

end ColumnRecord

namespace TableRecord

@[mk_iff] structure Shaped (v : Value) : Prop where
  record : v.isRecord
  columns : v.holdsRecords "columns"
  shaped : ∀ c ∈ v.entries "columns", ColumnRecord.Shaped c

instance (v : Value) : Decidable (Shaped v) := decidable_of_iff _ (shaped_iff v).symm

@[mk_iff] structure Complete (v : Value) : Prop where
  name : (v.field? "name").isSome
  columns : ∀ c ∈ v.entries "columns", ColumnRecord.Complete c

instance (v : Value) : Decidable (Complete v) := decidable_of_iff _ (complete_iff v).symm

end TableRecord

namespace RelationshipRecord

def demands (v : Value) : List Demand :=
  ["sourceTable", "sourceColumn", "targetTable", "targetColumn"].map (⟨v, ·⟩)

def Complete (v : Value) : Prop := ∀ d ∈ demands v, d.isMet

instance (v : Value) : Decidable (Complete v) := inferInstanceAs (Decidable (∀ d ∈ demands v, _))

end RelationshipRecord

/-- The item at a position is the first one of a list that does not have a property. -/
structure FirstWithout {α : Type} (P : α → Prop) (items : List α) (i : Nat) (x : α) : Prop where
  item : items[i]? = some x
  lacks : ¬P x
  before : ∀ y ∈ items.take i, P y

namespace SchemaRecord

/-- The data is a record; tables, columns and relationships are lists of records, and a reference is
a record or `null`, where they are there at all. -/
@[mk_iff] structure Shaped (v : Value) : Prop where
  record : v.isRecord
  tables : v.holdsRecords "tables"
  relationships : v.holdsRecords "relationships"
  shaped : ∀ t ∈ v.entries "tables", TableRecord.Shaped t

instance (v : Value) : Decidable (Shaped v) := decidable_of_iff _ (shaped_iff v).symm

/-- Every record of the schema has the fields that it must have. -/
@[mk_iff] structure Complete (v : Value) : Prop where
  tables : ∀ t ∈ v.entries "tables", TableRecord.Complete t
  relationships : ∀ r ∈ v.entries "relationships", RelationshipRecord.Complete r

instance (v : Value) : Decidable (Complete v) := decidable_of_iff _ (complete_iff v).symm

/-- The report on what a schema lacks first. -/
inductive Reports (v : Value) : String → Prop where
  | tableName {i : Nat} {t : Value}
      (table : FirstWithout TableRecord.Complete (v.entries "tables") i t)
      (name : t.field? "name" = none) :
      Reports v ("Failed to load table at index " ++ toString i ++ ": " ++ "'name'")
  | column {i j : Nat} {t c : Value} {key : String}
      (table : FirstWithout TableRecord.Complete (v.entries "tables") i t)
      (name : (t.field? "name").isSome)
      (column : FirstWithout ColumnRecord.Complete (t.entries "columns") j c)
      (missing : Demand.firstMissing? (ColumnRecord.demands c) = some key) :
      Reports v ("Failed to load table at index " ++ toString i ++ ": " ++
        ("Failed to load column at index " ++ toString j ++ ": " ++ ("'" ++ key ++ "'")))
  | relationship {i : Nat} {r : Value} {key : String}
      (tables : ∀ t ∈ v.entries "tables", TableRecord.Complete t)
      (relationship : FirstWithout RelationshipRecord.Complete (v.entries "relationships") i r)
      (missing : Demand.firstMissing? (RelationshipRecord.demands r) = some key) :
      Reports v ("Failed to load relationship at index " ++ toString i ++ ": " ++
        ("'" ++ key ++ "'"))

end SchemaRecord

theorem exists_firstWithout {α : Type} {P : α → Prop} {items : List α}
    (h : ¬∀ x ∈ items, P x) : ∃ i x, FirstWithout P items i x := by
  induction items with
  | nil => exact absurd (fun x hx => absurd hx List.not_mem_nil) h
  | cons x rest ih =>
      by_cases hx : P x
      · obtain ⟨i, y, hy⟩ := ih fun hrest => h (List.forall_mem_cons.mpr ⟨hx, hrest⟩)
        exact ⟨i + 1, y, hy.item, hy.lacks, List.forall_mem_cons.mpr ⟨hx, hy.before⟩⟩
      · exact ⟨0, x, rfl, hx, fun y hy => absurd hy List.not_mem_nil⟩

/-! ### Lists of entries -/

namespace Value

variable {α : Type} {kind : EntryKind} {load : Value → Except LoadError α} {items : List Value}

theorem exists_loadEntriesFrom_eq_ok (h : ∀ x ∈ items, ∃ a, load x = .ok a) (index : Nat) :
    ∃ as, loadEntriesFrom kind load index items = .ok as := by
  induction items generalizing index with
  | nil => exact ⟨[], rfl⟩
  | cons x rest ih =>
      obtain ⟨⟨a, ha⟩, hrest⟩ := List.forall_mem_cons.mp h
      obtain ⟨as, has⟩ := ih hrest (index + 1)
      exact ⟨a :: as, by rw [loadEntriesFrom, ha, has]⟩

/-- The first entry that is refused is reported with its position. -/
theorem loadEntriesFrom_eq_error {i : Nat} {x : Value} {cause : LoadError}
    (hx : items[i]? = some x) (hcause : load x = .error cause)
    (hbefore : ∀ y ∈ items.take i, ∃ a, load y = .ok a) (index : Nat) :
    loadEntriesFrom kind load index items = .error (.entry kind (index + i) cause) := by
  induction items generalizing i index with
  | nil => simp at hx
  | cons y rest ih =>
      cases i with
      | zero =>
          obtain rfl : y = x := by simpa using hx
          rw [loadEntriesFrom, hcause]
          rfl
      | succ i =>
          obtain ⟨⟨a, ha⟩, hrest⟩ := List.forall_mem_cons.mp hbefore
          rw [loadEntriesFrom, ha, ih hx hrest (index + 1), Nat.add_assoc, Nat.add_comm 1]

theorem loadEntries_eq {key : String} {v : Value} (h : v.holdsRecords key) :
    v.loadEntries kind load key = loadEntriesFrom kind load 0 (v.entries key) := by
  rw [holdsRecords] at h
  rw [loadEntries, entries]
  split at h <;> simp_all [loadEntriesFrom]

theorem isRecord_of_mem_entries {key : String} {v x : Value} (h : v.holdsRecords key)
    (hx : x ∈ v.entries key) : x.isRecord := by
  rw [holdsRecords] at h
  rw [entries] at hx
  split at h <;> simp_all

theorem exists_loadEntries_eq_ok (kind : EntryKind) {key : String} {v : Value}
    (hv : v.holdsRecords key) (h : ∀ x ∈ v.entries key, ∃ a, load x = .ok a) :
    ∃ as, v.loadEntries kind load key = .ok as := by
  rw [loadEntries_eq hv]
  exact exists_loadEntriesFrom_eq_ok h 0

theorem loadEntries_eq_error {P : Value → Prop} {key : String} {v x : Value} {i : Nat}
    {cause : LoadError} (hv : v.holdsRecords key) (hx : FirstWithout P (v.entries key) i x)
    (hload : ∀ y ∈ v.entries key, P y → ∃ a, load y = .ok a) (hcause : load x = .error cause) :
    v.loadEntries kind load key = .error (.entry kind i cause) := by
  rw [loadEntries_eq hv, loadEntriesFrom_eq_error hx.item hcause fun y hy =>
    hload y (List.mem_of_mem_take hy) (hx.before y hy), Nat.zero_add]

theorem required_of_isRecord {key : String} {v : Value} (hv : v.isRecord) :
    v.required key = (v.field? key).elim (.error (.missingField key)) .ok := by
  cases v with
  | record fields =>
      rw [required]
      cases (record fields).field? key <;> rfl
  | _ => cases hv

end Value

/-! ### Fields that are read in order -/

namespace Demand

variable {α β : Type} {ds : List Demand} {x : Except LoadError α}

/-- A reading succeeds if all of these fields are there, and otherwise reports the first one that
is missing. -/
def ReadBy (ds : List Demand) (x : Except LoadError α) : Prop :=
  ((∀ d ∈ ds, d.isMet) → ∃ a, x = .ok a) ∧
    ∀ key, firstMissing? ds = some key → x = .error (.missingField key)

theorem exists_firstMissing? (h : ¬∀ d ∈ ds, d.isMet) : ∃ key, firstMissing? ds = some key := by
  have hsome : (ds.find? (!·.isMet)).isSome := by
    rw [List.find?_isSome]
    simpa using h
  obtain ⟨d, hd⟩ := Option.isSome_iff_exists.mp hsome
  exact ⟨d.key, by rw [firstMissing?, hd]; rfl⟩

theorem readBy_ok (a : α) : ReadBy [] (.ok a) := ⟨fun _ => ⟨a, rfl⟩, nofun⟩

theorem readBy_cons {v : Value} {key : String} (hv : v.isRecord)
    {f : Value → Except LoadError α} (hf : ∀ a, ReadBy ds (f a)) :
    ReadBy (⟨v, key⟩ :: ds) (v.required key >>= f) := by
  rw [Value.required_of_isRecord hv]
  cases hfield : v.field? key with
  | none =>
      refine ⟨fun hmet => ?_, fun missing hmissing => ?_⟩
      · simp [isMet, hfield] at hmet
      · obtain rfl : key = missing := by simpa [firstMissing?, isMet, hfield] using hmissing
        rfl
  | some a =>
      refine ⟨fun hmet => (hf a).1 (List.forall_mem_cons.mp hmet).2, fun missing hmissing => ?_⟩
      exact (hf a).2 missing (by simpa [firstMissing?, isMet, hfield] using hmissing)

theorem ReadBy.bind (hx : ReadBy ds x) {f : α → Except LoadError β}
    (hf : ∀ a, ∃ b, f a = .ok b) : ReadBy ds (x >>= f) := by
  refine ⟨fun hmet => ?_, fun key hkey => ?_⟩
  · obtain ⟨a, rfl⟩ := hx.1 hmet
    exact hf a
  · rw [hx.2 key hkey]
    rfl

end Demand

open Demand

theorem ReferenceRecord.readBy {v : Value} (hv : v.isRecord) :
    ReadBy [⟨v, "table"⟩, ⟨v, "column"⟩] (ofValue v) :=
  readBy_cons hv fun _ => readBy_cons hv fun _ => readBy_ok _

theorem ColumnRecord.readBy {v : Value} (hv : Shaped v) : ReadBy (demands v) (ofValue v) := by
  refine readBy_cons hv.record fun name => ?_
  have hreference := hv.reference
  rw [Value.holdsOptional] at hreference
  cases hfield : v.field? "references" with
  | none => exact readBy_ok _
  | some reference =>
      cases reference with
      | null => exact readBy_ok _
      | record fields =>
          -- the reference is read as it is and then wrapped, which loses no field
          have hread : ReadBy [⟨.record fields, "table"⟩, ⟨.record fields, "column"⟩]
              (ReferenceRecord.ofValue? (.record fields)) :=
            (ReferenceRecord.readBy rfl).bind fun r => ⟨some r, rfl⟩
          exact hread.bind fun references => ⟨_, rfl⟩
      | _ => simp [hfield] at hreference

theorem RelationshipRecord.readBy {v : Value} (hv : v.isRecord) :
    ReadBy (demands v) (ofValue v) :=
  readBy_cons hv fun _ => readBy_cons hv fun _ => readBy_cons hv fun _ => readBy_cons hv fun _ =>
    readBy_ok _

/-! ### Tables -/

namespace TableRecord

variable {v c : Value} {j : Nat} {key : String}

theorem ofValue_eq_bind (hv : v.isRecord) : ofValue v = do
    let name ← v.required "name"
    let columns ← v.loadEntries .column ColumnRecord.ofValue "columns"
    return ⟨(v.field? "id").getD name, name, columns⟩ := by
  cases v with
  | record fields => rfl
  | _ => cases hv

theorem ofValue_of_name_eq_none (hv : Shaped v) (hname : v.field? "name" = none) :
    ofValue v = .error (.missingField "name") := by
  rw [ofValue_eq_bind hv.record, Value.required_of_isRecord hv.record, hname]
  rfl

theorem ofValue_of_name {name : Value} (hv : Shaped v) (hname : v.field? "name" = some name) :
    ofValue v = v.loadEntries .column ColumnRecord.ofValue "columns" >>= fun columns =>
      .ok ⟨(v.field? "id").getD name, name, columns⟩ := by
  rw [ofValue_eq_bind hv.record, Value.required_of_isRecord hv.record, hname]
  rfl

theorem exists_ofColumn (hv : Shaped v) : ∀ c ∈ v.entries "columns", ColumnRecord.Complete c →
    ∃ r, ColumnRecord.ofValue c = .ok r :=
  fun c hc => (ColumnRecord.readBy (hv.shaped c hc)).1

theorem exists_ofValue (hv : Shaped v) (h : Complete v) : ∃ r, ofValue v = .ok r := by
  obtain ⟨name, hname⟩ := Option.isSome_iff_exists.mp h.name
  obtain ⟨columns, hcolumns⟩ := Value.exists_loadEntries_eq_ok .column hv.columns
    fun c hc => exists_ofColumn hv c hc (h.columns c hc)
  rw [ofValue_of_name hv hname, hcolumns]
  exact ⟨_, rfl⟩

theorem ofValue_of_column (hv : Shaped v) (hname : (v.field? "name").isSome)
    (hc : FirstWithout ColumnRecord.Complete (v.entries "columns") j c)
    (hkey : firstMissing? (ColumnRecord.demands c) = some key) :
    ofValue v = .error (.entry .column j (.missingField key)) := by
  obtain ⟨name, hname⟩ := Option.isSome_iff_exists.mp hname
  have hcause := (ColumnRecord.readBy (hv.shaped c (List.mem_of_getElem? hc.item))).2 key hkey
  rw [ofValue_of_name hv hname,
    Value.loadEntries_eq_error hv.columns hc (exists_ofColumn hv) hcause]
  rfl

end TableRecord

/-! ### Schemas -/

theorem LoadError.message_entry {kind : EntryKind} {index : Nat} {cause : LoadError} :
    (LoadError.entry kind index cause).message =
      "Failed to load " ++ kind.word ++ " at index " ++ toString index ++ ": " ++ cause.message :=
  rfl

namespace SchemaRecord

variable {v t r : Value} {i : Nat} {key text : String} {cause : LoadError}

theorem ofValue_eq_bind (hv : v.isRecord) : ofValue v = do
    let tables ← v.loadEntries .table TableRecord.ofValue "tables"
    let relationships ← v.loadEntries .relationship RelationshipRecord.ofValue "relationships"
    return ⟨tables, relationships⟩ := by
  cases v with
  | record fields => rfl
  | _ => cases hv

theorem exists_ofTable (hv : Shaped v) : ∀ t ∈ v.entries "tables", TableRecord.Complete t →
    ∃ r, TableRecord.ofValue t = .ok r :=
  fun t ht => TableRecord.exists_ofValue (hv.shaped t ht)

theorem exists_ofRelationship (hv : Shaped v) : ∀ r ∈ v.entries "relationships",
    RelationshipRecord.Complete r → ∃ x, RelationshipRecord.ofValue r = .ok x :=
  fun _ hr => (RelationshipRecord.readBy (Value.isRecord_of_mem_entries hv.relationships hr)).1

theorem exists_loadTables (hv : Shaped v) (h : ∀ t ∈ v.entries "tables", TableRecord.Complete t) :
    ∃ tables, v.loadEntries .table TableRecord.ofValue "tables" = .ok tables :=
  Value.exists_loadEntries_eq_ok .table hv.tables fun t ht => exists_ofTable hv t ht (h t ht)

theorem exists_ofValue (hv : Shaped v) (h : Complete v) : ∃ s, ofValue v = .ok s := by
  obtain ⟨tables, htables⟩ := exists_loadTables hv h.tables
  obtain ⟨relationships, hrelationships⟩ :=
    Value.exists_loadEntries_eq_ok .relationship hv.relationships fun r hr =>
      exists_ofRelationship hv r hr (h.relationships r hr)
  rw [ofValue_eq_bind hv.record, htables, hrelationships]
  exact ⟨_, rfl⟩

theorem ofValue_of_table (hv : Shaped v)
    (ht : FirstWithout TableRecord.Complete (v.entries "tables") i t)
    (hcause : TableRecord.ofValue t = .error cause) :
    ofValue v = .error (.entry .table i cause) := by
  rw [ofValue_eq_bind hv.record,
    Value.loadEntries_eq_error hv.tables ht (exists_ofTable hv) hcause]
  rfl

theorem ofValue_of_relationship (hv : Shaped v)
    (htables : ∀ t ∈ v.entries "tables", TableRecord.Complete t)
    (hr : FirstWithout RelationshipRecord.Complete (v.entries "relationships") i r)
    (hkey : firstMissing? (RelationshipRecord.demands r) = some key) :
    ofValue v = .error (.entry .relationship i (.missingField key)) := by
  obtain ⟨tables, htables⟩ := exists_loadTables hv htables
  have hrecord := Value.isRecord_of_mem_entries hv.relationships (List.mem_of_getElem? hr.item)
  have hcause := (RelationshipRecord.readBy hrecord).2 key hkey
  rw [ofValue_eq_bind hv.record, htables]
  change (v.loadEntries .relationship RelationshipRecord.ofValue "relationships" >>= _) = _
  rw [Value.loadEntries_eq_error hv.relationships hr (exists_ofRelationship hv) hcause]
  rfl

theorem Reports.exists_error (hv : Shaped v) (h : Reports v text) : ∃ kind index cause,
    ofValue v = .error (.entry kind index cause) ∧
      (LoadError.entry kind index cause).message = text := by
  cases h with
  | tableName htable hname =>
      have hshaped := hv.shaped _ (List.mem_of_getElem? htable.item)
      refine ⟨_, _, _, ofValue_of_table hv htable
        (TableRecord.ofValue_of_name_eq_none hshaped hname), ?_⟩
      rw [LoadError.message_entry]
      rfl
  | column htable hname hcolumn hmissing =>
      have hshaped := hv.shaped _ (List.mem_of_getElem? htable.item)
      refine ⟨_, _, _, ofValue_of_table hv htable
        (TableRecord.ofValue_of_column hshaped hname hcolumn hmissing), ?_⟩
      rw [LoadError.message_entry, LoadError.message_entry]
      rfl
  | relationship htables hrelationship hmissing =>
      refine ⟨_, _, _, ofValue_of_relationship hv htables hrelationship hmissing, ?_⟩
      rw [LoadError.message_entry]
      rfl

/-- There is something to report, unless every record has what it must have. -/
theorem exists_reports (h : ¬Complete v) : ∃ text, Reports v text := by
  by_cases htables : ∀ t ∈ v.entries "tables", TableRecord.Complete t
  · have hrelationships : ¬∀ r ∈ v.entries "relationships", RelationshipRecord.Complete r :=
      fun hall => h ⟨htables, hall⟩
    obtain ⟨i, r, hr⟩ := exists_firstWithout hrelationships
    obtain ⟨key, hkey⟩ := exists_firstMissing? hr.lacks
    exact ⟨_, .relationship htables hr hkey⟩
  · obtain ⟨i, t, ht⟩ := exists_firstWithout htables
    cases hname : t.field? "name" with
    | none => exact ⟨_, .tableName ht hname⟩
    | some name =>
        have hsome : (t.field? "name").isSome := Option.isSome_iff_exists.mpr ⟨name, hname⟩
        obtain ⟨j, c, hc⟩ := exists_firstWithout fun hall => ht.lacks ⟨hsome, hall⟩
        obtain ⟨key, hkey⟩ := exists_firstMissing? hc.lacks
        exact ⟨_, .column ht hsome hc hkey⟩

/-- A schema is read just if every record of it has the fields that it must have. Otherwise the
error is the report on the first of its records that does not: by the position of a table and, if
the table has a name, of a column, or by the position of a relationship if no table lacks anything,
and by the first key that is missing. -/
theorem ofValue_reports (hv : Shaped v) :
    ((∃ s, ofValue v = .ok s) ↔ Complete v) ∧
      (¬Complete v → ∃ kind index cause, ofValue v = .error (.entry kind index cause) ∧
        ∀ text, Reports v text ↔ text = (LoadError.entry kind index cause).message) := by
  refine ⟨⟨fun ⟨s, hs⟩ => ?_, exists_ofValue hv⟩, fun hincomplete => ?_⟩
  · -- what is incomplete is reported, and so has not been read
    by_contra hincomplete
    obtain ⟨text, hreports⟩ := exists_reports hincomplete
    obtain ⟨kind, index, cause, herror, -⟩ := hreports.exists_error hv
    cases hs.symm.trans herror
  · obtain ⟨text, hreports⟩ := exists_reports hincomplete
    obtain ⟨kind, index, cause, herror, rfl⟩ := hreports.exists_error hv
    refine ⟨kind, index, cause, herror, fun text => ⟨fun htext => ?_, fun he => he ▸ hreports⟩⟩
    -- there is only one error, so there is only one report
    obtain ⟨kind', index', cause', herror', rfl⟩ := htext.exists_error hv
    cases herror.symm.trans herror'
    rfl

def brokenOrders : Value :=
  .record [("name", .text "orders"), ("columns", .list [
    .record [("name", .text "id"), ("references", .null)],
    .record [("name", .text "user_id"), ("references", .record [("table", .text "users")])],
    .record [("type", .text "INT")]])]

def brokenShop : Value :=
  .record [
    ("tables", .list [
      .record [("name", .text "users"), ("columns", .list [.record [("name", .text "id")]])],
      brokenOrders,
      .record [("id", .text "items")]]),
    ("relationships", .list [.record []])]

theorem ofValue_reports_brokenShop : Shaped brokenShop ∧ ¬Complete brokenShop ∧
    (¬∃ s, ofValue brokenShop = .ok s) ∧
      ∃ kind index cause, ofValue brokenShop = .error (.entry kind index cause) ∧
        (LoadError.entry kind index cause).message =
          "Failed to load table at index 1: Failed to load column at index 1: 'column'" := by
  have hshaped : Shaped brokenShop := by decide
  have hincomplete : ¬Complete brokenShop := by decide
  obtain ⟨hread, hreports⟩ := ofValue_reports hshaped
  obtain ⟨kind, index, cause, herror, hmessage⟩ := hreports hincomplete
  have htable : FirstWithout TableRecord.Complete (brokenShop.entries "tables") 1 brokenOrders :=
    ⟨rfl, by decide, by decide⟩
  have hcolumn : FirstWithout ColumnRecord.Complete (brokenOrders.entries "columns") 1
      (.record [("name", .text "user_id"), ("references", .record [("table", .text "users")])]) :=
    ⟨rfl, by decide, by decide⟩
  have htext := (hmessage _).mp (.column htable (by decide) hcolumn rfl)
  refine ⟨hshaped, hincomplete, fun h => hincomplete (hread.mp h), kind, index, cause, herror, ?_⟩
  exact htext.symm.trans (by decide)

end SchemaRecord

end EntityMap
