import EntityMap.Schema.Record
import EntityMap.Service.Payload

/-!
The form in which a schema is sent loses nothing. What is sent is read back, and the data of every
schema has the form and is sent as it is.
-/

namespace EntityMap

theorem Value.mapM_map {α : Type} {read : Value → Option α} {write : α → Value}
    (h : ∀ a, read (write a) = some a) (as : List α) : (as.map write).mapM read = some as := by
  induction as with
  | nil => rfl
  | cons a as ih => rw [List.map_cons, List.mapM_cons, h, ih]; rfl

namespace Service

/-! ### What is sent is read back -/

theorem ReferencePayload.ofValue?_toValue (r : ReferencePayload) : ofValue? r.toValue = some r :=
  rfl

/-- An optional field moves up if the one before it is left out. -/
theorem ColumnPayload.ofValue?_toValue (c : ColumnPayload) : ofValue? c.toValue = some c := by
  obtain ⟨name, type, key, foreign, notNull, unique, defaultValue, references⟩ := c
  cases defaultValue <;> cases references <;> rfl

theorem TablePayload.ofValue?_toValue (t : TablePayload) : ofValue? t.toValue = some t := by
  have hcolumns : t.toValue.field "columns" (Value.list? ColumnPayload.ofValue?) = some t.columns :=
    Value.mapM_map ColumnPayload.ofValue?_toValue t.columns
  rw [ofValue?, hcolumns]
  rfl

theorem RelationshipPayload.ofValue?_toValue (r : RelationshipPayload) :
    ofValue? r.toValue = some r := rfl

theorem SchemaPayload.ofValue?_toValue (s : SchemaPayload) : ofValue? s.toValue = some s := by
  have htables : s.toValue.field "tables" (Value.list? TablePayload.ofValue?) = some s.tables :=
    Value.mapM_map TablePayload.ofValue?_toValue s.tables
  have hrelationships : s.toValue.field "relationships"
      (Value.list? RelationshipPayload.ofValue?) = some s.relationships :=
    Value.mapM_map RelationshipPayload.ofValue?_toValue s.relationships
  rw [ofValue?, htables, hrelationships]
  rfl

/-! ### The form of a schema -/

def ReferencePayload.ofReference (r : ColumnReference) : ReferencePayload := ⟨r.table, r.column⟩

def ColumnPayload.ofColumn (c : Column) : ColumnPayload where
  name := c.name
  type := c.type
  isPrimaryKey := c.isPrimaryKey
  isForeignKey := c.isForeignKey
  isNotNull := c.isNotNull
  isUnique := c.isUnique
  defaultValue := c.defaultValue
  references := c.references.map ReferencePayload.ofReference

def TablePayload.ofTable (t : Table) : TablePayload :=
  ⟨t.id, t.name, t.columns.map ColumnPayload.ofColumn⟩

def RelationshipPayload.ofRelationship (r : Relationship) : RelationshipPayload where
  id := r.id
  sourceTable := r.sourceTable
  sourceColumn := r.sourceColumn
  targetTable := r.targetTable
  targetColumn := r.targetColumn
  type := r.type

def SchemaPayload.ofSchema (s : Schema) : SchemaPayload :=
  ⟨s.tables.map TablePayload.ofTable, s.relationships.map RelationshipPayload.ofRelationship⟩

theorem ColumnPayload.toValue_ofColumn (c : Column) :
    (ofColumn c).toValue = c.toRecord.toValue := by
  obtain ⟨name, type, key, foreign, notNull, unique, references, defaultValue⟩ := c
  cases defaultValue <;> cases references <;> rfl

theorem TablePayload.toValue_ofTable (t : Table) : (ofTable t).toValue = t.toRecord.toValue := by
  simp only [toValue, ofTable, TableRecord.toValue, Table.toRecord, List.map_map,
    Function.comp_def, ColumnPayload.toValue_ofColumn]

theorem SchemaPayload.toValue_ofSchema (s : Schema) : (ofSchema s).toValue = s.toValue := by
  have hrelationships : ∀ r : Relationship,
      (RelationshipPayload.ofRelationship r).toValue = r.toRecord.toValue := fun _ => rfl
  simp only [toValue, ofSchema, Schema.toValue, SchemaRecord.toValue, Schema.toRecord,
    List.map_map, Function.comp_def, TablePayload.toValue_ofTable, hrelationships]

/-- The data of a schema has the form. -/
theorem SchemaPayload.ofValue?_schema (s : Schema) : ofValue? s.toValue = some (ofSchema s) := by
  rw [← toValue_ofSchema, ofValue?_toValue]

end Service

end EntityMap
