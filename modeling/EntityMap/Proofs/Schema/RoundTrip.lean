import EntityMap.Proofs.Relationship.Identity
import EntityMap.Proofs.Schema.Record

/-!
What is written as data is read back. Reading rewrites some records: it makes a primary key not
nullable and derives an id that is missing. A record that needs no such change is normal. What has
been read is normal, and a normal record is read back as it was written.
-/

namespace EntityMap

/-- No primary key of the record is nullable, and no relationship is without an id. -/
structure SchemaRecord.Normal (s : SchemaRecord) : Prop where
  keys : ∀ t ∈ s.tables, ∀ c ∈ t.columns, c.isPrimaryKey → c.isNotNull
  ids : ∀ r ∈ s.relationships, r.id.isTruthy

/-! ### What is read -/

theorem RelationshipRecord.isTruthy_id_of_ofValue {v : Value} {r : RelationshipRecord}
    (h : ofValue v = .ok r) : r.id.isTruthy := by
  simp only [ofValue, bind_eq_ok_iff] at h
  obtain ⟨sourceTable, -, sourceColumn, -, targetTable, -, targetColumn, -, h⟩ := h
  cases h
  dsimp only
  split
  · next hid => exact hid
  · exact bne_iff_ne.mpr (Relationship.idOf_ne_empty _ _ _ _)

theorem SchemaRecord.normal_of_ofValue {v : Value} {s : SchemaRecord} (h : ofValue v = .ok s) :
    s.Normal := by
  refine ⟨notNull_of_ofValue h, fun r hr => ?_⟩
  cases v with
  | record fields =>
      simp only [ofValue, bind_eq_ok_iff] at h
      obtain ⟨tables, -, relationships, hrelationships, h⟩ := h
      cases h
      obtain ⟨x, hx⟩ := Value.exists_of_mem_loadEntries hrelationships hr
      exact RelationshipRecord.isTruthy_id_of_ofValue hx
  | _ => cases h

/-! ### What is read back -/

theorem Value.loadEntriesFrom_map {α : Type} {kind : EntryKind} {load : Value → Except LoadError α}
    {write : α → Value} {as : List α} (h : ∀ a ∈ as, load (write a) = .ok a) (index : Nat) :
    loadEntriesFrom kind load index (as.map write) = .ok as := by
  induction as generalizing index with
  | nil => rfl
  | cons a as ih =>
      have hrest := ih (fun b hb => h b (List.mem_cons_of_mem a hb)) (index + 1)
      simp only [List.map_cons, loadEntriesFrom, h a List.mem_cons_self, hrest]

theorem ColumnRecord.ofValue_toValue {c : ColumnRecord} (hc : c.isPrimaryKey → c.isNotNull) :
    ofValue c.toValue = .ok c := by
  have hnull : (c.isNotNull || c.isPrimaryKey) = c.isNotNull := Bool.or_eq_left_iff_imp.mpr hc
  -- a default or a reference may be left out, and what comes after it then moves up
  have hdefault : (c.toValue.field? "defaultValue").getD .null = c.defaultValue := by
    rw [toValue, Value.field?]
    cases c.defaultValue <;> cases c.references <;> rfl
  have hreference : ReferenceRecord.ofValue? ((c.toValue.field? "references").getD .null) =
      .ok c.references := by
    rw [toValue, Value.field?]
    cases c.defaultValue <;> cases c.references <;> rfl
  rw [ofValue, hreference, hdefault]
  change Except.ok { c with isNotNull := c.isNotNull || c.isPrimaryKey } = _
  rw [hnull]

theorem TableRecord.ofValue_toValue {t : TableRecord}
    (ht : ∀ c ∈ t.columns, c.isPrimaryKey → c.isNotNull) : ofValue t.toValue = .ok t := by
  have hcolumns : t.toValue.loadEntries .column ColumnRecord.ofValue "columns" = .ok t.columns :=
    Value.loadEntriesFrom_map (fun c hc => ColumnRecord.ofValue_toValue (ht c hc)) 0
  unfold ofValue
  rw [hcolumns]
  rfl

theorem RelationshipRecord.ofValue_toValue {r : RelationshipRecord} (hr : r.id.isTruthy) :
    ofValue r.toValue = .ok r := by
  change Except.ok { r with id := if r.id.isTruthy then r.id else _ } = _
  rw [if_pos hr]

theorem SchemaRecord.ofValue_toValue {s : SchemaRecord} (hs : s.Normal) :
    ofValue s.toValue = .ok s := by
  have htables : s.toValue.loadEntries .table TableRecord.ofValue "tables" = .ok s.tables :=
    Value.loadEntriesFrom_map (fun t ht => TableRecord.ofValue_toValue (hs.keys t ht)) 0
  have hrelationships : s.toValue.loadEntries .relationship RelationshipRecord.ofValue
      "relationships" = .ok s.relationships :=
    Value.loadEntriesFrom_map (fun r hr => RelationshipRecord.ofValue_toValue (hs.ids r hr)) 0
  unfold ofValue
  rw [htables, hrelationships]
  rfl

end EntityMap
