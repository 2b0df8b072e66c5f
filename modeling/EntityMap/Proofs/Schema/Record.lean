import Mathlib.Data.List.Nodup
import EntityMap.Schema.Record

/-!
What is loaded. Reading a schema goes by its record: whatever the data is, a column of the record is
not nullable if it belongs to the primary key, and a schema is read exactly from the record that it
is written as.
-/

namespace EntityMap

section

variable {ε α β : Type}

theorem bind_eq_ok_iff {x : Except ε α} {f : α → Except ε β} {b : β} :
    (x >>= f) = .ok b ↔ ∃ a, x = .ok a ∧ f a = .ok b := by
  cases x <;> simp [Bind.bind, Except.bind]

theorem map_eq_ok_iff {x : Except ε α} {f : α → β} {b : β} :
    f <$> x = .ok b ↔ ∃ a, x = .ok a ∧ f a = b := by
  cases x <;> simp [Functor.map, Except.map]

theorem mapM_eq_ok_iff {f : α → Except ε β} {g : β → α} (hf : ∀ a b, f a = .ok b ↔ a = g b)
    {as : List α} {bs : List β} : as.mapM f = .ok bs ↔ as = bs.map g := by
  induction as generalizing bs with
  | nil => cases bs <;> simp [pure, Except.pure]
  | cons a as ih =>
      cases bs with
      | nil => simp [List.mapM_cons, bind_eq_ok_iff, map_eq_ok_iff]
      | cons b bs => simp [List.mapM_cons, bind_eq_ok_iff, map_eq_ok_iff, hf, ih]

/-- What is loaded from a list comes from its entries. -/
theorem Value.exists_of_mem_loadEntriesFrom {kind : EntryKind} {load : Value → Except LoadError α}
    {index : Nat} {items : List Value} {as : List α} {a : α}
    (h : loadEntriesFrom kind load index items = .ok as) (ha : a ∈ as) :
    ∃ x ∈ items, load x = .ok a := by
  induction items generalizing index as with
  | nil =>
      cases h
      exact absurd ha List.not_mem_nil
  | cons x rest ih =>
      rw [loadEntriesFrom] at h
      cases hload : load x with
      | error cause => simp [hload] at h
      | ok b =>
          cases hrest : loadEntriesFrom kind load (index + 1) rest with
          | error cause => simp [hload, hrest] at h
          | ok bs =>
              simp only [hload, hrest, Except.ok.injEq] at h
              subst h
              rcases List.mem_cons.mp ha with rfl | ha
              · exact ⟨x, List.mem_cons_self, hload⟩
              · obtain ⟨y, hy, hya⟩ := ih hrest ha
                exact ⟨y, List.mem_cons_of_mem x hy, hya⟩

theorem Value.exists_of_mem_loadEntries {kind : EntryKind} {load : Value → Except LoadError α}
    {key : String} {v : Value} {as : List α} {a : α} (h : v.loadEntries kind load key = .ok as)
    (ha : a ∈ as) : ∃ x, load x = .ok a := by
  rw [loadEntries] at h
  split at h
  · obtain ⟨x, -, hx⟩ := exists_of_mem_loadEntriesFrom h ha
    exact ⟨x, hx⟩
  · split at h
    · cases h
    · cases h
      exact absurd ha List.not_mem_nil
  · cases h
    exact absurd ha List.not_mem_nil

end

/-! ### Keys of records -/

theorem ColumnRecord.notNull_of_ofValue {v : Value} {r : ColumnRecord} (h : ofValue v = .ok r)
    (hkey : r.isPrimaryKey) : r.isNotNull := by
  simp only [ofValue, bind_eq_ok_iff] at h
  obtain ⟨name, -, references, -, h⟩ := h
  cases h
  exact Bool.or_eq_true_iff.mpr (Or.inr hkey)

theorem TableRecord.notNull_of_ofValue {v : Value} {r : TableRecord} (h : ofValue v = .ok r) :
    ∀ c ∈ r.columns, c.isPrimaryKey → c.isNotNull := by
  intro c hc
  cases v with
  | record fields =>
      simp only [ofValue, bind_eq_ok_iff] at h
      obtain ⟨name, -, columns, hcolumns, h⟩ := h
      cases h
      obtain ⟨x, hx⟩ := Value.exists_of_mem_loadEntries hcolumns hc
      exact ColumnRecord.notNull_of_ofValue hx
  | _ => cases h

theorem SchemaRecord.notNull_of_ofValue {v : Value} {r : SchemaRecord} (h : ofValue v = .ok r) :
    ∀ t ∈ r.tables, ∀ c ∈ t.columns, c.isPrimaryKey → c.isNotNull := by
  intro t ht
  cases v with
  | record fields =>
      simp only [ofValue, bind_eq_ok_iff] at h
      obtain ⟨tables, htables, relationships, -, h⟩ := h
      cases h
      obtain ⟨x, hx⟩ := Value.exists_of_mem_loadEntries htables ht
      exact TableRecord.notNull_of_ofValue hx
  | _ => cases h

/-! ### Records with texts for names -/

theorem Value.requireText_eq_ok_iff {key : String} {v : Value} {s : String} :
    v.requireText key = .ok s ↔ v = .text s := by
  cases v <;> simp [requireText]

theorem ColumnReference.ofRecord_eq_ok_iff {r : ReferenceRecord} {x : ColumnReference} :
    ofRecord r = .ok x ↔ r = x.toRecord := by
  cases r
  cases x
  simp [ofRecord, toRecord, bind_eq_ok_iff, map_eq_ok_iff, Value.requireText_eq_ok_iff]

theorem Column.ofRecord_eq_ok_iff {r : ColumnRecord} {c : Column} :
    ofRecord r = .ok c ↔ r = c.toRecord := by
  obtain ⟨name, type, key, foreign, notNull, unique, references, default⟩ := r
  obtain ⟨name', type', key', foreign', notNull', unique', references', default'⟩ := c
  cases references <;> cases default <;> cases references' <;> cases default' <;>
    simp [ofRecord, toRecord, Value.ofText?, bind_eq_ok_iff, map_eq_ok_iff,
      Value.requireText_eq_ok_iff, ColumnReference.ofRecord_eq_ok_iff] <;> tauto

theorem Table.ofRecord_eq_ok_iff {r : TableRecord} {t : Table} :
    ofRecord r = .ok t ↔ r = t.toRecord := by
  cases r
  cases t
  simp [ofRecord, toRecord, bind_eq_ok_iff, map_eq_ok_iff, Value.requireText_eq_ok_iff,
    mapM_eq_ok_iff fun _ _ => Column.ofRecord_eq_ok_iff]

theorem Relationship.ofRecord_eq_ok_iff {x : RelationshipRecord} {r : Relationship} :
    ofRecord x = .ok r ↔ x = r.toRecord := by
  cases x
  cases r
  simp [ofRecord, toRecord, bind_eq_ok_iff, map_eq_ok_iff, Value.requireText_eq_ok_iff]

theorem Schema.ofRecord_eq_ok_iff {r : SchemaRecord} {s : Schema} :
    ofRecord r = .ok s ↔ r = s.toRecord := by
  cases r
  cases s
  simp [ofRecord, toRecord, bind_eq_ok_iff, map_eq_ok_iff,
    mapM_eq_ok_iff fun _ _ => Table.ofRecord_eq_ok_iff,
    mapM_eq_ok_iff fun _ _ => Relationship.ofRecord_eq_ok_iff]

theorem Schema.ofValue_eq_ok_iff {v : Value} {s : Schema} :
    ofValue v = .ok s ↔ SchemaRecord.ofValue v = .ok s.toRecord := by
  simp [ofValue, bind_eq_ok_iff, ofRecord_eq_ok_iff]

end EntityMap
