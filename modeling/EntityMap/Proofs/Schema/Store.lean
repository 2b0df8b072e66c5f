import Mathlib.Data.List.Nodup
import EntityMap.Proofs.Relationship.Collection
import EntityMap.Proofs.Schema.Link

/-!
The tables and relationships of a schema as a store. A table is stored under its exact name and
takes the place of the one that has it; the names and their order stay, or one is added at the end.
-/

namespace EntityMap.Schema

variable {s : Schema} {t x : Table}

theorem hasTable_iff {name : String} :
    s.hasTable name = true ↔ name ∈ s.tables.map (·.name) := by
  simp [hasTable]

@[simp] theorem relationships_addTable (s : Schema) (t : Table) :
    (s.addTable t).relationships = s.relationships := by
  rw [addTable]
  split <;> rfl

theorem tables_addTable_congr {s' : Schema} (h : s.tables = s'.tables) :
    (s.addTable t).tables = (s'.addTable t).tables := by
  rw [addTable, addTable, h]
  split <;> rfl

theorem addTable_of_notMem (h : t.name ∉ s.tables.map (·.name)) :
    s.addTable t = { s with tables := s.tables ++ [t] } := by
  have hnone : s.tables.findIdx? (·.name == t.name) = none := by
    rw [List.findIdx?_eq_none_iff]
    intro y hy
    simpa using fun he : y.name = t.name => h (he ▸ List.mem_map_of_mem hy)
  rw [addTable, hnone]

/-- The table that is replaced has the same name, so the names stay as they are. -/
theorem exists_set_of_mem (h : t.name ∈ s.tables.map (·.name)) :
    ∃ i a, s.tables[i]? = some a ∧ a.name = t.name ∧
      s.addTable t = { s with tables := s.tables.set i t } := by
  cases hi : s.tables.findIdx? (·.name == t.name) with
  | none =>
      obtain ⟨y, hy, he⟩ := List.mem_map.mp h
      have := List.findIdx?_eq_none_iff.mp hi y hy
      simp [he] at this
  | some i =>
      obtain ⟨hlt, hname, -⟩ := List.findIdx?_eq_some_iff_getElem.mp hi
      exact ⟨i, s.tables[i], List.getElem?_eq_getElem hlt, by simpa using hname,
        by rw [addTable, hi]⟩

theorem names_addTable_of_mem (h : t.name ∈ s.tables.map (·.name)) :
    (s.addTable t).tables.map (·.name) = s.tables.map (·.name) := by
  obtain ⟨i, a, ha, hname, he⟩ := exists_set_of_mem h
  rw [he]
  refine List.ext_getElem? fun k => ?_
  simp only [List.getElem?_map, List.getElem?_set]
  by_cases hk : i = k
  · subst hk
    obtain ⟨hlt, rfl⟩ := List.getElem?_eq_some_iff.mp ha
    simp [hlt, hname]
  · simp [hk]

theorem names_addTable_of_notMem (h : t.name ∉ s.tables.map (·.name)) :
    (s.addTable t).tables.map (·.name) = s.tables.map (·.name) ++ [t.name] := by
  rw [addTable_of_notMem h, List.map_append, List.map_singleton]

theorem names_nodup_addTable (h : (s.tables.map (·.name)).Nodup) :
    ((s.addTable t).tables.map (·.name)).Nodup := by
  by_cases ht : t.name ∈ s.tables.map (·.name)
  · rwa [names_addTable_of_mem ht]
  · rw [names_addTable_of_notMem ht]
    refine List.nodup_append.mpr ⟨h, List.nodup_singleton _, ?_⟩
    intro a ha b hb hab
    rw [hab, List.mem_singleton.mp hb] at ha
    exact ht ha

theorem mem_names_addTable {name : String} :
    name ∈ (s.addTable t).tables.map (·.name) ↔ name ∈ s.tables.map (·.name) ∨ name = t.name := by
  by_cases ht : t.name ∈ s.tables.map (·.name)
  · rw [names_addTable_of_mem ht]
    exact ⟨Or.inl, fun h => h.elim (fun hmem => hmem) fun he => he ▸ ht⟩
  · rw [names_addTable_of_notMem ht]
    simp

theorem mem_or_eq_of_mem_addTable (h : x ∈ (s.addTable t).tables) : x ∈ s.tables ∨ x = t := by
  by_cases ht : t.name ∈ s.tables.map (·.name)
  · obtain ⟨i, a, -, -, he⟩ := exists_set_of_mem ht
    rw [he] at h
    exact List.mem_or_eq_of_mem_set h
  · rw [addTable_of_notMem ht] at h
    simpa using h

/-- Where names are distinct, a table that is there already is put in its place. -/
theorem tables_addTable_of_mem (hs : (s.tables.map (·.name)).Nodup)
    (h : t.name ∈ s.tables.map (·.name)) :
    (s.addTable t).tables = s.tables.map fun y => if y.name = t.name then t else y := by
  obtain ⟨i, a, ha, hname, he⟩ := exists_set_of_mem h
  rw [he, ← hname, ← modify_eq_map_of_nodup hs ha fun _ => t]
  exact List.set_eq_modify ..

/-- Where names are distinct, nothing of the replaced table is left. -/
theorem mem_addTable_iff (hs : (s.tables.map (·.name)).Nodup) :
    x ∈ (s.addTable t).tables ↔ x = t ∨ x ∈ s.tables ∧ x.name ≠ t.name := by
  by_cases ht : t.name ∈ s.tables.map (·.name)
  · obtain ⟨a, ha, hname⟩ := List.mem_map.mp ht
    rw [tables_addTable_of_mem hs ht, List.mem_map]
    constructor
    · rintro ⟨y, hy, rfl⟩
      by_cases hyt : y.name = t.name
      · exact Or.inl (if_pos hyt)
      · rw [if_neg hyt]
        exact Or.inr ⟨hy, hyt⟩
    · rintro (rfl | ⟨hx, hxt⟩)
      · exact ⟨a, ha, if_pos hname⟩
      · exact ⟨x, hx, if_neg hxt⟩
  · rw [addTable_of_notMem ht, List.mem_append, List.mem_singleton]
    constructor
    · rintro (hx | rfl)
      · exact Or.inr ⟨hx, fun he => ht (he ▸ List.mem_map_of_mem hx)⟩
      · exact Or.inl rfl
    · rintro (rfl | ⟨hx, -⟩)
      · exact Or.inr rfl
      · exact Or.inl hx

theorem foldl_addRelationship (s : Schema) (rs : List Relationship) :
    rs.foldl addRelationship s =
      { s with relationships := rs.foldl Relationship.appendUnique s.relationships } := by
  induction rs generalizing s with
  | nil => rfl
  | cons r rs ih => rw [List.foldl_cons, ih]; rfl

end EntityMap.Schema
