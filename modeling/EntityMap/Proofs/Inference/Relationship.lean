import Mathlib.Data.List.InsertIdx
import EntityMap.Proofs.Schema.WellFormed

/-!
Relationships that are inferred from names. Every inferred link is sound, so inference keeps a
schema well-formed. What is inferred is read off the skeleton: neither the marks of columns nor the
relationships that are already there take part.
-/

namespace EntityMap.Schema

open Identifier Relationship

variable {s : Schema} {tables : List Table} {l : Link}

theorem mem_of_match? {others : List Table} {base : String} {t : Table}
    (h : match? others base = some t) : t ∈ others := by
  rcases Option.or_eq_some_iff.mp h with h | ⟨-, h⟩
  · obtain ⟨candidate, -, hfind⟩ := List.exists_of_findSome?_eq_some h
    exact List.mem_of_find?_eq_some hfind
  · exact List.mem_of_find?_eq_some h

theorem inferredLink?_of_primaryKey {i j : Nat} {t : Table} {c : Column}
    (h : c.isPrimaryKey = true) : inferredLink? tables i t j c = none := by
  have hguard : (guard (!c.isPrimaryKey) : Option Unit) = none := by rw [h]; rfl
  rw [inferredLink?, hguard]
  rfl

theorem inferredLink?_of_not_primaryKey {i j : Nat} {t : Table} {c : Column}
    (h : c.isPrimaryKey = false) :
    inferredLink? tables i t j c = (Naming.base? c.name).bind fun base =>
      (match? (otherTables tables i) base).bind fun target =>
        (ofNames? t.name c.name target.name (keyName target)).map fun r =>
          ⟨i, j, r, ⟨target.name, keyName target⟩⟩ := by
  have hguard : (guard (!c.isPrimaryKey) : Option Unit) = some () := by rw [h]; rfl
  rw [inferredLink?, hguard]
  simp only [Option.bind_eq_bind, Option.bind_some, Option.pure_def, Option.map_eq_bind,
    Function.comp_def]

theorem inferredLink?_eq_some_iff {i j : Nat} {t : Table} {c : Column} :
    inferredLink? tables i t j c = some l ↔ c.isPrimaryKey = false ∧ ∃ base target r,
      Naming.base? c.name = some base ∧ match? (otherTables tables i) base = some target ∧
      ofNames? t.name c.name target.name (keyName target) = some r ∧
      ⟨i, j, r, ⟨target.name, keyName target⟩⟩ = l := by
  cases hkey : c.isPrimaryKey with
  | true => simp [inferredLink?_of_primaryKey hkey]
  | false =>
      simp only [inferredLink?_of_not_primaryKey hkey, Option.bind_eq_some_iff,
        Option.map_eq_some_iff, true_and]
      constructor
      · rintro ⟨base, hbase, target, htarget, r, hr, hl⟩
        exact ⟨base, target, r, hbase, htarget, hr, hl⟩
      · rintro ⟨base, target, r, hbase, htarget, hr, hl⟩
        exact ⟨base, hbase, target, htarget, r, hr, hl⟩

/-- The inferred links of all columns, in the order of tables and columns. -/
def inferredLinks (tables : List Table) : List Link :=
  tables.zipIdx.flatMap fun (t, i) =>
    t.columns.zipIdx.filterMap fun (c, j) => inferredLink? tables i t j c

theorem mem_inferredLinks : l ∈ inferredLinks tables ↔ ∃ i t j c, tables[i]? = some t ∧
    t.columns[j]? = some c ∧ inferredLink? tables i t j c = some l := by
  simp only [inferredLinks, List.mem_flatMap, List.mem_filterMap, Prod.exists,
    List.mem_zipIdx_iff_getElem?]
  constructor
  · rintro ⟨t, i, ht, c, j, hc, hl⟩
    exact ⟨i, t, j, c, ht, hc, hl⟩
  · rintro ⟨i, t, j, c, ht, hc, hl⟩
    exact ⟨t, i, ht, c, j, hc, hl⟩

theorem keyName_eq_or (t : Table) :
    (∃ c ∈ t.columns, c.isPrimaryKey ∧ keyName t = c.name) ∨
      (∀ c ∈ t.columns, c.isPrimaryKey = false) ∧ keyName t = fallbackKey := by
  rw [keyName]
  cases h : t.primaryKeyColumns with
  | nil =>
      refine Or.inr ⟨fun c hc => ?_, rfl⟩
      simpa using List.filter_eq_nil_iff.mp h c hc
  | cons c rest =>
      have hmem : c ∈ t.primaryKeyColumns := h ▸ List.mem_cons_self
      exact Or.inl ⟨c, (List.mem_filter.mp hmem).1, (List.mem_filter.mp hmem).2, rfl⟩

theorem clean_keyName {t : Table} (ht : t.WellFormed) : clean (keyName t) = keyName t := by
  rcases keyName_eq_or t with ⟨c, hc, -, he⟩ | ⟨-, he⟩
  · rw [he, (ht.columns c hc).name]
  · rw [he]
    decide

/-- An inferred link leads from a column to the key of a table, by their names. -/
theorem exists_of_mem_inferredLinks (hs : s.WellFormed) (h : l ∈ inferredLinks s.tables) :
    ∃ i t j c target, s.tables[i]? = some t ∧ t.columns[j]? = some c ∧
      inferredLink? s.tables i t j c = some l ∧ target ∈ s.tables ∧
      l = ⟨i, j, between t.name c.name target.name (keyName target),
        ⟨target.name, keyName target⟩⟩ ∧
      l.relationship.WellFormed := by
  obtain ⟨i, t, j, c, ht, hc, hl⟩ := mem_inferredLinks.mp h
  obtain ⟨-, base, target, r, -, htarget, hr, rfl⟩ := inferredLink?_eq_some_iff.mp hl
  have htable := hs.tables t (List.mem_of_getElem? ht)
  have hcolumn := htable.columns c (List.mem_of_getElem? hc)
  have hmem : target ∈ s.tables := (List.eraseIdx_sublist ..).subset (mem_of_match? htarget)
  have hother := hs.tables target hmem
  have hwf := wellFormed_of_ofNames? hr
  obtain ⟨-, hnames⟩ := ofNames?_eq_some_iff.mp hr
  rw [htable.name.clean_eq, hcolumn.name, hother.name.clean_eq, clean_keyName hother] at hnames
  exact ⟨i, t, j, c, target, ht, hc, hl, hmem, by rw [hnames], hwf⟩

theorem sound_of_mem_inferredLinks (hs : s.WellFormed) (h : l ∈ inferredLinks s.tables) :
    l.Sound s.tables := by
  obtain ⟨i, t, j, c, target, ht, hc, -, hmem, rfl, hwf⟩ := exists_of_mem_inferredLinks hs h
  exact ⟨⟨t, c, ht, hc, rfl, rfl, rfl⟩, hwf, List.mem_map_of_mem hmem⟩

/-! ### What inference reads -/

/-- Changing tables by the first function and their columns by the second one changes nothing that
inference reads: the names, and which columns are in the primary key. -/
structure KeepsNames (f : Table → Table) (g : Column → Column) : Prop where
  name : ∀ t, (f t).name = t.name
  columns : ∀ t, (f t).columns = t.columns.map g
  columnName : ∀ c, (g c).name = c.name
  isPrimaryKey : ∀ c, (g c).isPrimaryKey = c.isPrimaryKey

section

variable {f : Table → Table} {g : Column → Column} (h : KeepsNames f g)

include h

theorem KeepsNames.match?_map (others : List Table) (base : String) :
    match? (others.map f) base = (match? others base).map f := by
  simp only [match?, forwardMatch?, reverseMatch?, List.find?_map, Option.map_or,
    List.map_findSome?, Function.comp_def, h.name]

theorem KeepsNames.keyName_map (t : Table) : keyName (f t) = keyName t := by
  simp only [keyName, Table.primaryKeyColumns, h.columns, List.filter_map, Function.comp_def,
    h.isPrimaryKey, List.head?_map, Option.map_map, h.columnName]

theorem KeepsNames.inferredLink?_map (tables : List Table) (i : Nat) (t : Table) (j : Nat)
    (c : Column) :
    inferredLink? (tables.map f) i (f t) j (g c) = inferredLink? tables i t j c := by
  have hothers : otherTables (tables.map f) i = (otherTables tables i).map f :=
    List.eraseIdx_map ..
  cases hkey : c.isPrimaryKey with
  | true =>
      rw [inferredLink?_of_primaryKey hkey,
        inferredLink?_of_primaryKey ((h.isPrimaryKey c).trans hkey)]
  | false =>
      rw [inferredLink?_of_not_primaryKey hkey,
        inferredLink?_of_not_primaryKey ((h.isPrimaryKey c).trans hkey)]
      simp only [hothers, h.match?_map, Option.bind_map, Function.comp_def, h.keyName_map, h.name,
        h.columnName]

theorem KeepsNames.inferredLinks_map (tables : List Table) :
    inferredLinks (tables.map f) = inferredLinks tables := by
  simp only [inferredLinks, List.zipIdx_map, List.flatMap_map, Prod.map_fst, Prod.map_snd, id_eq,
    h.columns, List.filterMap_map, Function.comp_def, h.inferredLink?_map]

theorem KeepsNames.inferredLinkAt?_map (tables : List Table) (position : Nat × Nat) :
    inferredLinkAt? (tables.map f) position = inferredLinkAt? tables position := by
  simp only [inferredLinkAt?, List.getElem?_map, Option.bind_eq_bind, Option.bind_map,
    Function.comp_def, h.columns, h.inferredLink?_map]

end

theorem keepsNames_skeleton : KeepsNames Table.skeleton Column.skeleton :=
  ⟨fun _ => rfl, fun _ => rfl, fun _ => rfl, fun _ => rfl⟩

theorem inferredLinks_skeleton (s : Schema) :
    inferredLinks s.skeleton = inferredLinks s.tables :=
  keepsNames_skeleton.inferredLinks_map s.tables

theorem inferredLinkAt?_skeleton (s : Schema) (position : Nat × Nat) :
    inferredLinkAt? s.skeleton position = inferredLinkAt? s.tables position :=
  keepsNames_skeleton.inferredLinkAt?_map s.tables position

theorem filterMap_columnPositions (tables : List Table) :
    (columnPositions tables).filterMap (inferredLinkAt? tables) = inferredLinks tables := by
  rw [columnPositions, List.filterMap_flatMap]
  refine List.flatMap_congr fun (t, i) hti => ?_
  have ht : tables[i]? = some t := List.mem_zipIdx_iff_getElem?.mp hti
  have hrange : List.range t.columns.length = t.columns.zipIdx.map Prod.snd := by
    rw [List.zipIdx_map_snd, List.range_eq_range']
  rw [List.filterMap_map, hrange, List.filterMap_map]
  refine List.filterMap_congr fun (c, j) hcj => ?_
  have hc : t.columns[j]? = some c := List.mem_zipIdx_iff_getElem?.mp hcj
  simp only [Function.comp_def, inferredLinkAt?, ht, hc, Option.bind_eq_bind, Option.bind_some]

/-- All relationships may be inferred before the first of them is added: no search reads what the
additions change. -/
theorem infer_eq_foldl_addLink (s : Schema) : s.infer =
    if s.relationships.isEmpty && 2 ≤ s.tables.length then
      (inferredLinks s.tables).foldl (addLink true) s
    else s := by
  rw [Schema.infer, ← filterMap_columnPositions,
    foldl_eq_foldl_addLink fun s' hskel position _ => ?_]
  rw [inferAt, ← inferredLinkAt?_skeleton s', ← hskel, inferredLinkAt?_skeleton]

/-! ### When something is inferred -/

theorem infer_of_ne_nil (h : s.relationships ≠ []) : s.infer = s := by
  rw [infer_eq_foldl_addLink, List.isEmpty_eq_false_iff.mpr h]
  rfl

theorem infer_of_eq_nil (h : s.relationships = []) : s.infer =
    if 2 ≤ s.tables.length then (inferredLinks s.tables).foldl (addLink true) s else s := by
  rw [infer_eq_foldl_addLink, h]
  by_cases hlength : 2 ≤ s.tables.length <;> simp [hlength]

theorem mem_relationships_infer (hnone : s.relationships = []) {r : Relationship}
    (hr : r ∈ s.infer.relationships) : ∃ l ∈ inferredLinks s.tables, l.relationship = r := by
  rw [infer_of_eq_nil hnone] at hr
  split at hr
  · rw [relationships_foldl_addLink, hnone] at hr
    exact List.mem_map.mp ((mem_or_mem_of_mem_foldl hr).resolve_left List.not_mem_nil)
  · rw [hnone] at hr
    contradiction

/-- A schema stays without relationships only if there is nothing to infer. -/
theorem relationships_infer_eq_nil_iff : s.infer.relationships = [] ↔
    s.relationships = [] ∧ (2 ≤ s.tables.length → inferredLinks s.tables = []) := by
  by_cases h : s.relationships = []
  · rw [infer_of_eq_nil h]
    by_cases hlength : 2 ≤ s.tables.length
    · rw [if_pos hlength, relationships_foldl_addLink, h, foldl_appendUnique_eq_nil_iff,
        List.map_eq_nil_iff]
      simp [hlength]
    · simp [h, hlength]
  · rw [infer_of_ne_nil h]
    simp [h]

/-- Whether there is something to infer is read off the skeleton. -/
theorem relationships_infer_eq_nil_of_skeleton_eq {s' : Schema} (h : s.skeleton = s'.skeleton)
    (hs' : s'.relationships = []) (hnil : s.infer.relationships = []) :
    s'.infer.relationships = [] := by
  obtain ⟨-, hlinks⟩ := relationships_infer_eq_nil_iff.mp hnil
  refine relationships_infer_eq_nil_iff.mpr ⟨hs', ?_⟩
  have hlength := congrArg List.length h
  rw [skeleton, skeleton, List.length_map, List.length_map] at hlength
  rw [← inferredLinks_skeleton s', ← h, inferredLinks_skeleton, ← hlength]
  exact hlinks

theorem WellFormed.infer (hs : s.WellFormed) : s.infer.WellFormed := by
  rw [infer_eq_foldl_addLink]
  split
  · exact hs.foldl_addLink true fun _ hl => sound_of_mem_inferredLinks hs hl
  · exact hs

end EntityMap.Schema
