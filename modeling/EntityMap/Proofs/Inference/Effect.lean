import EntityMap.Proofs.Inference.Relationship
import EntityMap.Proofs.Schema.Addition

/-!
What inference does to a schema, whatever names it holds. Inference searches a schema that it
changes. But it reads nothing but names and primary keys, which it never changes, so all that it
adds can be told from the schema at the beginning; `Schema.infer_effect` says what that is, and that
nothing else is changed than the columns whose relationships are added.
-/

namespace EntityMap

/-- The names of the table and its columns, and which columns are in the primary key. -/
def Table.outline (t : Table) : String × List (String × Bool) :=
  (t.name, t.columns.map fun c => (c.name, c.isPrimaryKey))

namespace Schema

open Relationship

variable {s : Schema} {tables : List Table} {l : Link}

/-! ### Names and keys -/

/-- What has the same outline gives the same links: each table and column may be replaced by one
that has nothing but its name and its key. -/
theorem inferredLinks_of_outline_eq {tables' : List Table}
    (h : tables.map Table.outline = tables'.map Table.outline) :
    inferredLinks tables = inferredLinks tables' := by
  let column (p : String × Bool) : Column := ⟨p.1, "", p.2, false, false, false, none, none⟩
  let table (o : String × List (String × Bool)) : Table := ⟨"", o.1, o.2.map column⟩
  have hkeeps : KeepsNames (fun t => table t.outline) (fun c => column (c.name, c.isPrimaryKey)) :=
    ⟨fun _ => rfl, fun t => List.map_map, fun _ => rfl, fun _ => rfl⟩
  have houtline (ts : List Table) :
      inferredLinks ((ts.map Table.outline).map table) = inferredLinks ts := by
    rw [List.map_map]
    exact hkeeps.inferredLinks_map ts
  rw [← houtline tables, h, houtline]

/-! ### Positions -/

theorem position_of_inferredLinkAt? {position : Nat × Nat}
    (h : inferredLinkAt? tables position = some l) : l.position = position := by
  simp only [inferredLinkAt?, Option.bind_eq_bind, Option.bind_eq_some_iff] at h
  obtain ⟨t, -, c, -, hl⟩ := h
  obtain ⟨-, base, target, r, -, -, -, rfl⟩ := inferredLink?_eq_some_iff.mp hl
  rfl

theorem nodup_columnPositions (tables : List Table) : (columnPositions tables).Nodup := by
  rw [columnPositions, List.nodup_flatMap]
  constructor
  · rintro ⟨t, i⟩ -
    exact List.nodup_range.map fun j j' h => (Prod.mk.inj h).2
  · have hindices : (tables.zipIdx.map Prod.snd).Nodup := by
      rw [List.zipIdx_map_snd]
      exact List.nodup_range'
    refine (List.pairwise_map.mp hindices).imp fun {x y} hne => ?_
    intro p hx hy
    obtain ⟨j, -, rfl⟩ := List.mem_map.mp hx
    obtain ⟨j', -, he⟩ := List.mem_map.mp hy
    exact hne (Prod.mk.inj he).1.symm

/-- No column has more than one link, and the links are in the order of tables and columns. -/
theorem map_position_inferredLinks_sublist (tables : List Table) :
    ((inferredLinks tables).map Link.position).Sublist (columnPositions tables) := by
  rw [← filterMap_columnPositions, List.map_filterMap]
  induction columnPositions tables with
  | nil => exact List.Sublist.slnil
  | cons p ps ih =>
      rw [List.filterMap_cons]
      cases h : inferredLinkAt? tables p with
      | none => exact ih.cons p
      | some l =>
          rw [Option.map_some, position_of_inferredLinkAt? h]
          exact ih.cons_cons p

/-! ### What is inferred -/

theorem newLinks_of_eq_nil (h : s.relationships = []) (ls : List Link) :
    s.newLinks ls = Link.firsts ls := by
  simp [newLinks, h]

theorem mem_inferredLinks_iff : l ∈ inferredLinks tables ↔ ∃ t c base target,
    tables[l.table]? = some t ∧ t.columns[l.column]? = some c ∧ c.isPrimaryKey = false ∧
    Naming.base? c.name = some base ∧ match? (otherTables tables l.table) base = some target ∧
    ofNames? t.name c.name target.name (keyName target) = some l.relationship ∧
    l.reference = ⟨target.name, keyName target⟩ := by
  rw [mem_inferredLinks]
  constructor
  · rintro ⟨i, t, j, c, ht, hc, hl⟩
    obtain ⟨hkey, base, target, r, hbase, htarget, hr, rfl⟩ := inferredLink?_eq_some_iff.mp hl
    exact ⟨t, c, base, target, ht, hc, hkey, hbase, htarget, hr, rfl⟩
  · rintro ⟨t, c, base, target, ht, hc, hkey, hbase, htarget, hr, hreference⟩
    refine ⟨l.table, t, l.column, c, ht, hc, inferredLink?_eq_some_iff.mpr ?_⟩
    exact ⟨hkey, base, target, l.relationship, hbase, htarget, hr, by rw [← hreference]⟩

/-- The effect of inference on any schema. A schema that has relationships or fewer than two tables
is not changed. Otherwise, each column outside the primary keys may have a link: if its name has a
base, the base finds another table, and no name is empty once it is clean, the link leads to the key
of that table. The links are in the order of the columns, and depend on the names and keys of the
schema alone. The schema takes up the first of each id, and each column is as it was, except for
those that such a link starts from: they become foreign keys and refer to its target. -/
theorem infer_effect (s : Schema) :
    let added := Link.firsts (inferredLinks s.tables)
    s.infer =
        (if s.relationships = [] ∧ 2 ≤ s.tables.length then
          { tables := s.tables.mapIdx fun i t =>
              { t with columns := t.columns.mapIdx fun j c =>
                let reference := referenceFrom? added i j
                { c with
                  isForeignKey := c.isForeignKey || reference.isSome
                  references := reference.or c.references } }
            relationships := added.map (·.relationship) }
        else s) ∧
      ((inferredLinks s.tables).map Link.position).Sublist (columnPositions s.tables) ∧
      (∀ l, l ∈ inferredLinks s.tables ↔ ∃ t c base target,
        s.tables[l.table]? = some t ∧ t.columns[l.column]? = some c ∧ c.isPrimaryKey = false ∧
        Naming.base? c.name = some base ∧ match? (otherTables s.tables l.table) base = some target ∧
        ofNames? t.name c.name target.name (keyName target) = some l.relationship ∧
        l.reference = ⟨target.name, keyName target⟩) ∧
      ∀ tables, tables.map Table.outline = s.tables.map Table.outline →
        inferredLinks tables = inferredLinks s.tables := by
  intro added
  refine ⟨?_, map_position_inferredLinks_sublist s.tables, fun _ => mem_inferredLinks_iff,
    fun _ => inferredLinks_of_outline_eq⟩
  have hnodup : ((inferredLinks s.tables).map Link.position).Nodup :=
    (map_position_inferredLinks_sublist s.tables).nodup (nodup_columnPositions s.tables)
  split
  · next h =>
      rw [infer_of_eq_nil h.1, if_pos h.2, foldl_addLink_closed fun _ => hnodup,
        newLinks_of_eq_nil h.1, h.1, List.nil_append]
      rfl
  · next h =>
      rw [Schema.infer, if_neg]
      simpa using h

end Schema

end EntityMap
