import EntityMap.Proofs.Schema.WellFormed

/-!
The parts of a schema. The part of a table name is the tables that have it together with the
relationships that start from them. As long as an id tells which table its relationship starts from,
adding a link acts on the part of its source in the way it acts on the whole schema, and leaves all
other parts alone. Schemas with the same parts have the same tables and relationships, up to order.
-/

namespace EntityMap

open Identifier Relationship

/-- The source table can be read from the id. -/
structure Relationship.TellsSource (r : Relationship) : Prop where
  canonical : r.Canonical
  dotless : Dotless r.sourceTable

def Table.markAt (overwrite : Bool) (column : Nat) (target : ColumnReference) (t : Table) : Table :=
  { t with columns := t.columns.modify column (·.markForeignKey target overwrite) }

namespace Schema

/-- The tables with exactly this name, and the relationships that start from it. -/
def part (s : Schema) (name : String) : Schema :=
  ⟨s.tables.filter (·.name == name), s.relationshipsFrom name⟩

/-- What a link adds, its table told by the relationship and its column by position. -/
def Link.placed (l : Link) : Nat × Relationship := (l.column, l.relationship)

/-- Adds a relationship and marks the column at a position of its source table, unless the id is
already there. -/
def linkAt (overwrite : Bool) (s : Schema) (p : Nat × Relationship) : Schema :=
  if s.hasRelationship p.2.id then s
  else ⟨s.tables.map fun t =>
      if t.name = p.2.sourceTable then t.markAt overwrite p.1 p.2.target else t,
    s.relationships ++ [p.2]⟩

variable {s s' : Schema} {overwrite : Bool} {l : Link} {p : Nat × Relationship} {name : String}

theorem addLink_eq_linkAt (hs : (s.tables.map (·.name)).Nodup) (hl : l.Fits s.tables) :
    s.addLink overwrite l = s.linkAt overwrite l.placed := by
  obtain ⟨t, c, ht, hc, hst, hsc, href⟩ := hl
  rw [addLink, linkAt]
  by_cases h : s.hasRelationship l.relationship.id
  · rw [if_pos h, Link.placed, if_pos h]
  · rw [if_neg h, Link.placed, if_neg h, modifyColumn, addRelationship,
      appendUnique_of_notMem (mt hasRelationship_iff.mpr h), modify_eq_map_of_nodup hs ht, hst,
      href]
    rfl

theorem foldl_addLink_eq_linkAt {ls : List Link} (hs : (s.tables.map (·.name)).Nodup)
    (hls : ∀ l ∈ ls, l.Fits s.tables) :
    ls.foldl (addLink overwrite) s = (ls.map Link.placed).foldl (linkAt overwrite) s := by
  rw [List.foldl_map]
  refine foldl_addLink_congr fun s' hskel l hl => ?_
  exact addLink_eq_linkAt (names_eq_of_skeleton_eq hskel ▸ hs) ((hls l hl).of_skeleton_eq hskel)

/-! ### Linking acts on parts -/

theorem filter_map_of_name_eq {ts : List Table} {f : Table → Table} (hf : ∀ t, (f t).name = t.name)
    (name : String) : (ts.map f).filter (·.name == name) = (ts.filter (·.name == name)).map f := by
  rw [List.filter_map]
  simp only [Function.comp_def, hf]

theorem part_linkAt_of_ne (h : p.2.sourceTable ≠ name) :
    (s.linkAt overwrite p).part name = s.part name := by
  rw [linkAt]
  split
  · rfl
  · have htables : (s.tables.filter (·.name == name)).map (fun t =>
        if t.name = p.2.sourceTable then t.markAt overwrite p.1 p.2.target else t) =
        s.tables.filter (·.name == name) := by
      refine (List.map_congr_left fun t ht => ?_).trans (List.map_id _)
      have hname : t.name = name := by simpa using (List.mem_filter.mp ht).2
      exact if_neg (hname ▸ h.symm)
    have hrels : [p.2].filter (·.sourceTable == name) = [] := by simpa using h
    rw [part, part, filter_map_of_name_eq, htables, relationshipsFrom, List.filter_append, hrels,
      List.append_nil, relationshipsFrom]
    intro t
    split <;> rfl

theorem id_mem_relationshipsFrom_iff (hs : ∀ q ∈ s.relationships, q.TellsSource)
    {r : Relationship} (hr : r.TellsSource) :
    r.id ∈ ids (s.relationshipsFrom r.sourceTable) ↔ r.id ∈ ids s.relationships := by
  constructor
  · intro h
    exact (List.filter_sublist.map _).subset h
  · intro h
    obtain ⟨q, hq, hid⟩ := mem_ids.mp h
    have hsource := sourceTable_eq_of_id_eq (hs q hq).canonical hr.canonical (hs q hq).dotless
      hr.dotless hid
    exact mem_ids.mpr ⟨q, List.mem_filter.mpr ⟨hq, by simpa using hsource⟩, hid⟩

theorem part_linkAt (hs : ∀ q ∈ s.relationships, q.TellsSource) (hp : p.2.TellsSource) :
    (s.linkAt overwrite p).part p.2.sourceTable =
      (s.part p.2.sourceTable).linkAt overwrite p := by
  have hhas : (s.part p.2.sourceTable).hasRelationship p.2.id = s.hasRelationship p.2.id := by
    rw [Bool.eq_iff_iff, hasRelationship_iff, hasRelationship_iff]
    exact id_mem_relationshipsFrom_iff hs hp
  rw [linkAt, linkAt, hhas]
  split
  · rfl
  · rw [part, filter_map_of_name_eq, relationshipsFrom, List.filter_append]
    · simp [part, relationshipsFrom]
    · intro t
      split <;> rfl

theorem tellsSource_linkAt (hs : ∀ q ∈ s.relationships, q.TellsSource) (hp : p.2.TellsSource) :
    ∀ q ∈ (s.linkAt overwrite p).relationships, q.TellsSource := by
  intro q hq
  rw [linkAt] at hq
  split at hq
  · exact hs q hq
  · rcases List.mem_append.mp hq with hq | hq
    · exact hs q hq
    · exact List.mem_singleton.mp hq ▸ hp

/-- Of all links, those that start from a table name make its part. -/
theorem part_foldl_linkAt {ps : List (Nat × Relationship)}
    (hs : ∀ q ∈ s.relationships, q.TellsSource) (hps : ∀ p ∈ ps, p.2.TellsSource) (name : String) :
    (ps.foldl (linkAt overwrite) s).part name =
      (ps.filter (·.2.sourceTable == name)).foldl (linkAt overwrite) (s.part name) := by
  induction ps generalizing s with
  | nil => rfl
  | cons p ps ih =>
      have hp := hps p List.mem_cons_self
      rw [List.foldl_cons, ih (tellsSource_linkAt hs hp) fun q hq =>
        hps q (List.mem_cons_of_mem p hq), List.filter_cons]
      by_cases hname : p.2.sourceTable = name
      · subst hname
        rw [part_linkAt hs hp, if_pos (by simp), List.foldl_cons]
      · rw [part_linkAt_of_ne hname, if_neg (by simpa using hname)]

/-! ### Schemas with the same parts -/

/-- The schemas have the same part for every table name. -/
def Agrees (s s' : Schema) : Prop := ∀ name, s.part name = s'.part name

theorem Agrees.tables_perm (h : s.Agrees s') : s.tables.Perm s'.tables :=
  perm_of_filter_key_eq fun name => congrArg Schema.tables (h name)

theorem Agrees.relationships_perm (h : s.Agrees s') : s.relationships.Perm s'.relationships :=
  perm_of_filter_key_eq fun name => congrArg Schema.relationships (h name)

/-- Links that are the same for each source table keep the parts the same. Their order matters only
among those of one table. -/
theorem Agrees.foldl_linkAt (h : s.Agrees s') (hs : ∀ q ∈ s.relationships, q.TellsSource)
    {ps ps' : List (Nat × Relationship)} (hps : ∀ p ∈ ps, p.2.TellsSource)
    (hsame : ∀ name, ps.filter (·.2.sourceTable == name) = ps'.filter (·.2.sourceTable == name)) :
    (ps.foldl (linkAt overwrite) s).Agrees (ps'.foldl (linkAt overwrite) s') := by
  have hs' : ∀ q ∈ s'.relationships, q.TellsSource := fun q hq =>
    hs q (h.relationships_perm.mem_iff.mpr hq)
  have hps' : ∀ p ∈ ps', p.2.TellsSource := fun p hp =>
    hps p ((perm_of_filter_key_eq hsame).mem_iff.mpr hp)
  -- parts are linked on their own, and each name has the same links
  intro name
  rw [part_foldl_linkAt hs hps, part_foldl_linkAt hs' hps', h name, hsame name]

end Schema

end EntityMap
