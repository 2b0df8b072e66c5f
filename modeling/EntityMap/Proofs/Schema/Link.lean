import EntityMap.Proofs.KeyedList
import EntityMap.Proofs.Relationship.Identity
import EntityMap.Proofs.Relationship.Collection
import EntityMap.Proofs.Schema.Skeleton

/-!
Adding a foreign key, told by names. A link is added at the positions of its table and column.
Where no two tables share a name, nor two columns of a table, positions can be forgotten: the
relationship alone tells which column is marked. `Schema.link` adds a relationship in this way, and
`Schema.foldl_addLink_eq` says that adding links is linking their relationships.
-/

namespace EntityMap

/-! ### Distinct names -/

/-- No two columns of the table have the same name, case aside. -/
def Table.ColumnsDistinct (t : Table) : Prop := (t.columns.map fun c => Text.lower c.name).Nodup

instance (t : Table) : Decidable t.ColumnsDistinct := inferInstanceAs (Decidable (List.Nodup _))

theorem Table.columnsDistinct_skeleton {t : Table} :
    t.skeleton.ColumnsDistinct ↔ t.ColumnsDistinct := by
  simp only [ColumnsDistinct, skeleton_columns, List.map_map]
  rfl

theorem Table.ColumnsDistinct.names_nodup {t : Table} (h : t.ColumnsDistinct) :
    (t.columns.map (·.name)).Nodup := nodup_map_of_comp h

theorem Table.ColumnsDistinct.eq_of_lower_eq {t : Table} (h : t.ColumnsDistinct) {c c' : Column}
    (hc : c ∈ t.columns) (hc' : c' ∈ t.columns) (he : Text.lower c.name = Text.lower c'.name) :
    c = c' := List.inj_on_of_nodup_map h hc hc' he

theorem Table.ColumnsDistinct.findColumn?_eq {t : Table} (h : t.ColumnsDistinct) {c : Column}
    (hc : c ∈ t.columns) {name : String} (hname : Text.lower c.name = Text.lower name) :
    t.findColumn? name = some c :=
  find?_eq_some_of_unique hc (Column.isNamed_iff.mpr hname) fun _ hb hnamed =>
    h.eq_of_lower_eq hb hc ((Column.isNamed_iff.mp hnamed).trans hname.symm)

/-- No two tables of the schema have the same name, case aside. -/
def Schema.TablesDistinct (s : Schema) : Prop := (s.tables.map fun t => Text.lower t.name).Nodup

theorem Schema.TablesDistinct.findTable?_eq {s : Schema} (h : s.TablesDistinct) {t : Table}
    (ht : t ∈ s.tables) : s.findTable? t.name = some t :=
  find?_eq_some_of_unique ht (Table.isNamed_iff.mpr rfl) fun _ hb hnamed =>
    List.inj_on_of_nodup_map h hb ht (Table.isNamed_iff.mp hnamed)

theorem Schema.TablesDistinct.of_skeleton_eq {s s' : Schema} (hs : s.TablesDistinct)
    (h : s.skeleton = s'.skeleton) : s'.TablesDistinct := by
  have hnames := congrArg (List.map Text.lower) (names_eq_of_skeleton_eq h)
  rw [List.map_map, List.map_map] at hnames
  exact (congrArg List.Nodup hnames).mp hs

/-- No two tables have the same name, and no two columns of a table do, case aside. -/
structure Schema.Distinct (s : Schema) : Prop where
  tables : (s.tables.map (·.name)).Nodup
  columns : ∀ t ∈ s.tables, t.ColumnsDistinct

namespace Schema.Distinct

variable {s s' : Schema}

theorem of_skeleton_eq (hs : s.Distinct) (h : s.skeleton = s'.skeleton) : s'.Distinct := by
  refine ⟨names_eq_of_skeleton_eq h ▸ hs.tables, fun t' ht' => ?_⟩
  obtain ⟨t, ht, he⟩ := exists_mem_of_skeleton_eq h.symm ht'
  exact Table.columnsDistinct_skeleton.mp (he ▸ Table.columnsDistinct_skeleton.mpr
    (hs.columns t ht))

theorem eq_of_name_eq (hs : s.Distinct) {t t' : Table} (ht : t ∈ s.tables) (ht' : t' ∈ s.tables)
    (h : t.name = t'.name) : t = t' := List.inj_on_of_nodup_map hs.tables ht ht' h

end Schema.Distinct

/-! ### Links that fit -/

/-- The link starts from the table and column at its positions, by their names, and marks the
column with the target of its relationship. -/
def Schema.Link.Fits (tables : List Table) (l : Schema.Link) : Prop :=
  ∃ t c, tables[l.table]? = some t ∧ t.columns[l.column]? = some c ∧
    l.relationship.sourceTable = t.name ∧ l.relationship.sourceColumn = c.name ∧
      l.reference = l.relationship.target

theorem Schema.Link.fits_skeleton {s : Schema} {l : Schema.Link} :
    l.Fits s.skeleton ↔ l.Fits s.tables := by
  simp only [Fits, getElem?_skeleton, Option.map_eq_some_iff]
  constructor
  · rintro ⟨_, c, ⟨t, ht, rfl⟩, hc, hsource⟩
    rw [Table.skeleton_columns, List.getElem?_map, Option.map_eq_some_iff] at hc
    obtain ⟨c, hc, rfl⟩ := hc
    exact ⟨t, c, ht, hc, hsource⟩
  · rintro ⟨t, c, ht, hc, hsource⟩
    refine ⟨t.skeleton, c.skeleton, ⟨t, ht, rfl⟩, ?_, hsource⟩
    rw [Table.skeleton_columns, List.getElem?_map, hc]
    rfl

theorem Schema.Link.Fits.of_skeleton_eq {s s' : Schema} {l : Schema.Link} (hl : l.Fits s.tables)
    (h : s.skeleton = s'.skeleton) : l.Fits s'.tables := fits_skeleton.mp (h ▸ fits_skeleton.mpr hl)

/-- The source of the relationship is a column of the tables, by exact names. -/
def Relationship.SourceIn (tables : List Table) (r : Relationship) : Prop :=
  ∃ t ∈ tables, t.name = r.sourceTable ∧ ∃ c ∈ t.columns, c.name = r.sourceColumn

theorem Relationship.sourceIn_skeleton {s : Schema} {r : Relationship} :
    r.SourceIn s.skeleton ↔ r.SourceIn s.tables := by
  simp [SourceIn, Schema.skeleton]

theorem Schema.Link.Fits.sourceIn {tables : List Table} {l : Schema.Link} (h : l.Fits tables) :
    l.relationship.SourceIn tables := by
  obtain ⟨t, c, ht, hc, hst, hsc, -⟩ := h
  exact ⟨t, List.mem_of_getElem? ht, hst.symm, c, List.mem_of_getElem? hc, hsc.symm⟩

/-- The link fits, and its relationship is well-formed and points to one of the tables. -/
structure Schema.Link.Sound (tables : List Table) (l : Schema.Link) : Prop where
  fits : l.Fits tables
  wellFormed : l.relationship.WellFormed
  target : l.relationship.targetTable ∈ tables.map (·.name)

theorem Schema.Link.Sound.of_skeleton_eq {s s' : Schema} {l : Schema.Link}
    (hl : l.Sound s.tables) (h : s.skeleton = s'.skeleton) : l.Sound s'.tables :=
  ⟨hl.fits.of_skeleton_eq h, hl.wellFormed, names_eq_of_skeleton_eq h ▸ hl.target⟩

theorem Schema.Link.Sound.source {tables : List Table} {l : Schema.Link} (hl : l.Sound tables) :
    l.relationship.sourceTable ∈ tables.map (·.name) := by
  obtain ⟨t, ht, hname, -⟩ := hl.fits.sourceIn
  exact hname ▸ List.mem_map_of_mem ht

/-! ### Linking by names -/

def Table.mark (overwrite : Bool) (column : String) (target : ColumnReference) (t : Table) :
    Table :=
  { t with columns := t.columns.map fun c =>
      if c.name = column then c.markForeignKey target overwrite else c }

namespace Schema

/-- Marks the source of a relationship, by exact names. -/
def markSource (overwrite : Bool) (r : Relationship) (s : Schema) : Schema :=
  { s with tables := s.tables.map fun t =>
      if t.name = r.sourceTable then t.mark overwrite r.sourceColumn r.target else t }

/-- Adds a relationship and marks its source, unless its id is already there. -/
def link (overwrite : Bool) (s : Schema) (r : Relationship) : Schema :=
  if s.hasRelationship r.id then s else (s.addRelationship r).markSource overwrite r

variable {s : Schema} {overwrite : Bool} {r : Relationship} {l : Link}

theorem hasRelationship_iff {id : String} :
    s.hasRelationship id = true ↔ id ∈ Relationship.ids s.relationships :=
  Relationship.any_id_eq_iff

theorem modifyColumn_eq_markSource (hs : s.Distinct) (hl : l.Fits s.tables) :
    s.modifyColumn l.table l.column (·.markForeignKey l.reference overwrite) =
      s.markSource overwrite l.relationship := by
  obtain ⟨t, c, ht, hc, hst, hsc, href⟩ := hl
  have hdistinct := hs.columns t (List.mem_of_getElem? ht)
  rw [modifyColumn, modify_eq_map_of_nodup hs.tables ht, markSource, hst, hsc, href]
  congr 1
  refine List.map_congr_left fun t' ht' => ?_
  by_cases hname : t'.name = t.name
  · obtain rfl := hs.eq_of_name_eq ht' (List.mem_of_getElem? ht) hname
    rw [if_pos rfl, if_pos rfl, Table.mark, modify_eq_map_of_nodup hdistinct.names_nodup hc]
  · rw [if_neg hname, if_neg hname]

theorem addLink_eq_link (hs : s.Distinct) (hl : l.Fits s.tables) :
    s.addLink overwrite l = s.link overwrite l.relationship := by
  rw [addLink, link]
  split
  · rfl
  · exact modifyColumn_eq_markSource (s := s.addRelationship l.relationship) ⟨hs.1, hs.2⟩ hl

/-- Adding links may be read in another way if each single link can, as long as the skeleton is the
one at the beginning: the links before it leave it as it is. -/
theorem foldl_addLink_congr {ls : List Link} {add : Schema → Link → Schema}
    (h : ∀ s', s.skeleton = s'.skeleton → ∀ l ∈ ls, s'.addLink overwrite l = add s' l) :
    ls.foldl (addLink overwrite) s = ls.foldl add s := by
  induction ls generalizing s with
  | nil => rfl
  | cons l ls ih =>
      rw [List.foldl_cons, List.foldl_cons, ← h s rfl l List.mem_cons_self]
      refine ih fun s' hs' l' hl' => h s' ?_ l' (List.mem_cons_of_mem l hl')
      rw [← hs', skeleton_addLink]

/-- The names that distinguish columns are not changed on the way, so each link still fits when
its turn comes. -/
theorem foldl_addLink_eq {ls : List Link} (hs : s.Distinct) (hls : ∀ l ∈ ls, l.Fits s.tables) :
    ls.foldl (addLink overwrite) s =
      (ls.map (·.relationship)).foldl (link overwrite) s := by
  rw [List.foldl_map]
  refine foldl_addLink_congr fun s' hskel l hl => ?_
  exact addLink_eq_link (hs.of_skeleton_eq hskel) ((hls l hl).of_skeleton_eq hskel)

/-! ### What linking does -/

@[simp] theorem relationships_link :
    (s.link overwrite r).relationships = Relationship.appendUnique s.relationships r := by
  by_cases h : s.hasRelationship r.id
  · rw [link, if_pos h, Relationship.appendUnique_of_mem (hasRelationship_iff.mp h)]
  · rw [link, if_neg h]
    rfl

@[simp] theorem relationships_addLink : (s.addLink overwrite l).relationships =
    Relationship.appendUnique s.relationships l.relationship := by
  by_cases h : s.hasRelationship l.relationship.id
  · rw [addLink, if_pos h, Relationship.appendUnique_of_mem (hasRelationship_iff.mp h)]
  · rw [addLink, if_neg h]
    rfl

theorem relationships_foldl_addLink (ls : List Link) :
    (ls.foldl (addLink overwrite) s).relationships =
      (ls.map (·.relationship)).foldl Relationship.appendUnique s.relationships := by
  induction ls generalizing s with
  | nil => rfl
  | cons l ls ih => rw [List.foldl_cons, ih, relationships_addLink, List.map_cons, List.foldl_cons]

theorem relationships_foldl_link (rs : List Relationship) :
    (rs.foldl (link overwrite) s).relationships =
      rs.foldl Relationship.appendUnique s.relationships := by
  induction rs generalizing s with
  | nil => rfl
  | cons r rs ih => rw [List.foldl_cons, ih, relationships_link, List.foldl_cons]

theorem link_of_mem (h : r.id ∈ Relationship.ids s.relationships) : s.link overwrite r = s :=
  if_pos (hasRelationship_iff.mpr h)

theorem addLink_of_mem (h : l.relationship.id ∈ Relationship.ids s.relationships) :
    s.addLink overwrite l = s := if_pos (hasRelationship_iff.mpr h)

theorem link_of_notMem (h : r.id ∉ Relationship.ids s.relationships) :
    s.link overwrite r = (s.addRelationship r).markSource overwrite r :=
  if_neg (mt hasRelationship_iff.mp h)

theorem of_mem_markSource {t' : Table} {c' : Column}
    (ht' : t' ∈ (s.markSource overwrite r).tables) (hc' : c' ∈ t'.columns) :
    ∃ t ∈ s.tables, ∃ c ∈ t.columns, t'.name = t.name ∧
      c' = if t.name = r.sourceTable ∧ c.name = r.sourceColumn then
        c.markForeignKey r.target overwrite else c := by
  obtain ⟨t, ht, rfl⟩ := List.mem_map.mp ht'
  by_cases hname : t.name = r.sourceTable
  · rw [if_pos hname] at hc' ⊢
    obtain ⟨c, hc, rfl⟩ := List.mem_map.mp hc'
    exact ⟨t, ht, c, hc, rfl, by simp [hname]⟩
  · rw [if_neg hname] at hc' ⊢
    exact ⟨t, ht, c', hc', rfl, by simp [hname]⟩

theorem skeleton_markSource : (s.markSource overwrite r).skeleton = s.skeleton := by
  simp only [skeleton, markSource, List.map_map]
  refine List.map_congr_left fun t _ => ?_
  simp only [Function.comp]
  split
  · simp only [Table.skeleton, Table.mark, List.map_map, Table.mk.injEq, true_and]
    refine List.map_congr_left fun c _ => ?_
    simp only [Function.comp]
    split <;> simp
  · rfl

@[simp] theorem skeleton_link : (s.link overwrite r).skeleton = s.skeleton := by
  rw [link]
  split
  · rfl
  · rw [skeleton_markSource, skeleton_addRelationship]

theorem skeleton_foldl_link (rs : List Relationship) :
    (rs.foldl (link overwrite) s).skeleton = s.skeleton :=
  skeleton_foldl (fun _ _ => skeleton_link) s rs

end Schema

end EntityMap
