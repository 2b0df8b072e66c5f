import Mathlib.Data.List.Nodup
import EntityMap.Build

/-!
What foreign keys cannot change. The skeleton of a schema is its tables without what foreign keys
say about their columns. Names, types, keys and defaults are read off the skeleton, and so is
every search by name. Foreign keys that are added later, declared or inferred, leave the skeleton
as it is, so a name that is found once is found in every later state.
-/

namespace EntityMap

/-- The column without what foreign keys say about it. -/
def Column.skeleton (c : Column) : Column := { c with isForeignKey := false, references := none }

def Table.skeleton (t : Table) : Table := { t with columns := t.columns.map Column.skeleton }

def Schema.skeleton (s : Schema) : List Table := s.tables.map Table.skeleton

/-! ### What the skeleton keeps -/

namespace Column

@[simp] theorem skeleton_name (c : Column) : c.skeleton.name = c.name := rfl

@[simp] theorem skeleton_isPrimaryKey (c : Column) :
    c.skeleton.isPrimaryKey = c.isPrimaryKey := rfl

@[simp] theorem skeleton_isNotNull (c : Column) : c.skeleton.isNotNull = c.isNotNull := rfl

@[simp] theorem isNamed_skeleton (name : String) (c : Column) :
    c.skeleton.isNamed name = c.isNamed name := rfl

theorem isNamed_iff {name : String} {c : Column} :
    c.isNamed name = true ↔ Text.lower c.name = Text.lower name := by simp [isNamed]

@[simp] theorem skeleton_markForeignKey (target : ColumnReference) (overwrite : Bool)
    (c : Column) : (c.markForeignKey target overwrite).skeleton = c.skeleton := rfl

theorem references_markForeignKey (target : ColumnReference) (overwrite : Bool) (c : Column) :
    (c.markForeignKey target overwrite).references =
      if overwrite || c.references.isNone then some target else c.references := rfl

/-- A column is what its skeleton says together with what foreign keys say about it. -/
theorem ext_skeleton {c c' : Column} (h : c.skeleton = c'.skeleton)
    (hflag : c.isForeignKey = c'.isForeignKey) (href : c.references = c'.references) : c = c' := by
  cases c
  cases c'
  simp only [skeleton, Column.mk.injEq] at h
  obtain ⟨rfl, rfl, rfl, -, rfl, rfl, -, rfl⟩ := h
  cases hflag
  cases href
  rfl

end Column

namespace Table

@[simp] theorem skeleton_name (t : Table) : t.skeleton.name = t.name := rfl

@[simp] theorem skeleton_columns (t : Table) :
    t.skeleton.columns = t.columns.map Column.skeleton := rfl

@[simp] theorem isNamed_skeleton (name : String) (t : Table) :
    t.skeleton.isNamed name = t.isNamed name := rfl

theorem isNamed_iff {name : String} {t : Table} :
    t.isNamed name = true ↔ Text.lower t.name = Text.lower name := by simp [isNamed]

theorem findColumn?_skeleton (t : Table) (name : String) :
    t.skeleton.findColumn? name = (t.findColumn? name).map Column.skeleton := by
  simp only [findColumn?, skeleton_columns, List.find?_map]
  rfl

theorem columnIndex?_skeleton (t : Table) (name : String) :
    t.skeleton.columnIndex? name = t.columnIndex? name := by
  simp only [columnIndex?, skeleton_columns, List.findIdx?_map, Function.comp_def,
    Column.isNamed_skeleton]

end Table

namespace Schema

variable {s s' : Schema}

@[simp] theorem skeleton_addRelationship (s : Schema) (r : Relationship) :
    (s.addRelationship r).skeleton = s.skeleton := rfl

theorem names_skeleton (s : Schema) : s.skeleton.map (·.name) = s.tables.map (·.name) := by
  simp only [skeleton, List.map_map]
  rfl

theorem getElem?_skeleton (s : Schema) (i : Nat) :
    s.skeleton[i]? = s.tables[i]?.map Table.skeleton := List.getElem?_map

theorem find?_skeleton (s : Schema) (name : String) :
    s.skeleton.find? (·.isNamed name) = (s.findTable? name).map Table.skeleton := by
  simp only [skeleton, findTable?, List.find?_map]
  rfl

theorem names_eq_of_skeleton_eq (h : s.skeleton = s'.skeleton) :
    s.tables.map (·.name) = s'.tables.map (·.name) := by
  rw [← names_skeleton s, ← names_skeleton s', h]

theorem exists_mem_of_skeleton_eq (h : s.skeleton = s'.skeleton) {t : Table}
    (ht : t ∈ s.tables) : ∃ t' ∈ s'.tables, t'.skeleton = t.skeleton := by
  have hmem : t.skeleton ∈ s'.skeleton := h ▸ List.mem_map_of_mem ht
  exact List.mem_map.mp hmem

theorem ext (htables : s.tables = s'.tables) (hrels : s.relationships = s'.relationships) :
    s = s' := by
  cases s
  cases s'
  rw [Schema.mk.injEq]
  exact ⟨htables, hrels⟩

/-! ### What keeps the skeleton -/

theorem skeleton_modifyColumn (s : Schema) (i j : Nat) {f : Column → Column}
    (hf : ∀ c, (f c).skeleton = c.skeleton) : (s.modifyColumn i j f).skeleton = s.skeleton := by
  have hcolumns (cs : List Column) :
      (cs.modify j f).map Column.skeleton = cs.map Column.skeleton := by
    refine List.ext_getElem? fun k => ?_
    simp only [List.getElem?_map, List.getElem?_modify]
    by_cases hk : j = k <;> cases cs[k]? <;> simp [hk, hf]
  refine List.ext_getElem? fun k => ?_
  simp only [skeleton, modifyColumn, List.getElem?_map, List.getElem?_modify]
  by_cases hk : i = k <;> cases s.tables[k]? <;> simp [hk, Table.skeleton, hcolumns]

theorem skeleton_markAt (s : Schema) (i j : Nat) (target : ColumnReference) (overwrite : Bool) :
    (s.modifyColumn i j (·.markForeignKey target overwrite)).skeleton = s.skeleton :=
  skeleton_modifyColumn s i j fun c => Column.skeleton_markForeignKey target overwrite c

@[simp] theorem skeleton_addLink (overwrite : Bool) (s : Schema) (l : Link) :
    (s.addLink overwrite l).skeleton = s.skeleton := by
  rw [addLink]
  split
  · rfl
  · rw [skeleton_markAt, skeleton_addRelationship]

/-- What each step keeps, a run keeps. -/
theorem skeleton_foldl {α : Type} {step : Schema → α → Schema}
    (hstep : ∀ s a, (step s a).skeleton = s.skeleton) (s : Schema) (as : List α) :
    (as.foldl step s).skeleton = s.skeleton := by
  induction as generalizing s with
  | nil => rfl
  | cons a as ih => rw [List.foldl_cons, ih, hstep]

theorem skeleton_elim_addLink (overwrite : Bool) (s : Schema) (l? : Option Link) :
    (l?.elim s (s.addLink overwrite)).skeleton = s.skeleton := by
  cases l? with
  | none => rfl
  | some l => exact skeleton_addLink overwrite s l

@[simp] theorem skeleton_alterTable (s : Schema) (a : TableAlteration) :
    (s.alterTable a).skeleton = s.skeleton := by
  rw [alterTable]
  cases s.alteredTable? a with
  | none => rfl
  | some i => exact skeleton_foldl (fun s _ => skeleton_elim_addLink false s _) s _

@[simp] theorem skeleton_infer (s : Schema) : s.infer.skeleton = s.skeleton := by
  rw [infer]
  split
  · exact skeleton_foldl (fun s _ => skeleton_elim_addLink true s _) s _
  · rfl

/-! ### Steps that add links -/

/-- Steps that each add a link add the links that they find in the first schema, if what they find
is read off the skeleton: the links before them leave it as it is. -/
theorem foldl_eq_foldl_addLink {α : Type} {step : Schema → α → Schema} {link? : α → Option Link}
    {overwrite : Bool} {as : List α}
    (hstep : ∀ s', s.skeleton = s'.skeleton →
      ∀ a ∈ as, step s' a = (link? a).elim s' (s'.addLink overwrite)) :
    as.foldl step s = (as.filterMap link?).foldl (addLink overwrite) s := by
  induction as generalizing s with
  | nil => rfl
  | cons a as ih =>
      have hfirst := hstep s rfl a List.mem_cons_self
      have hskel : (step s a).skeleton = s.skeleton :=
        hfirst ▸ skeleton_elim_addLink overwrite s (link? a)
      rw [List.foldl_cons, ih fun s' hs' b hb => hstep s' (hskel ▸ hs') b
        (List.mem_cons_of_mem a hb), hfirst, List.filterMap_cons]
      cases link? a <;> rfl

end Schema

end EntityMap
