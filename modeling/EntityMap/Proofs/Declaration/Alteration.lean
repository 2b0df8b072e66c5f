import EntityMap.Proofs.Schema.WellFormed

/-!
Foreign keys that are added to tables later. Every pair that is resolved gives a sound link, so an
alteration keeps a schema well-formed. A pair whose names are exactly those of the schema is linked
as it is written.
-/

namespace EntityMap.Schema

open Identifier Relationship

variable {s s' : Schema} {i : Nat} {pair : Relationship} {l : Link} {a : TableAlteration}

/-- The name of a referenced column: the one of the target table, else the written one. -/
def targetName (target : Table) (written : String) : String :=
  ((target.findColumn? written).map (·.name)).getD written

theorem resolve?_eq_some_iff :
    s.resolve? i pair = some l ↔ ∃ t j c target r, s.tables[i]? = some t ∧
      t.columnIndex? pair.sourceColumn = some j ∧ t.columns[j]? = some c ∧
      s.findTable? pair.targetTable = some target ∧
      ofNames? t.name c.name target.name (targetName target pair.targetColumn) = some r ∧
      ⟨i, j, r, r.target⟩ = l := by
  simp only [resolve?, targetName, Option.bind_eq_bind, Option.bind_eq_some_iff, Option.pure_def,
    Option.some.injEq]
  constructor
  · rintro ⟨t, ht, j, hj, c, hc, target, htarget, r, hr, hl⟩
    exact ⟨t, j, c, target, r, ht, hj, hc, htarget, hr, hl⟩
  · rintro ⟨t, j, c, target, r, ht, hj, hc, htarget, hr, hl⟩
    exact ⟨t, ht, j, hj, c, hc, target, htarget, r, hr, hl⟩

theorem mem_of_findTable? {name : String} {t : Table} (h : s.findTable? name = some t) :
    t ∈ s.tables ∧ Text.lower t.name = Text.lower name :=
  ⟨List.mem_of_find?_eq_some h, Table.isNamed_iff.mp (List.find?_some h)⟩

theorem exists_tableIndex? {name : String} {t : Table} (h : s.findTable? name = some t) :
    ∃ i, s.tableIndex? name = some i ∧ s.tables[i]? = some t := by
  obtain ⟨hnamed, i, hi, rfl, hbefore⟩ := List.find?_eq_some_iff_getElem.mp h
  refine ⟨i, List.findIdx?_eq_some_iff_getElem.mpr ⟨hi, hnamed, fun j hj => ?_⟩,
    List.getElem?_eq_getElem hi⟩
  simpa using hbefore j hj

theorem tableIndex?_eq_none {name : String} (h : s.findTable? name = none) :
    s.tableIndex? name = none := by
  refine List.findIdx?_eq_none_iff.mpr fun t ht => ?_
  simpa using List.find?_eq_none.mp h t ht

theorem exists_columnIndex? {t : Table} {name : String} {c : Column}
    (h : t.findColumn? name = some c) :
    ∃ j, t.columnIndex? name = some j ∧ t.columns[j]? = some c := by
  obtain ⟨hnamed, j, hj, rfl, hbefore⟩ := List.find?_eq_some_iff_getElem.mp h
  refine ⟨j, List.findIdx?_eq_some_iff_getElem.mpr ⟨hj, hnamed, fun k hk => ?_⟩,
    List.getElem?_eq_getElem hj⟩
  simpa using hbefore k hk

theorem isName_of_findColumn? {t : Table} (ht : t.WellFormed) {name : String} {c : Column}
    (hname : IsName name) (hc : t.findColumn? name = some c) : IsName c.name :=
  hname.of_lower_eq (ht.columns c (List.mem_of_find?_eq_some hc)).name
    (Column.isNamed_iff.mp (List.find?_some hc))

theorem isName_targetName {target : Table} (htarget : target.WellFormed) {written : String}
    (hwritten : IsName written) : IsName (targetName target written) := by
  rw [targetName]
  cases hc : target.findColumn? written with
  | none => exact hwritten
  | some c => exact isName_of_findColumn? htarget hwritten hc

theorem exists_alteredTable? {name : String} (ha : a.name = some name) (hname : name ≠ "")
    {t : Table} (ht : s.findTable? (clean name) = some t) :
    ∃ i, s.alteredTable? a = some i ∧ s.tables[i]? = some t := by
  obtain ⟨i, hi, hti⟩ := exists_tableIndex? ht
  refine ⟨i, ?_, hti⟩
  rw [alteredTable?, ha]
  exact (if_neg hname).trans hi

theorem sound_of_resolve? (hs : s.WellFormed) (h : s.resolve? i pair = some l) :
    l.Sound s.tables := by
  obtain ⟨t, j, c, target, r, ht, -, hc, htarget, hr, rfl⟩ := resolve?_eq_some_iff.mp h
  have htable := hs.tables t (List.mem_of_getElem? ht)
  have hcolumn := htable.columns c (List.mem_of_getElem? hc)
  have htarget := (mem_of_findTable? htarget).1
  have hwf := wellFormed_of_ofNames? hr
  obtain ⟨-, rfl⟩ := ofNames?_eq_some_iff.mp hr
  refine ⟨⟨t, c, ht, hc, htable.name.clean_eq, hcolumn.name, rfl⟩, hwf, ?_⟩
  exact List.mem_map.mpr ⟨target, htarget, (hs.tables target htarget).name.clean_eq.symm⟩

/-! ### Pairs and the skeleton -/

theorem targetName_skeleton (t : Table) (written : String) :
    targetName t.skeleton written = targetName t written := by
  rw [targetName, Table.findColumn?_skeleton, Option.map_map]
  rfl

/-- A pair is resolved in the skeleton as in the schema. -/
theorem resolve?_skeleton (s : Schema) (i : Nat) (pair : Relationship) :
    (Schema.mk s.skeleton []).resolve? i pair = s.resolve? i pair := by
  have hfind (name : String) : (Schema.mk s.skeleton []).findTable? name =
      (s.findTable? name).map Table.skeleton := find?_skeleton s name
  have hname (t : Table) (written : String) :
      ((t.skeleton.findColumn? written).map (·.name)).getD written =
        ((t.findColumn? written).map (·.name)).getD written := targetName_skeleton t written
  simp only [resolve?, getElem?_skeleton, hfind, hname, Option.bind_eq_bind, Option.bind_map,
    Function.comp_def, Table.columnIndex?_skeleton, Table.skeleton_columns, List.getElem?_map,
    Column.skeleton_name, Table.skeleton_name]

theorem resolve?_of_skeleton_eq (h : s.skeleton = s'.skeleton) (i : Nat) (pair : Relationship) :
    s.resolve? i pair = s'.resolve? i pair := by
  rw [← resolve?_skeleton s, h, resolve?_skeleton]

/-! ### What an alteration adds -/

/-- The links that an alteration adds, in the order of its clauses and their pairs. -/
def alterationLinks (s : Schema) (a : TableAlteration) : List Link :=
  match s.alteredTable? a with
  | none => []
  | some i => (s.alterationPairs i a).filterMap (s.resolve? i)

/-- All pairs of an alteration may be resolved before the first of them is added. -/
theorem alterTable_eq_foldl_addLink (s : Schema) (a : TableAlteration) :
    s.alterTable a = (s.alterationLinks a).foldl (addLink false) s := by
  rw [Schema.alterTable, alterationLinks]
  cases s.alteredTable? a with
  | none => rfl
  | some i =>
      refine foldl_eq_foldl_addLink fun s' hskel pair _ => ?_
      rw [addPair, resolve?_of_skeleton_eq hskel]

theorem mem_alterationLinks (h : l ∈ s.alterationLinks a) : ∃ i pair,
    s.alteredTable? a = some i ∧ s.resolve? i pair = some l := by
  rw [alterationLinks] at h
  cases hi : s.alteredTable? a with
  | none => simp [hi] at h
  | some i =>
      rw [hi] at h
      obtain ⟨pair, -, hl⟩ := List.mem_filterMap.mp h
      exact ⟨i, pair, rfl, hl⟩

theorem sound_of_mem_alterationLinks (hs : s.WellFormed) (h : l ∈ s.alterationLinks a) :
    l.Sound s.tables := by
  obtain ⟨i, pair, -, hl⟩ := mem_alterationLinks h
  exact sound_of_resolve? hs hl

theorem alterTable_eq_self (h : a.foreignKeys = []) : s.alterTable a = s := by
  rw [alterTable_eq_foldl_addLink, alterationLinks]
  simp only [alterationPairs, h]
  cases s.alteredTable? a <;> rfl

theorem foldl_alterTable_eq_self {as : List TableAlteration}
    (h : ∀ a ∈ as, a.foreignKeys = []) : as.foldl Schema.alterTable s = s := by
  induction as with
  | nil => rfl
  | cons a as ih =>
      rw [List.foldl_cons, alterTable_eq_self (h a List.mem_cons_self)]
      exact ih fun b hb => h b (List.mem_cons_of_mem a hb)

theorem WellFormed.alterTable (hs : s.WellFormed) (a : TableAlteration) :
    (s.alterTable a).WellFormed := by
  rw [alterTable_eq_foldl_addLink]
  exact hs.foldl_addLink false fun _ hl => sound_of_mem_alterationLinks hs hl

end EntityMap.Schema
