import EntityMap.Proofs.Identifier.Case
import EntityMap.Proofs.Reach
import EntityMap.Proofs.Schema.Addition

/-!
What alterations do to a schema, whatever names it holds. Alterations look up names in a schema
that they change, and drop what is there already. `Schema.linkFor?` looks a written foreign key up
in the schema as it is before all alterations; `Schema.alter_effect` says that this is enough: the
schema takes up the links found in this way, the first of each id, and nothing else is changed than
the columns that they start from.
-/

namespace EntityMap

open Identifier Relationship

namespace Schema

variable {s s' : Schema} {f : ForeignKey} {l : Link}

/-- The link that a written foreign key stands for in a schema, in clean names: it starts from the
first table and its first column with the names of the source, case aside, and leads to the first
table with the name of the target. A referenced column that this table lacks keeps its name. -/
def linkFor? (s : Schema) (f : ForeignKey) : Option Link := do
  let pair ← f.relationship?
  let i ← s.tableIndex? pair.sourceTable
  let t ← s.tables[i]?
  let j ← t.columnIndex? pair.sourceColumn
  let c ← t.columns[j]?
  let target ← s.findTable? pair.targetTable
  let relationship := between (clean t.name) (clean c.name) (clean target.name)
    (clean (targetName target pair.targetColumn))
  return ⟨i, j, relationship, relationship.target⟩

/-- The links for all foreign keys that the alterations write, in their order. -/
def linksFor (s : Schema) (statements : List Statement) : List Link :=
  ((Statement.alterations statements).flatMap (·.written)).filterMap s.linkFor?

/-! ### What is found -/

theorem findTable?_of_tableIndex? {name : String} {i : Nat} {t : Table}
    (hi : s.tableIndex? name = some i) (ht : s.tables[i]? = some t) :
    s.findTable? name = some t := by
  rw [findTable?, List.find?_eq_bind_findIdx?_getElem?]
  exact Option.bind_eq_some_iff.mpr ⟨i, hi, ht⟩

theorem findColumn?_of_columnIndex? {t : Table} {name : String} {j : Nat} {c : Column}
    (hj : t.columnIndex? name = some j) (hc : t.columns[j]? = some c) :
    t.findColumn? name = some c := by
  rw [Table.findColumn?, List.find?_eq_bind_findIdx?_getElem?]
  exact Option.bind_eq_some_iff.mpr ⟨j, hj, hc⟩

theorem clean_eq_empty_iff_of_findTable? {name : String} {t : Table}
    (h : s.findTable? (clean name) = some t) : clean t.name = "" ↔ clean name = "" := by
  rw [clean_eq_empty_iff_of_lower_eq (mem_of_findTable? h).2, clean_clean]

theorem clean_eq_empty_iff_of_findColumn? {t : Table} {name : String} {c : Column}
    (h : t.findColumn? (clean name) = some c) : clean c.name = "" ↔ clean name = "" := by
  rw [clean_eq_empty_iff_of_lower_eq (Column.isNamed_iff.mp (List.find?_some h)), clean_clean]

theorem clean_targetName_eq_empty_iff {target : Table} {written : String} :
    clean (targetName target (clean written)) = "" ↔ clean written = "" := by
  rw [targetName]
  cases h : target.findColumn? (clean written) with
  | none => rw [Option.map_none, Option.getD_none, clean_clean]
  | some c => exact clean_eq_empty_iff_of_findColumn? h

theorem linkFor?_eq_some_iff : s.linkFor? f = some l ↔
    (clean f.table ≠ "" ∧ clean f.column ≠ "" ∧ clean f.referencedTable ≠ "" ∧
      clean f.referencedColumn ≠ "") ∧
    ∃ i t j c target r, s.tableIndex? (clean f.table) = some i ∧ s.tables[i]? = some t ∧
      t.columnIndex? (clean f.column) = some j ∧ t.columns[j]? = some c ∧
      s.findTable? (clean f.referencedTable) = some target ∧
      between (clean t.name) (clean c.name) (clean target.name)
        (clean (targetName target (clean f.referencedColumn))) = r ∧
      ⟨i, j, r, r.target⟩ = l := by
  simp only [linkFor?, Option.bind_eq_bind, Option.bind_eq_some_iff, Option.pure_def,
    Option.some.injEq, ForeignKey.relationship?, ofNames?_eq_some_iff]
  constructor
  · rintro ⟨_, ⟨hnames, rfl⟩, i, hi, t, ht, j, hj, c, hc, target, htarget, hl⟩
    exact ⟨hnames, i, t, j, c, target, _, hi, ht, hj, hc, htarget, rfl, hl⟩
  · rintro ⟨hnames, i, t, j, c, target, _, hi, ht, hj, hc, htarget, rfl, hl⟩
    exact ⟨_, ⟨hnames, rfl⟩, i, hi, t, ht, j, hj, c, hc, target, htarget, hl⟩

/-- A foreign key is dropped just if one of its names is empty once it is clean, or one of its
tables or the source column is not found. -/
theorem linkFor?_eq_none_iff : s.linkFor? f = none ↔
    (clean f.table = "" ∨ clean f.column = "" ∨ clean f.referencedTable = "" ∨
      clean f.referencedColumn = "") ∨
    s.findTable? (clean f.table) = none ∨
    (∃ t, s.findTable? (clean f.table) = some t ∧ t.findColumn? (clean f.column) = none) ∨
    s.findTable? (clean f.referencedTable) = none := by
  constructor
  · intro hnone
    by_contra! hall
    obtain ⟨hnames, htable, hcolumn, htarget⟩ := hall
    obtain ⟨t, ht⟩ := Option.ne_none_iff_exists'.mp htable
    obtain ⟨c, hc⟩ := Option.ne_none_iff_exists'.mp (hcolumn t ht)
    obtain ⟨target, htarget⟩ := Option.ne_none_iff_exists'.mp htarget
    obtain ⟨i, hi, hti⟩ := exists_tableIndex? ht
    obtain ⟨j, hj, hcj⟩ := exists_columnIndex? hc
    let r := between (clean t.name) (clean c.name) (clean target.name)
      (clean (targetName target (clean f.referencedColumn)))
    have hsome : s.linkFor? f = some ⟨i, j, r, r.target⟩ := linkFor?_eq_some_iff.mpr
      ⟨hnames, i, t, j, c, target, r, hi, hti, hj, hcj, htarget, rfl, rfl⟩
    exact Option.some_ne_none _ (hsome.symm.trans hnone)
  · intro h
    refine Option.eq_none_iff_forall_ne_some.mpr fun l hl => ?_
    obtain ⟨⟨htable, hcolumn, htarget, htargetColumn⟩, i, t, j, c, target, _, hi, ht, hj, hc, hu,
      -, -⟩ := linkFor?_eq_some_iff.mp hl
    have hfound := findTable?_of_tableIndex? hi ht
    rcases h with (h | h | h | h) | h | ⟨t', ht', h⟩ | h
    · exact htable h
    · exact hcolumn h
    · exact htarget h
    · exact htargetColumn h
    · exact Option.some_ne_none t (hfound.symm.trans h)
    · obtain rfl : t = t' := Option.some.inj (hfound.symm.trans ht')
      exact Option.some_ne_none c ((findColumn?_of_columnIndex? hj hc).symm.trans h)
    · exact Option.some_ne_none target (hu.symm.trans h)

theorem linkFor?_of_skeleton_eq (h : s.skeleton = s'.skeleton) : s.linkFor? = s'.linkFor? := by
  have hlink (s : Schema) (f : ForeignKey) :
      (Schema.mk s.skeleton []).linkFor? f = s.linkFor? f := by
    have hfind (name : String) : (Schema.mk s.skeleton []).findTable? name =
        (s.findTable? name).map Table.skeleton := find?_skeleton s name
    have hindex (name : String) : (Schema.mk s.skeleton []).tableIndex? name =
        s.tableIndex? name := by
      simp only [tableIndex?, skeleton, List.findIdx?_map, Function.comp_def,
        Table.isNamed_skeleton]
    simp only [linkFor?, hindex, getElem?_skeleton, hfind, targetName_skeleton,
      Option.bind_eq_bind, Option.bind_map, Function.comp_def, Table.columnIndex?_skeleton,
      Table.skeleton_columns, List.getElem?_map, Column.skeleton_name, Table.skeleton_name]
  funext f
  rw [← hlink s, h, hlink]

/-! ### What alterations link -/

/-- A pair of the altered table is looked up under the names that are found. None of them is empty,
once it is clean, unless a written one is, so nothing more is dropped in naming the link. -/
theorem resolve?_eq_linkFor? {i : Nat} {t : Table} (hi : s.tableIndex? (clean f.table) = some i)
    (ht : s.tables[i]? = some t) :
    (ofNames? t.name f.column f.referencedTable f.referencedColumn).bind (s.resolve? i) =
      s.linkFor? f := by
  have htable := clean_eq_empty_iff_of_findTable? (findTable?_of_tableIndex? hi ht)
  refine Option.ext fun l => ?_
  rw [Option.bind_eq_some_iff, linkFor?_eq_some_iff]
  constructor
  · rintro ⟨pair, hpair, hl⟩
    obtain ⟨⟨hname, hnames⟩, rfl⟩ := ofNames?_eq_some_iff.mp hpair
    obtain ⟨t', j, c, target, r, ht', hj, hc, htarget, hr, hl⟩ := resolve?_eq_some_iff.mp hl
    obtain rfl : t = t' := Option.some.inj (ht.symm.trans ht')
    obtain ⟨-, hr⟩ := ofNames?_eq_some_iff.mp hr
    exact ⟨⟨mt htable.mpr hname, hnames⟩, i, t, j, c, target, r, hi, ht, hj, hc, htarget, hr, hl⟩
  · rintro ⟨⟨hname, hcolumn, htargetTable, htargetColumn⟩, i', t', j, c, target, r, hi', ht', hj,
      hc, htarget, hr, hl⟩
    obtain rfl : i = i' := Option.some.inj (hi.symm.trans hi')
    obtain rfl : t = t' := Option.some.inj (ht.symm.trans ht')
    have hnames : clean t.name ≠ "" ∧ clean c.name ≠ "" ∧ clean target.name ≠ "" ∧
        clean (targetName target (clean f.referencedColumn)) ≠ "" := by
      refine ⟨mt htable.mp hname, ?_, ?_, mt clean_targetName_eq_empty_iff.mp htargetColumn⟩
      · exact mt (clean_eq_empty_iff_of_findColumn? (findColumn?_of_columnIndex? hj hc)).mp hcolumn
      · exact mt (clean_eq_empty_iff_of_findTable? htarget).mp htargetTable
    refine ⟨_, ofNames?_eq_some_iff.mpr ⟨⟨hnames.1, hcolumn, htargetTable, htargetColumn⟩, rfl⟩, ?_⟩
    exact resolve?_eq_some_iff.mpr ⟨t, j, c, target, r, ht, hj, hc, htarget,
      ofNames?_eq_some_iff.mpr ⟨hnames, hr⟩, hl⟩

/-- The links of an alteration are those of the foreign keys that it writes. -/
theorem alterationLinks_eq (s : Schema) (a : TableAlteration) :
    s.alterationLinks a = a.written.filterMap s.linkFor? := by
  have hdropped {name : String} (hname : clean name = "" ∨ s.tableIndex? (clean name) = none)
      (column target targetColumn : String) :
      s.linkFor? ⟨name, column, target, targetColumn⟩ = none := by
    refine linkFor?_eq_none_iff.mpr (hname.elim (fun h => .inl (.inl h)) fun h => .inr (.inl ?_))
    rw [findTable?, List.find?_eq_bind_findIdx?_getElem?]
    exact Option.bind_eq_none_iff.mpr fun i hi => absurd (hi.symm.trans h) (Option.some_ne_none i)
  rw [alterationLinks, alteredTable?, TableAlteration.written]
  cases a.name with
  | none => rfl
  | some name =>
      simp only [Option.toList_some, List.flatMap_cons, List.flatMap_nil, List.append_nil,
        List.filterMap_flatMap, List.filterMap_map, Function.comp_def]
      by_cases hname : name = ""
      · subst hname
        simp [hdropped (.inl clean_empty)]
      · rw [if_neg hname]
        cases hi : s.tableIndex? (clean name) with
        | none => simp [hdropped (.inr hi)]
        | some i =>
            obtain ⟨hlt, -⟩ := List.findIdx?_eq_some_iff_getElem.mp hi
            have ht : s.tables[i]? = some s.tables[i] := List.getElem?_eq_getElem hlt
            simp only [alterationPairs, ht, Option.map_some, Option.getD_some,
              List.filterMap_flatMap, ForeignKeyClause.relationships, List.filterMap_filterMap]
            refine List.flatMap_congr fun clause _ => List.filterMap_congr fun pair _ => ?_
            exact resolve?_eq_linkFor? (f := ⟨name, pair.1, clause.referencesTable, pair.2⟩) hi ht

/-- All foreign keys may be looked up in the schema as it is before the alterations. -/
theorem alter_eq_foldl_addLink (s : Schema) (statements : List Statement) :
    s.alter statements = (s.linksFor statements).foldl (addLink false) s := by
  have hrun (as : List TableAlteration) (s : Schema) : as.foldl alterTable s =
      ((as.flatMap (·.written)).filterMap s.linkFor?).foldl (addLink false) s := by
    induction as generalizing s with
    | nil => rfl
    | cons a as ih =>
        rw [List.foldl_cons, ih, linkFor?_of_skeleton_eq (skeleton_alterTable s a),
          alterTable_eq_foldl_addLink, alterationLinks_eq, List.flatMap_cons,
          List.filterMap_append, List.foldl_append]
  rw [alter_eq_foldl, linksFor, hrun]

/-- The effect of alterations on any schema. The schema takes up the links of all foreign keys that
are written, as they are found before the first alteration, except for those whose id it has or an
earlier one of them has. Each column is as it was, except for the mark and the reference of those
that a new link starts from: they become foreign keys, and if they refer to nothing yet, they refer
to the target of the first new link. A written foreign key is dropped just if one of its names is
empty once it is clean, or one of its tables or its column is not found. -/
theorem alter_effect (s : Schema) (statements : List Statement) :
    let added := s.newLinks (s.linksFor statements)
    s.alter statements =
        { tables := s.tables.mapIdx fun i t =>
            { t with columns := t.columns.mapIdx fun j c =>
              let reference := referenceFrom? added i j
              { c with
                isForeignKey := c.isForeignKey || reference.isSome
                references := c.references.or reference } }
          relationships := s.relationships ++ added.map (·.relationship) } ∧
      ∀ f, s.linkFor? f = none ↔
        (clean f.table = "" ∨ clean f.column = "" ∨ clean f.referencedTable = "" ∨
          clean f.referencedColumn = "") ∨
        s.findTable? (clean f.table) = none ∨
        (∃ t, s.findTable? (clean f.table) = some t ∧ t.findColumn? (clean f.column) = none) ∨
        s.findTable? (clean f.referencedTable) = none := by
  intro added
  refine ⟨?_, fun _ => linkFor?_eq_none_iff⟩
  rw [alter_eq_foldl_addLink]
  exact foldl_addLink_closed nofun

end Schema

end EntityMap
