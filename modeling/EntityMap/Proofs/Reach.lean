import Mathlib.Tactic.MkIffOfInductiveProp
import EntityMap.Proofs.Declaration.ForeignKey
import EntityMap.Proofs.Run

/-!
What an alteration reaches. Tables are stored under their exact names but searched case aside, so
an alteration reaches the first table whose name is like the one it writes. `Schema.build_reaches`
says that every foreign key an alteration adds is there in the end, between the tables and from the
column that are reached; where the tables it names stand before all that are spelled in another
way, it is there just as it is written.
-/

namespace EntityMap

open Identifier Relationship

/-! ### Identifiers of a script -/

/-- A clean name without the separators of an id. -/
@[mk_iff] structure Identifier.Plain (name : String) : Prop where
  isName : IsName name
  dotless : Dotless name
  arrowless : Arrowless name

instance (name : String) : Decidable (Plain name) := decidable_of_iff _ (plain_iff name).symm

def ForeignKeyClause.identifiers (clause : ForeignKeyClause) : List String :=
  clause.referencesTable :: (clause.columns ++ clause.referencesColumns)

def ColumnDefinition.identifiers (d : ColumnDefinition) : List String :=
  d.name :: d.reference.toList.flatMap ForeignKeyClause.identifiers

def TableDefinition.identifiers (d : TableDefinition) : List String :=
  d.name.toList ++ d.columns.flatMap ColumnDefinition.identifiers ++ d.primaryKeys ++
    d.foreignKeys.flatMap ForeignKeyClause.identifiers

def TableAlteration.identifiers (a : TableAlteration) : List String :=
  a.name.toList ++ a.foreignKeys.flatMap ForeignKeyClause.identifiers

def Statement.identifiers : Statement → List String
  | createTable d => d.identifiers
  | alterTable a => a.identifiers
  | other _ => []

theorem Identifier.Plain.clean {name : String} (h : Plain name) : Plain (Identifier.clean name) :=
  h.isName.clean_eq.symm ▸ h

theorem ForeignKeyClause.legible_of_plain {clause : ForeignKeyClause}
    (h : ∀ name ∈ clause.identifiers, Plain name) : clause.Legible := by
  refine ⟨(h _ List.mem_cons_self).clean.dotless, fun column hcolumn => ?_⟩
  exact (h column (List.mem_cons_of_mem _ (List.mem_append_left _ hcolumn))).clean.arrowless

theorem TableDefinition.legible_of_plain {d : TableDefinition}
    (h : ∀ name ∈ d.identifiers, Plain name) : d.Legible := by
  have hcolumn (x : ColumnDefinition) (hx : x ∈ d.columns) :
      ∀ name ∈ x.identifiers, Plain name := by
    intro name hname
    refine h name ?_
    simp only [identifiers, List.mem_append, List.mem_flatMap]
    exact .inl (.inl (.inr ⟨x, hx, hname⟩))
  have hkey (clause : ForeignKeyClause) (hclause : clause ∈ d.foreignKeys) :
      ∀ name ∈ clause.identifiers, Plain name := fun name hname =>
    h name (List.mem_append_right _ (List.mem_flatMap.mpr ⟨clause, hclause, hname⟩))
  refine ⟨?_, fun x hx => ?_, fun x hx clause hclause => ?_, fun clause hclause => ?_⟩
  · rw [tableName]
    cases hname : d.name with
    | none => decide
    | some name =>
        have hplain := h name (by simp [identifiers, hname])
        rw [Option.getD_some, hplain.isName.clean_eq, if_neg hplain.isName.ne_empty]
        exact hplain.dotless
  · exact (hcolumn x hx x.name List.mem_cons_self).clean.arrowless
  · have hreference : clause.referencesTable ∈ x.identifiers := List.mem_cons_of_mem _
      (List.mem_flatMap.mpr ⟨clause, Option.mem_toList.mpr hclause, List.mem_cons_self⟩)
    exact (hcolumn x hx _ hreference).clean.dotless
  · exact ForeignKeyClause.legible_of_plain (hkey clause hclause)

/-! ### Foreign keys of an alteration -/

/-- The foreign keys that the alteration writes, one for each column that has a partner. -/
def TableAlteration.written (a : TableAlteration) : List ForeignKey :=
  a.name.toList.flatMap fun table => a.foreignKeys.flatMap fun clause =>
    (clause.columns.zip clause.referencesColumns).map fun (column, target) =>
      ⟨table, column, clause.referencesTable, target⟩

/-- All four names of the foreign key are clean and not empty. -/
structure ForeignKey.Named (f : ForeignKey) : Prop where
  table : IsName f.table
  column : IsName f.column
  referencedTable : IsName f.referencedTable
  referencedColumn : IsName f.referencedColumn

namespace TableAlteration

variable {a : TableAlteration} {f : ForeignKey}

theorem mem_written : f ∈ a.written ↔ a.name = some f.table ∧ ∃ clause ∈ a.foreignKeys,
    clause.referencesTable = f.referencedTable ∧
      (f.column, f.referencedColumn) ∈ clause.columns.zip clause.referencesColumns := by
  simp only [written, List.mem_flatMap, List.mem_map, Option.mem_toList]
  constructor
  · rintro ⟨table, hname, clause, hclause, ⟨column, target⟩, hpair, rfl⟩
    exact ⟨hname, clause, hclause, rfl, hpair⟩
  · rintro ⟨hname, clause, hclause, htable, hpair⟩
    exact ⟨f.table, hname, clause, hclause, (f.column, f.referencedColumn), hpair, by rw [htable]⟩

theorem named_of_mem_written (h : ∀ name ∈ a.identifiers, Plain name) (hf : f ∈ a.written) :
    f.Named := by
  obtain ⟨hname, clause, hclause, htable, hpair⟩ := mem_written.mp hf
  obtain ⟨hcolumn, htarget⟩ := List.of_mem_zip hpair
  have hkey {name : String} (hmem : name ∈ clause.identifiers) : IsName name :=
    (h name (List.mem_append_right _ (List.mem_flatMap.mpr ⟨clause, hclause, hmem⟩))).isName
  refine ⟨(h f.table ?_).isName, hkey ?_, hkey ?_, hkey ?_⟩
  · exact List.mem_append_left _ (Option.mem_toList.mpr hname)
  · exact List.mem_cons_of_mem _ (List.mem_append_left _ hcolumn)
  · exact htable ▸ List.mem_cons_self
  · exact List.mem_cons_of_mem _ (List.mem_append_right _ htarget)

end TableAlteration

namespace Schema

open Statement

variable {s s' : Schema} {a : TableAlteration} {f : ForeignKey} {r : Relationship}

/-! ### What is reached -/

/-- The relationship between the column and the tables that the names of the foreign key find. -/
def reached? (s : Schema) (f : ForeignKey) : Option Relationship := do
  let t ← s.findTable? f.table
  let c ← t.findColumn? f.column
  let target ← s.findTable? f.referencedTable
  return between t.name c.name target.name (targetName target f.referencedColumn)

theorem reached?_eq_some_iff : s.reached? f = some r ↔ ∃ t c target,
    s.findTable? f.table = some t ∧ t.findColumn? f.column = some c ∧
      s.findTable? f.referencedTable = some target ∧
        between t.name c.name target.name (targetName target f.referencedColumn) = r := by
  simp only [reached?, Option.bind_eq_bind, Option.bind_eq_some_iff, Option.pure_def,
    Option.some.injEq]
  constructor
  · rintro ⟨t, ht, c, hc, target, htarget, hr⟩
    exact ⟨t, c, target, ht, hc, htarget, hr⟩
  · rintro ⟨t, c, target, ht, hc, htarget, hr⟩
    exact ⟨t, ht, c, hc, target, htarget, hr⟩

/-- What is reached once is reached in every later state. -/
theorem reached?_of_skeleton_eq (h : s.skeleton = s'.skeleton) (hr : s.reached? f = some r) :
    s'.reached? f = some r := by
  obtain ⟨t, c, target, ht, hc, htarget, rfl⟩ := reached?_eq_some_iff.mp hr
  obtain ⟨t', ht', het⟩ := exists_findTable?_of_skeleton_eq h ht
  obtain ⟨c', hc', hec⟩ := exists_findColumn?_of_skeleton_eq het hc
  obtain ⟨target', htarget', heu⟩ := exists_findTable?_of_skeleton_eq h htarget
  refine reached?_eq_some_iff.mpr ⟨t', c', target', ht', hc', htarget', ?_⟩
  have htname : t'.name = t.name := by simpa using congrArg Table.name het
  have huname : target'.name = target.name := by simpa using congrArg Table.name heu
  rw [htname, hec, huname, ← targetName_skeleton target', heu, targetName_skeleton]

theorem exists_link_of_reached? (hs : s.WellFormed) (hf : f ∈ a.written) (hnamed : f.Named)
    (hr : s.reached? f = some r) : ∃ l ∈ s.alterationLinks a, l.relationship = r := by
  obtain ⟨t, c, target, ht, hc, htarget, hrel⟩ := reached?_eq_some_iff.mp hr
  obtain ⟨hname, clause, hclause, hreferenced, hpair⟩ := TableAlteration.mem_written.mp hf
  obtain ⟨i, haltered, hti⟩ := exists_alteredTable? hname hnamed.table.ne_empty
    (hnamed.table.clean_eq.symm ▸ ht)
  obtain ⟨j, hj, hcj⟩ := exists_columnIndex? hc
  have htable := hs.tables t (mem_of_findTable? ht).1
  have htargetTable := hs.tables target (mem_of_findTable? htarget).1
  -- the pair as it is read from the clause, with the name of the table that is found
  have hread : between t.name f.column f.referencedTable f.referencedColumn ∈
      a.foreignKeys.flatMap (ForeignKeyClause.relationships t.name) := by
    refine List.mem_flatMap.mpr ⟨clause, hclause, List.mem_filterMap.mpr ⟨_, hpair, ?_⟩⟩
    rw [hreferenced]
    exact ofNames?_of_isName htable.name hnamed.column hnamed.referencedTable
      hnamed.referencedColumn
  have hnames := ofNames?_of_isName htable.name
    (isName_of_findColumn? htable hnamed.column hc) htargetTable.name
    (isName_targetName htargetTable hnamed.referencedColumn)
  rw [hrel] at hnames
  refine ⟨⟨i, j, r, r.target⟩, ?_, rfl⟩
  rw [alterationLinks, haltered]
  simp only [alterationPairs, hti, Option.map_some, Option.getD_some]
  refine List.mem_filterMap.mpr ⟨_, hread, ?_⟩
  exact resolve?_eq_some_iff.mpr ⟨t, j, c, target, r, hti, hj, hcj, htarget, hnames, rfl⟩

/-! ### What is added stays -/

/-- An alteration adds all that it links, and keeps everything: ids tell relationships apart. -/
theorem Consistent.mem_alterTable_iff (hs : s.Consistent) :
    r ∈ (s.alterTable a).relationships ↔
      r ∈ s.relationships ∨ ∃ l ∈ s.alterationLinks a, l.relationship = r := by
  have hread (q : Relationship)
      (hq : q ∈ s.relationships ++ (s.alterationLinks a).map (·.relationship)) :
      q.Canonical ∧ q.Legible := by
    rcases List.mem_append.mp hq with hq | hq
    · exact ⟨(hs.wellFormed.relationships q hq).canonical, hs.legible.relationships q hq⟩
    · obtain ⟨l, hl, rfl⟩ := List.mem_map.mp hq
      have hsound := sound_of_mem_alterationLinks hs.wellFormed hl
      exact ⟨hsound.wellFormed.canonical, Legible.of_sound hs.legible.tables hsound⟩
  rw [alterTable_eq_foldl_addLink, relationships_foldl_addLink, mem_foldl_iff, List.mem_map]
  intro p hp q hq
  exact eq_of_id_eq (hread p hp).1 (hread q hq).1 (hread p hp).2 (hread q hq).2

theorem Consistent.mem_foldl_alterTable (hs : s.Consistent) (hr : r ∈ s.relationships)
    (as : List TableAlteration) : r ∈ (as.foldl Schema.alterTable s).relationships := by
  induction as generalizing s with
  | nil => exact hr
  | cons a as ih => exact ih (hs.alterTable a) (hs.mem_alterTable_iff.mpr (Or.inl hr))

/-- Alterations before the one that writes the foreign key do not change what it reaches, and those
after it keep what it adds. -/
theorem Consistent.mem_foldl_alterTable_of_reached? (hs : s.Consistent)
    {as : List TableAlteration} (ha : a ∈ as) (hf : f ∈ a.written) (hnamed : f.Named)
    (hr : s.reached? f = some r) : r ∈ (as.foldl Schema.alterTable s).relationships := by
  induction as generalizing s with
  | nil => exact absurd ha List.not_mem_nil
  | cons b as ih =>
      rcases List.mem_cons.mp ha with rfl | ha
      · refine (hs.alterTable a).mem_foldl_alterTable ?_ as
        exact hs.mem_alterTable_iff.mpr
          (Or.inr (exists_link_of_reached? hs.wellFormed hf hnamed hr))
      · exact ih (hs.alterTable b) ha
          (reached?_of_skeleton_eq (skeleton_alterTable s b).symm hr)

/-! ### Building a schema -/

theorem exists_findTable? {name : String} {t : Table} (ht : t ∈ s.tables) (hname : t.name = name) :
    ∃ t', s.findTable? name = some t' := by
  rw [← Option.isSome_iff_exists, findTable?, List.find?_isSome]
  exact ⟨t, ht, Table.isNamed_iff.mpr (by rw [hname])⟩

theorem mem_build_of_mem_declared {statements : List Statement}
    (h : r ∈ (declared statements).relationships) : r ∈ (build statements).relationships := by
  rw [build_eq_infer_declared, infer_of_ne_nil (List.ne_nil_of_mem h)]
  exact h

theorem consistent_declare {statements : List Statement}
    (hplain : ∀ statement ∈ statements, ∀ name ∈ statement.identifiers, Plain name)
    (hcolumns : ∀ d ∈ definitions statements, d.ColumnsDistinct) :
    (empty.declare statements).Consistent := by
  rw [declare_eq_foldl]
  refine Consistent.empty.foldl_declareTable fun d hd => ⟨hcolumns d hd, ?_⟩
  exact TableDefinition.legible_of_plain (hplain _ (mem_definitions.mp hd))

/-- What a foreign key reaches among the declared tables is there in the end. -/
theorem mem_build_of_reached? {statements : List Statement}
    (hplain : ∀ statement ∈ statements, ∀ name ∈ statement.identifiers, Plain name)
    (hcolumns : ∀ d ∈ definitions statements, d.ColumnsDistinct)
    (ha : a ∈ alterations statements) (hf : f ∈ a.written)
    (hr : (empty.declare statements).reached? f = some r) :
    r ∈ (build statements).relationships := by
  have hs := consistent_declare hplain hcolumns
  have hnamed := TableAlteration.named_of_mem_written (hplain _ (mem_alterations.mp ha)) hf
  refine mem_build_of_mem_declared ?_
  rw [declared, ← declare_eq_foldl]
  exact hs.mem_foldl_alterTable_of_reached? ha hf hnamed hr

/-- Every foreign key of an alteration ends up between the first tables that are named like the
ones it writes, case aside, as long as the first of these has the column. If they are the very
tables that it names, it ends up just as it is written. -/
theorem build_reaches {statements : List Statement}
    (hplain : ∀ statement ∈ statements, ∀ name ∈ statement.identifiers, Plain name)
    (hcolumns : ∀ d ∈ definitions statements, d.ColumnsDistinct)
    (ha : a ∈ alterations statements) (hf : f ∈ a.written) {t target : Table}
    (ht : t ∈ (empty.declare statements).tables) (hname : t.name = f.table)
    (hcolumn : f.column ∈ t.columns.map (·.name))
    (htarget : target ∈ (empty.declare statements).tables)
    (htargetName : target.name = f.referencedTable) :
    ∃ t' target', (empty.declare statements).findTable? f.table = some t' ∧
      (empty.declare statements).findTable? f.referencedTable = some target' ∧
      (∀ c, t'.findColumn? f.column = some c → ∃ r ∈ (build statements).relationships,
        r.sourceTable = t'.name ∧ r.sourceColumn = c.name ∧ r.targetTable = target'.name) ∧
      (t' = t → target' = target → ∃ r ∈ (build statements).relationships,
        r.sourceTable = f.table ∧ r.sourceColumn = f.column ∧
          r.targetTable = f.referencedTable) := by
  obtain ⟨t', ht'⟩ := exists_findTable? ht hname
  obtain ⟨target', htarget'⟩ := exists_findTable? htarget htargetName
  have hreached (c : Column) (hc : t'.findColumn? f.column = some c) :
      ∃ r ∈ (build statements).relationships,
        r.sourceTable = t'.name ∧ r.sourceColumn = c.name ∧ r.targetTable = target'.name := by
    have hr := reached?_eq_some_iff.mpr ⟨t', c, target', ht', hc, htarget', rfl⟩
    exact ⟨_, mem_build_of_reached? hplain hcolumns ha hf hr, rfl, rfl, rfl⟩
  refine ⟨t', target', ht', htarget', hreached, ?_⟩
  rintro rfl rfl
  obtain ⟨c, hc, hcname⟩ := List.mem_map.mp hcolumn
  have hdistinct := (consistent_declare hplain hcolumns).columns t' ht
  have hfind := hdistinct.findColumn?_eq hc (congrArg Text.lower hcname)
  simpa only [hname, hcname, htargetName] using hreached c hfind

def bossKey : ForeignKey := ⟨"users", "boss", "staff", "id"⟩

/-- Two tables have names that differ in case only, and the second one is altered. -/
def shadowedUsers : List Statement :=
  [.createTable ⟨some "Users", [.named "boss"], [], []⟩,
    .createTable ⟨some "users", [.named "boss"], [], []⟩,
    .createTable ⟨some "staff", [.named "id"], [], []⟩,
    .alterTable bossKey.alteration]

theorem build_shadowedUsers :
    (∀ statement ∈ shadowedUsers, ∀ name ∈ statement.identifiers, Plain name) ∧
      (∀ d ∈ definitions shadowedUsers, d.ColumnsDistinct) ∧
      bossKey.alteration ∈ alterations shadowedUsers ∧ bossKey ∈ bossKey.alteration.written ∧
      (∃ t ∈ (empty.declare shadowedUsers).tables,
        t.name = bossKey.table ∧ bossKey.column ∈ t.columns.map (·.name)) ∧
      (∃ target ∈ (empty.declare shadowedUsers).tables, target.name = bossKey.referencedTable) ∧
      ¬∃ r ∈ (build shadowedUsers).relationships, r.sourceTable = bossKey.table ∧
        r.sourceColumn = bossKey.column ∧ r.targetTable = bossKey.referencedTable := by
  decide +kernel

def leadingUsers : List Statement :=
  [.createTable ⟨some "staff", [.named "ID"], [], []⟩,
    .createTable ⟨some "users", [.named "boss"], [], []⟩,
    .createTable ⟨some "Users", [.named "Boss", .named "id"], [], []⟩,
    .createTable ⟨some "STAFF", [.named "id"], [], []⟩,
    .alterTable ⟨some "Users", [⟨["Boss"], "users", ["boss"]⟩]⟩,
    .alterTable bossKey.alteration]

theorem build_reaches_leadingUsers :
    (∀ statement ∈ leadingUsers, ∀ name ∈ statement.identifiers, Plain name) ∧
      (∀ d ∈ definitions leadingUsers, d.ColumnsDistinct) ∧
      bossKey.alteration ∈ alterations leadingUsers ∧ bossKey ∈ bossKey.alteration.written ∧
      ∃ r ∈ (build leadingUsers).relationships, r.sourceTable = bossKey.table ∧
        r.sourceColumn = bossKey.column ∧ r.targetTable = bossKey.referencedTable := by
  let users : Table := ⟨"users", "users", [(ColumnDefinition.named "boss").toColumn []]⟩
  let staff : Table := ⟨"staff", "staff", [(ColumnDefinition.named "ID").toColumn []]⟩
  have hplain : ∀ statement ∈ leadingUsers, ∀ name ∈ statement.identifiers, Plain name := by
    decide +kernel
  have hcolumns : ∀ d ∈ definitions leadingUsers, d.ColumnsDistinct := by decide +kernel
  have ha : bossKey.alteration ∈ alterations leadingUsers := by decide +kernel
  have hf : bossKey ∈ bossKey.alteration.written := by decide +kernel
  have husers : (empty.declare leadingUsers).findTable? bossKey.table = some users := by
    decide +kernel
  have hstaff : (empty.declare leadingUsers).findTable? bossKey.referencedTable = some staff := by
    decide +kernel
  obtain ⟨t, target, ht, htarget, -, hlinked⟩ := build_reaches hplain hcolumns ha hf
    (List.mem_of_find?_eq_some husers) rfl (by decide +kernel)
    (List.mem_of_find?_eq_some hstaff) rfl
  have hfirst : t = users := Option.some.inj (ht.symm.trans husers)
  have hfirstTarget : target = staff := Option.some.inj (htarget.symm.trans hstaff)
  exact ⟨hplain, hcolumns, ha, hf, hlinked hfirst hfirstTarget⟩

end Schema

end EntityMap
