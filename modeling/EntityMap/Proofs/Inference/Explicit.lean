import EntityMap.Proofs.Declaration.ForeignKey
import EntityMap.Proofs.Schema.Coherence

/-!
Inferred relationships that are declared as well. Statements without foreign keys give a schema
whose relationships are all inferred; `Schema.additions` are the alterations that declare them.
Where names are distinct, these change nothing exactly if inference spells the key of each target
table as the table does. A primary key is spelled so, but a table without one is referred to by the
fallback key, whatever the case of its column. `Schema.build_additions_iff` is the main statement.
-/

namespace EntityMap

open Identifier Relationship Statement

/-- The statements declare no foreign key in any form. -/
@[mk_iff] structure NoForeignKeys (statements : List Statement) : Prop where
  clauses : ∀ d ∈ definitions statements, d.foreignKeys = []
  inline : ∀ d ∈ definitions statements, ∀ x ∈ d.columns, x.reference = none
  altered : ∀ a ∈ alterations statements, a.foreignKeys = []

instance (statements : List Statement) : Decidable (NoForeignKeys statements) :=
  decidable_of_iff _ (noForeignKeys_iff statements).symm

/-- If the table has no primary key, then a column with the name of the fallback key, case aside,
has exactly this name. -/
def Table.SpellsKey (t : Table) : Prop :=
  t.primaryKeyColumns = [] → ∀ c ∈ t.columns,
    Text.lower c.name = Text.lower Schema.fallbackKey → c.name = Schema.fallbackKey

instance (t : Table) : Decidable t.SpellsKey := inferInstanceAs (Decidable (_ → _))

namespace Schema

/-! ### The spelling of keys -/

theorem targetName_of_mem {t : Table} (ht : t.ColumnsDistinct) {c : Column} (hc : c ∈ t.columns)
    {written : String} (h : Text.lower c.name = Text.lower written) :
    targetName t written = c.name := by
  rw [targetName, ht.findColumn?_eq hc h]
  rfl

theorem targetName_of_forall_ne {t : Table} {written : String}
    (h : ∀ c ∈ t.columns, Text.lower c.name ≠ Text.lower written) :
    targetName t written = written := by
  have hfind : t.findColumn? written = none :=
    List.find?_eq_none.mpr fun c hc hnamed => h c hc (Column.isNamed_iff.mp hnamed)
  rw [targetName, hfind]
  rfl

theorem targetName_keyName_eq_iff {t : Table} (ht : t.ColumnsDistinct) :
    targetName t (keyName t) = keyName t ↔ t.SpellsKey := by
  rcases keyName_eq_or t with ⟨k, hk, hkey, he⟩ | ⟨hnone, he⟩
  · have hmem : k ∈ t.primaryKeyColumns := List.mem_filter.mpr ⟨hk, hkey⟩
    refine iff_of_true (by rw [he, targetName_of_mem ht hk rfl]) fun hnil => ?_
    rw [hnil] at hmem
    contradiction
  · have hnil : t.primaryKeyColumns = [] := List.filter_eq_nil_iff.mpr (by simpa using hnone)
    rw [he]
    constructor
    · intro h _ c hc hname
      exact (targetName_of_mem ht hc hname).symm.trans h
    · intro h
      by_cases hc : ∃ c ∈ t.columns, Text.lower c.name = Text.lower fallbackKey
      · obtain ⟨c, hc, hname⟩ := hc
        rw [targetName_of_mem ht hc hname, h hnil c hc hname]
      · exact targetName_of_forall_ne fun c hmem hname => hc ⟨c, hmem, hname⟩

/-! ### Inferred relationships -/

variable {s : Schema} {statements : List Statement}

theorem sourcesUnique_of_inferredLinks (hs : s.WellFormed) (hd : s.Distinct)
    {rs : List Relationship} (hrs : ∀ r ∈ rs, ∃ l ∈ inferredLinks s.tables, l.relationship = r) :
    SourcesUnique rs := by
  intro table column r hr q hq hstart hstart'
  obtain ⟨l, hl, rfl⟩ := hrs r hr
  obtain ⟨l', hl', rfl⟩ := hrs q hq
  obtain ⟨i, t, j, c, u, ht, hc, hinfer, -, hnames, -⟩ := exists_of_mem_inferredLinks hs hl
  obtain ⟨i', t', j', c', u', ht', hc', hinfer', -, hnames', -⟩ :=
    exists_of_mem_inferredLinks hs hl'
  rw [hnames] at hstart
  rw [hnames'] at hstart'
  obtain rfl := hd.eq_of_name_eq (List.mem_of_getElem? ht) (List.mem_of_getElem? ht')
    (hstart.1.trans hstart'.1.symm)
  have htable := hd.columns t (List.mem_of_getElem? ht)
  obtain rfl := htable.eq_of_lower_eq (List.mem_of_getElem? hc) (List.mem_of_getElem? hc')
    (hstart.2.trans hstart'.2.symm)
  -- both links are inferred for the same positions, where inference has one answer
  have hi : i = i' := (List.getElem?_inj (List.getElem?_eq_some_iff.mp ht).1
    hd.tables.of_map).mp (ht.trans ht'.symm)
  have hj : j = j' := (List.getElem?_inj (List.getElem?_eq_some_iff.mp hc).1
    htable.names_nodup.of_map).mp (hc.trans hc'.symm)
  rw [hi, hj, hinfer'] at hinfer
  rw [Option.some.inj hinfer]

/-- An inferred relationship is located by its names, and what its target column is called decides
whether its target table spells its key. -/
theorem locates_of_mem_inferredLinks (hs : s.WellFormed) (hd : s.Distinct) (ht : s.TablesDistinct)
    {l : Link} (hl : l ∈ inferredLinks s.tables) :
    s.Locates l.relationship ∧ IsName (s.targetSpelling l.relationship) ∧
      (s.targetSpelling l.relationship = l.relationship.targetColumn ↔
        ∀ t ∈ s.tables, t.name = l.relationship.targetTable → t.SpellsKey) := by
  obtain ⟨i, t, j, c, u, hti, hcj, -, hu, rfl, hwf⟩ := exists_of_mem_inferredLinks hs hl
  have htable := List.mem_of_getElem? hti
  have hfind : s.findTable? u.name = some u := ht.findTable?_eq hu
  have hcolumn := (hd.columns t htable).findColumn?_eq (List.mem_of_getElem? hcj) rfl
  have hspelling : s.targetSpelling (between t.name c.name u.name (keyName u)) =
      targetName u (keyName u) := by
    rw [targetSpelling]
    simp only [between, hfind, Option.map_some, Option.getD_some]
  refine ⟨⟨⟨t, ht.findTable?_eq htable, rfl, c, hcolumn, rfl⟩, u, hfind, rfl⟩, ?_, ?_⟩
  · rw [hspelling]
    exact isName_targetName (hs.tables u hu) hwf.targetColumn
  · rw [hspelling]
    refine (targetName_keyName_eq_iff (hd.columns u hu)).trans ⟨fun h t' ht' hname => ?_, ?_⟩
    · rwa [hd.eq_of_name_eq ht' hu hname]
    · exact fun h => h u hu rfl

theorem Coherent.infer (hs : s.Coherent) (hwf : s.WellFormed) (hd : s.Distinct) :
    s.infer.Coherent := by
  have hsound (l : Link) (hl : l ∈ inferredLinks s.tables) : l.Sound s.tables :=
    sound_of_mem_inferredLinks hwf hl
  rw [infer_eq_foldl_addLink]
  split
  · rw [foldl_addLink_eq hd fun l hl => (hsound l hl).fits]
    refine hs.foldl_link hd true fun r hr => ?_
    obtain ⟨l, hl, rfl⟩ := List.mem_map.mp hr
    exact (hsound l hl).fits.sourceIn
  · exact hs

/-! ### Schemas without foreign keys -/

/-- Names are distinct, and nothing is said about foreign keys. -/
structure Bare (s : Schema) : Prop where
  wellFormed : s.WellFormed
  tables : s.TablesDistinct
  columns : ∀ t ∈ s.tables, t.ColumnsDistinct
  relationships : s.relationships = []
  coherent : s.Coherent

theorem Bare.distinct (hs : s.Bare) : s.Distinct := ⟨hs.wellFormed.names_nodup, hs.columns⟩

theorem bare_declared (hnone : NoForeignKeys statements)
    (htables : ((definitions statements).map fun d => Text.lower d.tableName).Nodup)
    (hcolumns : ∀ d ∈ definitions statements, d.ColumnsDistinct) : (declared statements).Bare := by
  have hpairs (d : TableDefinition) (hd : d ∈ definitions statements) : d.writtenPairs = [] :=
    TableDefinition.writtenPairs_eq_nil (hnone.clauses d hd) (hnone.inline d hd)
  have hnames : ((definitions statements).map (·.tableName)).Nodup := nodup_map_of_comp htables
  have hdeclared : declared statements = ⟨(definitions statements).map (·.build.1), []⟩ := by
    rw [declared, foldl_alterTable_eq_self hnone.altered, foldl_declareTable_empty hnames,
      List.flatMap_eq_nil_iff.mpr hpairs, List.foldl_nil]
  refine ⟨wellFormed_declared statements, ?_, ?_, ?_, ?_⟩
  · exact tablesDistinct_of_tables_eq (congrArg Schema.tables hdeclared) htables
  · rw [hdeclared]
    intro t ht
    obtain ⟨d, hd, rfl⟩ := List.mem_map.mp ht
    exact (hcolumns d hd).build
  · rw [hdeclared]
  · rw [hdeclared]
    intro t ht c hc
    obtain ⟨d, hd, rfl⟩ := List.mem_map.mp ht
    rw [d.build_fst_name]
    rw [TableDefinition.build_fst (hcolumns d hd)] at hc
    obtain ⟨x, hx, rfl⟩ := List.mem_map.mp hc
    exact hpairs d hd ▸ coherent_linkedColumn (hcolumns d hd) hx

/-! ### Declaring what is inferred -/

/-- The inferred relationships are located, and the spelling of their target columns is that of the
keys of their target tables. -/
theorem Bare.spelling (hs : s.Bare) {r : Relationship} (hr : r ∈ s.infer.relationships) :
    s.Locates r ∧ IsName (s.targetSpelling r) ∧ (s.targetSpelling r = r.targetColumn ↔
      ∀ t ∈ s.infer.tables, t.name = r.targetTable → t.SpellsKey) := by
  have hskel : s.skeleton = s.infer.skeleton := (skeleton_infer s).symm
  obtain ⟨l, hl, rfl⟩ := mem_relationships_infer hs.relationships hr
  rw [← inferredLinks_skeleton, hskel, inferredLinks_skeleton] at hl
  obtain ⟨hlocates, hname, hspells⟩ := locates_of_mem_inferredLinks hs.wellFormed.infer
    (hs.distinct.of_skeleton_eq hskel) (hs.tables.of_skeleton_eq hskel) hl
  rw [targetSpelling_of_skeleton_eq hskel]
  exact ⟨hlocates.of_skeleton_eq hskel.symm, hname, hspells⟩

theorem Bare.foldl_alterTable_eq (hs : s.Bare) :
    (s.infer.relationships.map (·.foreignKey.alteration)).foldl alterTable s =
      (s.infer.relationships.map s.respell).foldl (link false) s :=
  foldl_alterTable_of_locates hs.wellFormed hs.distinct fun r hr =>
    ⟨hs.wellFormed.infer.relationships r hr, (hs.spelling hr).1, (hs.spelling hr).2.1⟩

/-- Linking the inferred relationships without inference gives the same schema, since no column is
marked twice. -/
theorem Bare.foldl_link_eq_infer (hs : s.Bare) :
    s.infer.relationships.foldl (link false) s = s.infer := by
  have hrels : (s.infer.relationships.foldl (link false) s).relationships =
      s.infer.relationships := by
    rw [relationships_foldl_link, hs.relationships]
    exact foldl_appendUnique_of_nodup (by simpa using hs.wellFormed.infer.ids_nodup)
  have hcoherent : (s.infer.relationships.foldl (link false) s).Coherent := by
    refine hs.coherent.foldl_link hs.distinct false fun r hr => ?_
    obtain ⟨l, hl, rfl⟩ := mem_relationships_infer hs.relationships hr
    exact (sound_of_mem_inferredLinks hs.wellFormed hl).fits.sourceIn
  refine Schema.ext (hcoherent.tables_eq (hs.coherent.infer hs.wellFormed hs.distinct) ?_
    (fun r => by rw [hrels]) ?_) hrels
  · rw [skeleton_foldl_link, skeleton_infer]
  · exact sourcesUnique_of_inferredLinks hs.wellFormed hs.distinct fun r hr =>
      mem_relationships_infer hs.relationships (hrels ▸ hr)

/-- Adding the inferred relationships by alterations gives the same schema exactly if no target
column is respelled: as many relationships are there only if each alteration adds one. -/
theorem Bare.foldl_alterTable_eq_infer_iff (hs : s.Bare) :
    (s.infer.relationships.map (·.foreignKey.alteration)).foldl alterTable s = s.infer ↔
      ∀ r ∈ s.infer.relationships, s.targetSpelling r = r.targetColumn := by
  have hwf := hs.wellFormed.infer
  have hrespell (h : s.infer.relationships.map s.respell = s.infer.relationships) :
      ∀ r ∈ s.infer.relationships, s.targetSpelling r = r.targetColumn := fun r hr =>
    (respell_eq_self_iff (hwf.relationships r hr).canonical).mp
      (List.map_inj_left.mp (h.trans (List.map_id _).symm) r hr)
  rw [hs.foldl_alterTable_eq]
  constructor
  · intro h
    -- what is added is a part of the respelled relationships, and it is as long as they are
    have hrels := congrArg Schema.relationships h
    rw [relationships_foldl_link, hs.relationships] at hrels
    have hsublist : ((s.infer.relationships.map s.respell).foldl appendUnique []).Sublist
        ([] ++ s.infer.relationships.map s.respell) := foldl_appendUnique_sublist
    rw [hrels, List.nil_append] at hsublist
    exact hrespell (hsublist.eq_of_length (by simp)).symm
  · intro h
    have hsame : s.infer.relationships.map s.respell = s.infer.relationships := by
      refine (List.map_congr_left fun r hr => ?_).trans (List.map_id _)
      exact (respell_eq_self_iff (hwf.relationships r hr).canonical).mpr (h r hr)
    rw [hsame]
    exact hs.foldl_link_eq_infer

/-- For statements without foreign keys, declaring the inferred relationships as well changes
nothing exactly if each table that one of them points to spells its key. -/
theorem build_additions_iff (hnone : NoForeignKeys statements)
    (htables : ((definitions statements).map fun d => Text.lower d.tableName).Nodup)
    (hcolumns : ∀ d ∈ definitions statements, d.ColumnsDistinct) :
    build (statements ++ (build statements).additions) = build statements ↔
      ∀ r ∈ (build statements).relationships, ∀ t ∈ (build statements).tables,
        t.name = r.targetTable → t.SpellsKey := by
  have hbare := bare_declared hnone htables hcolumns
  by_cases hnil : (build statements).relationships = []
  · refine iff_of_true ?_ (by simp [hnil])
    rw [additions, hnil, List.map_nil, List.map_nil, List.append_nil]
  · have hdeclared : declared (statements ++ (build statements).additions) =
        ((declared statements).infer.relationships.map (·.foreignKey.alteration)).foldl alterTable
          (declared statements) := by
      rw [additions, declared_append_alterTable, build_eq_infer_declared]
    have hne : (declared (statements ++ (build statements).additions)).relationships ≠ [] := by
      rw [hdeclared, hbare.foldl_alterTable_eq, relationships_foldl_link, hbare.relationships]
      rw [build_eq_infer_declared] at hnil
      simpa [foldl_appendUnique_eq_nil_iff] using hnil
    rw [build_eq_infer_declared (statements ++ _), infer_of_ne_nil hne, hdeclared,
      build_eq_infer_declared, hbare.foldl_alterTable_eq_infer_iff]
    exact forall₂_congr fun r hr => (hbare.spelling hr).2.2

def inferredShop : List Statement :=
  [.createTable ⟨some "Users", [.named "id"], [], []⟩,
    .createTable ⟨some "categories", [.named "CODE"], ["code"], []⟩,
    .createTable ⟨some "orders", [.named "User_ID"], [], []⟩,
    .createTable ⟨some "items", [.named "category_id", .named "order_id"], [], []⟩]

theorem build_additions_inferredShop :
    NoForeignKeys inferredShop ∧
      ((definitions inferredShop).map fun d => Text.lower d.tableName).Nodup ∧
      (∀ d ∈ definitions inferredShop, d.ColumnsDistinct) ∧
      (∀ r ∈ (build inferredShop).relationships, ∀ t ∈ (build inferredShop).tables,
        t.name = r.targetTable → t.SpellsKey) ∧
      build (inferredShop ++ (build inferredShop).additions) = build inferredShop := by
  have hnone : NoForeignKeys inferredShop := by decide +kernel
  have htables : ((definitions inferredShop).map fun d => Text.lower d.tableName).Nodup := by
    decide +kernel
  have hcolumns : ∀ d ∈ definitions inferredShop, d.ColumnsDistinct := by decide +kernel
  have hspells : ∀ r ∈ (build inferredShop).relationships, ∀ t ∈ (build inferredShop).tables,
      t.name = r.targetTable → t.SpellsKey := by decide +kernel
  exact ⟨hnone, htables, hcolumns, hspells,
    (build_additions_iff hnone htables hcolumns).mpr hspells⟩

/-- Orders refer to a table without a primary key whose column is the fallback key in upper
case. -/
def upperCaseKey : List Statement :=
  [.createTable ⟨some "users", [.named "ID"], [], []⟩,
    .createTable ⟨some "orders", [.named "user_id"], [], []⟩]

/-- The relationship is inferred to the fallback key, and declared to the column. -/
theorem build_additions_upperCaseKey_ne :
    NoForeignKeys upperCaseKey ∧
      ((definitions upperCaseKey).map fun d => Text.lower d.tableName).Nodup ∧
      (∀ d ∈ definitions upperCaseKey, d.ColumnsDistinct) ∧
      build (upperCaseKey ++ (build upperCaseKey).additions) ≠ build upperCaseKey := by
  decide +kernel

end Schema

end EntityMap
