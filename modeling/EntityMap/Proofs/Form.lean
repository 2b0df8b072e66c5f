import EntityMap.Proofs.Declaration.Form
import EntityMap.Proofs.Run

/-!
Declarations with foreign keys in any form. Some tables are declared, and foreign keys between them
are written next to their columns, as clauses, or in alterations. Before inference the schema is
coherent and has just the relationships of the foreign keys, whatever forms they have; since the
relationships of a coherent schema determine the rest, the forms make no difference.
-/

namespace EntityMap

open Identifier Relationship Statement

/-- Declarations of different tables with different columns, whose names are clean and can be read
from the ids of relationships. -/
@[mk_iff] structure DistinctlyNamed (base : List TableDefinition) : Prop where
  tables : (base.map fun d => Text.lower d.tableName).Nodup
  tableNames : ∀ d ∈ base, Dotless d.tableName
  columns : ∀ d ∈ base, d.ColumnsDistinct
  columnNames : ∀ d ∈ base, ∀ x ∈ d.columns, IsName x.name ∧ Arrowless x.name

instance (base : List TableDefinition) : Decidable (DistinctlyNamed base) :=
  decidable_of_iff _ (distinctlyNamed_iff base).symm

/-- The foreign key starts from a column of a declared table and refers to a declared table. The
referenced column, in its clean form, is named exactly like one of that table, or unlike all of
them even case aside. -/
@[mk_iff] structure ForeignKey.Joins (base : List TableDefinition) (f : ForeignKey) : Prop where
  source : ∃ d ∈ base, d.tableName = f.table ∧ ∃ x ∈ d.columns, x.name = f.column
  target : ∃ d ∈ base, d.tableName = f.referencedTable ∧
    ((∃ x ∈ d.columns, x.name = clean f.referencedColumn) ∨
      ∀ x ∈ d.columns, Text.lower x.name ≠ Text.lower (clean f.referencedColumn))

instance (base : List TableDefinition) (f : ForeignKey) : Decidable (f.Joins base) :=
  decidable_of_iff _ (ForeignKey.joins_iff base f).symm

/-- The statements declare the tables with the foreign keys in the given forms. Alterations may
stand anywhere. -/
structure Presents (base : List TableDefinition) (keys : List ForeignKey)
    (form : ForeignKey → Form) (statements : List Statement) : Prop where
  definitions_eq : definitions statements = base.map (·.write keys form)
  alterations_eq : alterations statements =
    (keys.filter (form · = .alteration)).map (·.alteration)

variable {base : List TableDefinition} {keys : List ForeignKey} {form : ForeignKey → Form}
  {statements : List Statement} {f : ForeignKey} {r : Relationship} {s : Schema}

namespace DistinctlyNamed

theorem eq_of_tableName_eq (hbase : DistinctlyNamed base) {d d' : TableDefinition} (hd : d ∈ base)
    (hd' : d' ∈ base) (h : d.tableName = d'.tableName) : d = d' :=
  List.inj_on_of_nodup_map hbase.tables hd hd' (congrArg Text.lower h)

theorem tableNames_nodup (hbase : DistinctlyNamed base) : (base.map (·.tableName)).Nodup :=
  nodup_map_of_comp hbase.tables

end DistinctlyNamed

/-! ### What a foreign key between declared tables says -/

namespace ForeignKey.Joins

theorem isName_column (hbase : DistinctlyNamed base) (hf : f.Joins base) :
    IsName f.column ∧ Arrowless f.column := by
  obtain ⟨d, hd, -, x, hx, hname⟩ := hf.source
  exact hname ▸ hbase.columnNames d hd x hx

theorem relationship?_eq_some_iff (hbase : DistinctlyNamed base) (hf : f.Joins base) :
    f.relationship? = some r ↔ clean f.referencedColumn ≠ "" ∧
      between f.table f.column f.referencedTable (clean f.referencedColumn) = r := by
  obtain ⟨d, -, htable, -⟩ := hf.source
  obtain ⟨u, -, htarget, -⟩ := hf.target
  have htable := htable ▸ d.isName_tableName
  have htarget := htarget ▸ u.isName_tableName
  have hcolumn := (hf.isName_column hbase).1
  rw [relationship?, ofNames?_eq_some_iff, htable.clean_eq, htarget.clean_eq, hcolumn.clean_eq]
  exact and_congr_left fun _ => ⟨fun h => h.2.2.2,
    fun h => ⟨htable.ne_empty, hcolumn.ne_empty, htarget.ne_empty, h⟩⟩

theorem legible (hbase : DistinctlyNamed base) (hf : f.Joins base)
    (hr : f.relationship? = some r) : r.Legible := by
  obtain ⟨-, rfl⟩ := (hf.relationship?_eq_some_iff hbase).mp hr
  obtain ⟨d, hd, htable, -⟩ := hf.source
  obtain ⟨u, hu, htarget, -⟩ := hf.target
  have hsource : Dotless f.table := by
    rw [← htable]
    exact hbase.tableNames d hd
  have htarget : Dotless f.referencedTable := by
    rw [← htarget]
    exact hbase.tableNames u hu
  exact ⟨hsource, (hf.isName_column hbase).2, htarget⟩

end ForeignKey.Joins

/-- Foreign keys from different columns give relationships from different columns. -/
theorem sourcesUnique_of_keys (hbase : DistinctlyNamed base) (hkeys : ∀ f ∈ keys, f.Joins base)
    (hsources : (keys.map fun f => (f.table, f.column)).Nodup) {rs : List Relationship}
    (hmem : ∀ r ∈ rs, ∃ f ∈ keys, f.relationship? = some r) : SourcesUnique rs := by
  intro table column r hr q hq hstart hstart'
  obtain ⟨f, hf, hfr⟩ := hmem r hr
  obtain ⟨g, hg, hgq⟩ := hmem q hq
  have hfg : f = g := by
    obtain ⟨d, hd, htable, x, hx, hcolumn⟩ := (hkeys f hf).source
    obtain ⟨d', hd', htable', x', hx', hcolumn'⟩ := (hkeys g hg).source
    obtain ⟨-, rfl⟩ := ((hkeys f hf).relationship?_eq_some_iff hbase).mp hfr
    obtain ⟨-, rfl⟩ := ((hkeys g hg).relationship?_eq_some_iff hbase).mp hgq
    have htables : f.table = g.table := hstart.1.trans hstart'.1.symm
    have hlower : Text.lower f.column = Text.lower g.column := hstart.2.trans hstart'.2.symm
    obtain rfl := hbase.eq_of_tableName_eq hd hd' (htable.trans (htables.trans htable'.symm))
    have hname := (hbase.columnNames d hd x hx).1.clean_eq
    have hname' := (hbase.columnNames d hd x' hx').1.clean_eq
    obtain rfl : x = x' := List.inj_on_of_nodup_map (hbase.columns d hd) hx hx' (by
      rw [hname, hname', hcolumn, hcolumn', hlower])
    refine List.inj_on_of_nodup_map hsources hf hg ?_
    rw [htables, ← hcolumn, ← hcolumn']
  rw [hfg, hgq] at hfr
  exact (Option.some.inj hfr).symm

/-- The declarations write the relationships of the foreign keys that are not added later. -/
theorem mem_writtenPairs_of_keys (hbase : DistinctlyNamed base) (hkeys : ∀ f ∈ keys, f.Joins base)
    (hsources : (keys.map fun f => (f.table, f.column)).Nodup) :
    r ∈ (base.map (·.write keys form)).flatMap (·.writtenPairs) ↔
      ∃ f ∈ keys, form f ≠ .alteration ∧ f.relationship? = some r := by
  have hwritten {d : TableDefinition} (hd : d ∈ base) :
      r ∈ (d.write keys form).writtenPairs ↔ ∃ f ∈ keys, f.table = d.tableName ∧
        form f ≠ .alteration ∧ f.relationship? = some r := by
    refine TableDefinition.mem_writtenPairs_write hsources fun f hf htable => ?_
    obtain ⟨d', hd', htable', hcolumn⟩ := (hkeys f hf).source
    rwa [hbase.eq_of_tableName_eq hd hd' (htable.symm.trans htable'.symm)]
  rw [List.flatMap_map, List.mem_flatMap]
  constructor
  · rintro ⟨d, hd, hr⟩
    obtain ⟨f, hf, -, hform, hr⟩ := (hwritten hd).mp hr
    exact ⟨f, hf, hform, hr⟩
  · rintro ⟨f, hf, hform, hr⟩
    obtain ⟨d, hd, htable, -⟩ := (hkeys f hf).source
    exact ⟨d, hd, (hwritten hd).mpr ⟨f, hf, htable.symm, hform, hr⟩⟩

/-! ### Before inference -/

namespace Schema

/-- The tables of the schema are the declared ones, foreign keys aside. -/
def Outlines (base : List TableDefinition) (s : Schema) : Prop :=
  s.skeleton = base.map (·.build.1.skeleton)

theorem Outlines.names_eq (hs : s.Outlines base) :
    s.tables.map (·.name) = base.map (·.tableName) := by
  rw [← names_skeleton, hs, List.map_map]
  simp only [Function.comp_def, TableDefinition.build_fst_skeleton]

theorem Outlines.tablesDistinct (hs : s.Outlines base) (hbase : DistinctlyNamed base) :
    s.TablesDistinct := by
  have hlower : (s.tables.map (·.name)).map Text.lower = (base.map (·.tableName)).map Text.lower :=
    congrArg _ hs.names_eq
  rw [List.map_map, List.map_map] at hlower
  exact (congrArg List.Nodup hlower).mpr hbase.tables

theorem Outlines.exists_table (hs : s.Outlines base) (hbase : DistinctlyNamed base)
    {d : TableDefinition} (hd : d ∈ base) :
    ∃ t ∈ s.tables, t.name = d.tableName ∧ t.columns.map (·.name) = d.columns.map (·.name) := by
  have hmem : d.build.1.skeleton ∈ s.skeleton := hs ▸ List.mem_map_of_mem hd
  obtain ⟨t, ht, he⟩ := List.mem_map.mp hmem
  rw [TableDefinition.build_fst_skeleton] at he
  have hname : t.name = d.tableName := by
    simpa only [Table.skeleton_name] using congrArg Table.name he
  refine ⟨t, ht, hname, ?_⟩
  have hcolumns := congrArg (fun t : Table => t.columns.map (·.name)) he
  simp only [Table.skeleton_columns, List.map_map] at hcolumns
  refine hcolumns.trans (List.map_congr_left fun x hx => ?_)
  exact (hbase.columnNames d hd x hx).1.clean_eq

theorem Outlines.resolves (hs : s.Outlines base) (hbase : DistinctlyNamed base)
    (hcolumns : ∀ t ∈ s.tables, t.ColumnsDistinct) (hf : f.Joins base)
    (hr : f.relationship? = some r) : s.Resolves r := by
  obtain ⟨-, rfl⟩ := (hf.relationship?_eq_some_iff hbase).mp hr
  obtain ⟨d, hd, htable, x, hx, hcolumn⟩ := hf.source
  obtain ⟨t, ht, htname, hnames⟩ := hs.exists_table hbase hd
  obtain ⟨e, he, htarget, hcases⟩ := hf.target
  obtain ⟨u, hu, huname, hunames⟩ := hs.exists_table hbase he
  have hfind {t : Table} {name : String} (ht : t ∈ s.tables) (hname : t.name = name) :
      s.findTable? name = some t := hname ▸ (hs.tablesDistinct hbase).findTable?_eq ht
  refine ⟨⟨?_, u, hfind hu (huname.trans htarget), huname.trans htarget⟩, fun u' hu' c hc => ?_⟩
  · have hmem : x.name ∈ t.columns.map (·.name) := hnames ▸ List.mem_map_of_mem hx
    obtain ⟨c, hc, hcname⟩ := List.mem_map.mp hmem
    refine ⟨t, hfind ht (htname.trans htable), htname.trans htable, c, ?_, hcname.trans hcolumn⟩
    exact (hcolumns t ht).findColumn?_eq hc (by rw [hcname, hcolumn]; rfl)
  · obtain rfl : u = u' := Option.some.inj ((hfind hu (huname.trans htarget)).symm.trans hu')
    have hmem : c ∈ u.columns := List.mem_of_find?_eq_some hc
    have hlower := Column.isNamed_iff.mp (List.find?_some hc)
    -- the column that is found is the one of the exact name, or there is none
    rcases hcases with ⟨y, hy, hexact⟩ | hunlike
    · have hname : y.name ∈ u.columns.map (·.name) := hunames ▸ List.mem_map_of_mem hy
      obtain ⟨c', hc', hcname⟩ := List.mem_map.mp hname
      rw [(hcolumns u hu).eq_of_lower_eq hmem hc' (by rw [hlower, hcname, hexact]; rfl)]
      exact hcname.trans hexact
    · have hname : c.name ∈ e.columns.map (·.name) := hunames ▸ List.mem_map_of_mem hmem
      obtain ⟨y, hy, hyname⟩ := List.mem_map.mp hname
      exact (hunlike y hy (by rw [hyname, hlower]; rfl)).elim

/-- An alteration adds the relationship of its foreign key, and nothing else. -/
theorem mem_relationships_alterTable (hs : s.Consistent) (hnames : s.Outlines base)
    (hbase : DistinctlyNamed base) (hf : f.Joins base) :
    r ∈ (s.alterTable f.alteration).relationships ↔
      r ∈ s.relationships ∨ f.relationship? = some r := by
  cases hq : f.relationship? with
  | none =>
      obtain ⟨d, hd, htable, -⟩ := hf.source
      obtain ⟨t, ht, htname, -⟩ := hnames.exists_table hbase hd
      have hclean : t.name = clean f.table := by rw [htname, ← htable, d.clean_tableName]
      have hfind := (hnames.tablesDistinct hbase).findTable?_eq ht
      rw [alterTable_of_relationship?_eq_none hs.wellFormed (hclean ▸ hfind) hclean hq]
      simp
  | some q =>
      have hresolves := hnames.resolves hbase hs.columns hf hq
      rw [alterTable_of_resolves hs.wellFormed hs.distinct hq hresolves, relationships_link,
        mem_appendUnique_iff, Option.some.injEq, eq_comm]
      intro a ha he
      exact eq_of_id_eq (hs.wellFormed.relationships a ha).canonical
        (wellFormed_of_ofNames? hq).canonical (hs.legible.relationships a ha)
        (hf.legible hbase hq) he

/-- Alterations add the relationships of their foreign keys, and nothing else. -/
theorem mem_relationships_foldl_alterTable (hs : s.Consistent) (hnames : s.Outlines base)
    (hbase : DistinctlyNamed base) (hkeys : ∀ f ∈ keys, f.Joins base) :
    r ∈ ((keys.map (·.alteration)).foldl alterTable s).relationships ↔
      r ∈ s.relationships ∨ ∃ f ∈ keys, f.relationship? = some r := by
  induction keys generalizing s with
  | nil => simp
  | cons f keys ih =>
      have hf := hkeys f List.mem_cons_self
      rw [List.map_cons, List.foldl_cons, ih (hs.alterTable f.alteration)
        ((skeleton_alterTable s _).trans hnames) fun g hg => hkeys g (List.mem_cons_of_mem f hg),
        mem_relationships_alterTable hs hnames hbase hf]
      simp [or_assoc]

end Schema

namespace Presents

/-- The declared tables before any alteration. -/
theorem foldl_declareTable_eq (h : Presents base keys form statements)
    (hbase : DistinctlyNamed base) :
    (definitions statements).foldl Schema.declareTable Schema.empty =
      ⟨base.map fun d => (d.write keys form).build.1,
        ((base.map (·.write keys form)).flatMap (·.writtenPairs)).foldl appendUnique []⟩ := by
  have hnames : ((base.map (·.write keys form)).map (·.tableName)).Nodup := by
    simpa only [List.map_map, Function.comp_def, TableDefinition.tableName_write] using
      hbase.tableNames_nodup
  rw [h.definitions_eq, Schema.foldl_declareTable_empty hnames, List.map_map]
  rfl

theorem outlines_foldl_declareTable (h : Presents base keys form statements)
    (hbase : DistinctlyNamed base) :
    ((definitions statements).foldl Schema.declareTable Schema.empty).Outlines base := by
  rw [h.foldl_declareTable_eq hbase, Schema.Outlines, Schema.skeleton, List.map_map]
  exact List.map_congr_left fun d _ => TableDefinition.build_write_skeleton

theorem consistent_foldl_declareTable (h : Presents base keys form statements)
    (hbase : DistinctlyNamed base) (hkeys : ∀ f ∈ keys, f.Joins base) :
    ((definitions statements).foldl Schema.declareTable Schema.empty).Consistent := by
  refine Schema.Consistent.empty.foldl_declareTable fun d' hd' => ?_
  rw [h.definitions_eq] at hd'
  obtain ⟨d, hd, rfl⟩ := List.mem_map.mp hd'
  refine ⟨TableDefinition.columnsDistinct_write.mpr (hbase.columns d hd),
    TableDefinition.legible_write (hbase.tableNames d hd) (fun x hx => ?_) fun f hf => ?_⟩
  · obtain ⟨hname, harrow⟩ := hbase.columnNames d hd x hx
    rwa [hname.clean_eq]
  · obtain ⟨hname, harrow⟩ := (hkeys f hf).isName_column hbase
    obtain ⟨u, hu, htarget, -⟩ := (hkeys f hf).target
    rw [hname.clean_eq, ← htarget, u.clean_tableName]
    exact ⟨harrow, hbase.tableNames u hu⟩

theorem mem_relationships_foldl_declareTable (h : Presents base keys form statements)
    (hbase : DistinctlyNamed base) (hkeys : ∀ f ∈ keys, f.Joins base)
    (hsources : (keys.map fun f => (f.table, f.column)).Nodup) :
    r ∈ ((definitions statements).foldl Schema.declareTable Schema.empty).relationships ↔
      ∃ f ∈ keys, form f ≠ .alteration ∧ f.relationship? = some r := by
  have hmem {q : Relationship} :
      q ∈ (base.map (·.write keys form)).flatMap (·.writtenPairs) ↔
        ∃ f ∈ keys, form f ≠ .alteration ∧ f.relationship? = some q :=
    mem_writtenPairs_of_keys hbase hkeys hsources
  rw [h.foldl_declareTable_eq hbase, mem_foldl_iff, hmem]
  · simp
  · intro a ha b hb
    -- nothing has been there before the declarations
    rw [List.nil_append] at ha hb
    obtain ⟨f, hf, -, hfa⟩ := hmem.mp ha
    obtain ⟨g, hg, -, hgb⟩ := hmem.mp hb
    exact eq_of_id_eq (wellFormed_of_ofNames? hfa).canonical
      (wellFormed_of_ofNames? hgb).canonical ((hkeys f hf).legible hbase hfa)
      ((hkeys g hg).legible hbase hgb)

theorem outlines_declared (h : Presents base keys form statements)
    (hbase : DistinctlyNamed base) : (Schema.declared statements).Outlines base :=
  (Schema.skeleton_foldl_alterTable _ _).trans (h.outlines_foldl_declareTable hbase)

theorem consistent_declared (h : Presents base keys form statements)
    (hbase : DistinctlyNamed base) (hkeys : ∀ f ∈ keys, f.Joins base) :
    (Schema.declared statements).Consistent :=
  (h.consistent_foldl_declareTable hbase hkeys).foldl_alterTable _

/-- Before inference, the relationships are those of the foreign keys in all their forms. -/
theorem mem_relationships_declared (h : Presents base keys form statements)
    (hbase : DistinctlyNamed base) (hkeys : ∀ f ∈ keys, f.Joins base)
    (hsources : (keys.map fun f => (f.table, f.column)).Nodup) :
    r ∈ (Schema.declared statements).relationships ↔ ∃ f ∈ keys, f.relationship? = some r := by
  rw [Schema.declared, h.alterations_eq, Schema.mem_relationships_foldl_alterTable
    (h.consistent_foldl_declareTable hbase hkeys) (h.outlines_foldl_declareTable hbase) hbase
    fun f hf => hkeys f (List.mem_filter.mp hf).1,
    h.mem_relationships_foldl_declareTable hbase hkeys hsources]
  constructor
  · rintro (⟨f, hf, -, hr⟩ | ⟨f, hf, hr⟩)
    · exact ⟨f, hf, hr⟩
    · exact ⟨f, (List.mem_filter.mp hf).1, hr⟩
  · rintro ⟨f, hf, hr⟩
    by_cases hform : form f = .alteration
    · exact Or.inr ⟨f, List.mem_filter.mpr ⟨hf, decide_eq_true hform⟩, hr⟩
    · exact Or.inl ⟨f, hf, hform, hr⟩

/-- Whatever forms the foreign keys have and in whatever order they are written, the tables with
their marks and references are the same, and so are the relationships up to their order. Inference
finds the same, too, since it takes place only if there are none. -/
theorem build_agrees (h : Presents base keys form statements)
    {keys' : List ForeignKey} {form' : ForeignKey → Form}
    {statements' : List Statement} (h' : Presents base keys' form' statements')
    (hperm : keys.Perm keys') (hbase : DistinctlyNamed base) (hkeys : ∀ f ∈ keys, f.Joins base)
    (hsources : (keys.map fun f => (f.table, f.column)).Nodup) :
    (Schema.build statements).tables = (Schema.build statements').tables ∧
      (Schema.build statements).relationships.Perm (Schema.build statements').relationships := by
  have hkeys' : ∀ f ∈ keys', f.Joins base := fun f hf => hkeys f (hperm.mem_iff.mpr hf)
  have hsources' := (hperm.map fun f => (f.table, f.column)).nodup_iff.mp hsources
  have hs := h.consistent_declared hbase hkeys
  have hs' := h'.consistent_declared hbase hkeys'
  have hmem (r : Relationship) : r ∈ (Schema.declared statements).relationships ↔
      r ∈ (Schema.declared statements').relationships := by
    rw [h.mem_relationships_declared hbase hkeys hsources,
      h'.mem_relationships_declared hbase hkeys' hsources']
    exact exists_congr fun f => and_congr_left fun _ => hperm.mem_iff
  have hrels : (Schema.declared statements).relationships.Perm
      (Schema.declared statements').relationships :=
    (List.perm_ext_iff_of_nodup hs.wellFormed.ids_nodup.of_map hs'.wellFormed.ids_nodup.of_map).mpr
      hmem
  have htables : (Schema.declared statements).tables = (Schema.declared statements').tables :=
    hs.coherent.tables_eq hs'.coherent
      ((h.outlines_declared hbase).trans (h'.outlines_declared hbase).symm) hmem
      (sourcesUnique_of_keys hbase hkeys hsources fun r hr =>
        (h.mem_relationships_declared hbase hkeys hsources).mp hr)
  rw [Schema.build_eq_infer_declared, Schema.build_eq_infer_declared]
  -- without relationships the schemas are the same before inference, with some it does nothing
  by_cases hnone : (Schema.declared statements).relationships = []
  · have hnone' : (Schema.declared statements').relationships = [] :=
      List.nil_perm.mp (hnone ▸ hrels)
    have hsame : Schema.declared statements = Schema.declared statements' :=
      Schema.ext htables (hnone.trans hnone'.symm)
    rw [hsame]
    exact ⟨rfl, List.Perm.refl _⟩
  · have hnone' : (Schema.declared statements').relationships ≠ [] := fun he =>
      hnone (List.perm_nil.mp (he ▸ hrels))
    rw [Schema.infer_of_ne_nil hnone, Schema.infer_of_ne_nil hnone']
    exact ⟨htables, hrels⟩

def shop : List TableDefinition :=
  [⟨some "users", [.named "ID"], ["ID"], []⟩,
    ⟨some "orders", [.named "id", .named "user_id"], [], []⟩,
    ⟨some "items", [.named "order_id", .named "user_id"], [], []⟩]

def shopKeys : List ForeignKey :=
  [⟨"orders", "user_id", "users", "ID"⟩, ⟨"items", "order_id", "orders", "number"⟩,
    ⟨"items", "user_id", "users", "ID"⟩]

def shopForm (f : ForeignKey) : Form :=
  if f.table = "orders" then .inline else if f.column = "order_id" then .clause else .alteration

theorem build_agrees_shop :
    let altered := shopKeys.reverse.map fun f => Statement.alterTable f.alteration
    let mixed := (shop.map fun d => Statement.createTable (d.write shopKeys shopForm)) ++
      [.other "insert", .alterTable ⟨some "items", [⟨["user_id"], "users", ["ID"]⟩]⟩]
    let plain := altered ++ shop.map Statement.createTable
    Presents shop shopKeys shopForm mixed ∧
      Presents shop shopKeys.reverse (fun _ => .alteration) plain ∧
      DistinctlyNamed shop ∧ (∀ f ∈ shopKeys, f.Joins shop) ∧
      (Schema.build mixed).tables = (Schema.build plain).tables ∧
      (Schema.build mixed).relationships.Perm (Schema.build plain).relationships := by
  intro altered mixed plain
  have hmixed : Presents shop shopKeys shopForm mixed := ⟨by decide +kernel, by decide +kernel⟩
  have hplain : Presents shop shopKeys.reverse (fun _ => .alteration) plain :=
    ⟨by decide +kernel, by decide +kernel⟩
  have hshop : DistinctlyNamed shop := by decide +kernel
  have hkeys : ∀ f ∈ shopKeys, f.Joins shop := by decide +kernel
  exact ⟨hmixed, hplain, hshop, hkeys,
    hmixed.build_agrees hplain (List.reverse_perm _).symm hshop hkeys (by decide +kernel)⟩

def capitalShop : List TableDefinition :=
  [⟨some "users", [.named "ID"], [], []⟩, ⟨some "orders", [.named "user_id"], [], []⟩]

/-- The referenced column is not among those of the table until its quotes are taken off. -/
def quotedKey : ForeignKey := ⟨"orders", "user_id", "users", "`id`"⟩

/-- Only an alteration looks for the column in the table, and finds it in capitals. -/
theorem build_quotedKey_ne :
    let written (form : Form) := capitalShop.map fun d =>
      Statement.createTable (d.write [quotedKey] fun _ => form)
    let altered := written .alteration ++ [.alterTable quotedKey.alteration]
    Presents capitalShop [quotedKey] (fun _ => .inline) (written .inline) ∧
      Presents capitalShop [quotedKey] (fun _ => .clause) (written .clause) ∧
      Presents capitalShop [quotedKey] (fun _ => .alteration) altered ∧
      DistinctlyNamed capitalShop ∧
      (∃ d ∈ capitalShop, d.tableName = quotedKey.table ∧
        ∃ x ∈ d.columns, x.name = quotedKey.column) ∧
      (∃ d ∈ capitalShop, d.tableName = quotedKey.referencedTable ∧
        ∀ x ∈ d.columns, Text.lower x.name ≠ Text.lower quotedKey.referencedColumn) ∧
      (Schema.build (written .inline)).relationships =
        [between "orders" "user_id" "users" "id"] ∧
      (Schema.build (written .clause)).relationships =
        [between "orders" "user_id" "users" "id"] ∧
      (Schema.build altered).relationships = [between "orders" "user_id" "users" "ID"] ∧
      ¬ (Schema.build (written .inline)).relationships.Perm
        (Schema.build altered).relationships := by
  refine ⟨⟨?_, ?_⟩, ⟨?_, ?_⟩, ⟨?_, ?_⟩, ?_⟩
  all_goals decide +kernel

end Presents

end EntityMap
