import EntityMap.Proofs.Declaration.Latest
import EntityMap.Proofs.Inference.Order

/-!
The order of statements. If no two declared tables have the same name, case aside, then what a
script builds depends on its declarations and on the order of its alterations among themselves, but
not on the order of the declarations nor on where the alterations stand between them. The stages
keep two schemas in agreement part by part, and agreement means equality up to order.
-/

namespace EntityMap.Schema

open Identifier Relationship Statement

variable {s s' : Schema}

/-- No two tables have the same name, case aside, and each relationship tells the table that it
starts from. -/
structure Separate (s : Schema) : Prop where
  wellFormed : s.WellFormed
  tables : s.TablesDistinct
  dotless : ∀ name ∈ s.tables.map (·.name), Dotless name

theorem Separate.of_skeleton_eq (hs : s.Separate) (h : s.skeleton = s'.skeleton)
    (hwf : s'.WellFormed) : s'.Separate :=
  ⟨hwf, hs.tables.of_skeleton_eq h, names_eq_of_skeleton_eq h ▸ hs.dotless⟩

theorem Separate.foldl_alterTable (hs : s.Separate) (as : List TableAlteration) :
    (as.foldl Schema.alterTable s).Separate :=
  hs.of_skeleton_eq (skeleton_foldl_alterTable s as).symm (hs.wellFormed.foldl_alterTable as)

theorem Separate.tellsSource (hs : s.Separate) : ∀ q ∈ s.relationships, q.TellsSource :=
  fun q hq => ⟨(hs.wellFormed.relationships q hq).canonical,
    hs.dotless _ (hs.wellFormed.sources q hq)⟩

theorem Separate.tellsSource_of_mem_placed (hs : s.Separate) {ls : List Link}
    (hls : ∀ l ∈ ls, l.Sound s.tables) : ∀ p ∈ ls.map Link.placed, p.2.TellsSource := by
  intro p hp
  obtain ⟨l, hl, rfl⟩ := List.mem_map.mp hp
  exact ⟨(hls l hl).wellFormed.canonical, hs.dotless _ (hls l hl).source⟩

theorem Agrees.findTable?_eq (h : s.Agrees s') (hs : s.Separate) (name : String) :
    s.findTable? name = s'.findTable? name :=
  find?_key_eq_of_perm h.tables_perm hs.tables (Text.lower name)

/-! ### Declarations -/

theorem tables_foldl_declareTable_of_nodup {ds : List TableDefinition}
    (hnames : (ds.map (·.tableName)).Nodup) :
    (ds.foldl declareTable empty).tables = ds.map (·.build.1) := by
  rw [foldl_declareTable_empty hnames]

theorem names_foldl_declareTable_of_nodup {ds : List TableDefinition}
    (hnames : (ds.map (·.tableName)).Nodup) :
    (ds.foldl declareTable empty).tables.map (·.name) = ds.map (·.tableName) := by
  rw [tables_foldl_declareTable_of_nodup hnames, List.map_map]
  exact List.map_congr_left fun d _ => d.build_fst_name

theorem part_foldl_declareTable {ds : List TableDefinition} (hnames : (ds.map (·.tableName)).Nodup)
    (hdots : ∀ d ∈ ds, Dotless d.tableName) (name : String) :
    (ds.foldl declareTable empty).part name =
      ⟨(ds.filter (·.tableName == name)).map (·.build.1),
        (ds.filter (·.tableName == name)).flatMap (·.build.2)⟩ := by
  have hrels : (ds.foldl declareTable empty).relationships = ds.flatMap (·.build.2) := by
    rw [relationships_foldl_declareTable hdots, TableDefinition.latest_eq_self hnames]
  have htables : (ds.map (·.build.1)).filter (·.name == name) =
      (ds.filter (·.tableName == name)).map (·.build.1) := by
    simp only [List.filter_map, Function.comp_def, TableDefinition.build_fst_name]
  have hfrom : (ds.flatMap (·.build.2)).filter (·.sourceTable == name) =
      (ds.filter (·.tableName == name)).flatMap (·.build.2) :=
    filter_flatMap_of_key (fun d _ r hr => (TableDefinition.of_mem_build_snd hr).2) (· == name)
  rw [part, relationshipsFrom, tables_foldl_declareTable_of_nodup hnames, hrels, htables, hfrom]

theorem agrees_foldl_declareTable {ds ds' : List TableDefinition} (h : ds.Perm ds')
    (hnames : (ds.map (·.tableName)).Nodup) (hdots : ∀ d ∈ ds, Dotless d.tableName) :
    (ds.foldl declareTable empty).Agrees (ds'.foldl declareTable empty) := by
  intro name
  rw [part_foldl_declareTable hnames hdots, part_foldl_declareTable
    ((h.map _).nodup_iff.mp hnames) fun d hd => hdots d (h.mem_iff.mpr hd),
    filter_key_eq_of_perm h hnames]

theorem separate_foldl_declareTable {ds : List TableDefinition}
    (hnames : (ds.map fun d => Text.lower d.tableName).Nodup)
    (hdots : ∀ d ∈ ds, Dotless d.tableName) : (ds.foldl declareTable empty).Separate := by
  have hnodup : (ds.map (·.tableName)).Nodup := nodup_map_of_comp hnames
  refine ⟨WellFormed.empty.foldl_declareTable ds,
    tablesDistinct_of_tables_eq (tables_foldl_declareTable_of_nodup hnodup) hnames, ?_⟩
  rw [names_foldl_declareTable_of_nodup hnodup]
  exact List.forall_mem_map.mpr hdots

/-! ### Alterations -/

/-- The altered table is found in both schemas or in none. -/
theorem alteredTable?_eq_none_or (hfind : ∀ name, s.findTable? name = s'.findTable? name)
    (a : TableAlteration) :
    (s.alteredTable? a = none ∧ s'.alteredTable? a = none) ∨
      ∃ i i' t, s.alteredTable? a = some i ∧ s.tables[i]? = some t ∧
        s'.alteredTable? a = some i' ∧ s'.tables[i']? = some t := by
  rw [alteredTable?, alteredTable?]
  cases a.name with
  | none => exact Or.inl ⟨rfl, rfl⟩
  | some name =>
      by_cases hname : name = ""
      · exact Or.inl ⟨if_pos hname, if_pos hname⟩
      · simp only [if_neg hname]
        cases h : s.findTable? (clean name) with
        | none => exact Or.inl ⟨tableIndex?_eq_none h, tableIndex?_eq_none (hfind _ ▸ h)⟩
        | some t =>
            obtain ⟨i, hi, ht⟩ := exists_tableIndex? h
            obtain ⟨i', hi', ht'⟩ := exists_tableIndex? (s := s') (hfind _ ▸ h)
            exact Or.inr ⟨i, i', t, hi, ht, hi', ht'⟩

theorem map_placed_resolve? (hfind : ∀ name, s.findTable? name = s'.findTable? name) {i i' : Nat}
    {t : Table} (ht : s.tables[i]? = some t) (ht' : s'.tables[i']? = some t) (pair : Relationship) :
    (s.resolve? i pair).map Link.placed = (s'.resolve? i' pair).map Link.placed := by
  simp only [resolve?, ht, ht', hfind, Option.bind_eq_bind, Option.bind_some, Option.map_bind,
    Function.comp_def, Option.pure_def, Option.map_some, Link.placed]

theorem map_placed_alterationLinks (hfind : ∀ name, s.findTable? name = s'.findTable? name)
    (a : TableAlteration) :
    (s.alterationLinks a).map Link.placed = (s'.alterationLinks a).map Link.placed := by
  rw [alterationLinks, alterationLinks]
  rcases alteredTable?_eq_none_or hfind a with ⟨hi, hi'⟩ | ⟨i, i', t, hi, ht, hi', ht'⟩
  · rw [hi, hi']
  · simp only [hi, hi', alterationPairs, ht, ht', List.map_filterMap,
      map_placed_resolve? hfind ht ht']

theorem Agrees.alterTable (h : s.Agrees s') (hs : s.Separate) (hs' : s'.Separate)
    (a : TableAlteration) : (s.alterTable a).Agrees (s'.alterTable a) := by
  have hsound (l : Link) (hl : l ∈ s.alterationLinks a) : l.Sound s.tables :=
    sound_of_mem_alterationLinks hs.wellFormed hl
  have hsound' (l : Link) (hl : l ∈ s'.alterationLinks a) : l.Sound s'.tables :=
    sound_of_mem_alterationLinks hs'.wellFormed hl
  rw [alterTable_eq_foldl_addLink, alterTable_eq_foldl_addLink,
    foldl_addLink_eq_linkAt hs.wellFormed.names_nodup fun l hl => (hsound l hl).fits,
    foldl_addLink_eq_linkAt hs'.wellFormed.names_nodup fun l hl => (hsound' l hl).fits,
    ← map_placed_alterationLinks (h.findTable?_eq hs)]
  exact h.foldl_linkAt hs.tellsSource (hs.tellsSource_of_mem_placed hsound) fun _ => rfl

theorem Agrees.foldl_alterTable (h : s.Agrees s') (hs : s.Separate) (hs' : s'.Separate)
    (as : List TableAlteration) :
    (as.foldl Schema.alterTable s).Agrees (as.foldl Schema.alterTable s') := by
  induction as generalizing s s' with
  | nil => exact h
  | cons a as ih =>
      exact ih (h.alterTable hs hs' a) (hs.foldl_alterTable [a]) (hs'.foldl_alterTable [a])

/-! ### Inference -/

/-- What is inferred for the tables of one name. -/
theorem Separate.inferred_from (hs : s.Separate) (name : String) :
    ((inferredLinks s.tables).map Link.placed).filter (·.2.sourceTable == name) =
      (s.tables.filter (·.name == name)).flatMap fun t =>
        inferredFrom (s.tables.filter (·.name != t.name)) t := by
  rw [map_placed_inferredLinks hs.wellFormed.names_nodup]
  refine filter_flatMap_of_key (fun t ht p hp => ?_) (· == name)
  rw [(of_mem_inferredFrom hp).2, (hs.wellFormed.tables t ht).name.clean_eq]

theorem Agrees.infer (h : s.Agrees s') (hs : s.Separate) (hs' : s'.Separate) :
    s.infer.Agrees s'.infer := by
  rw [infer_eq_foldl_addLink, infer_eq_foldl_addLink, h.relationships_perm.isEmpty_eq,
    h.tables_perm.length_eq]
  split
  · have hsound (l : Link) (hl : l ∈ inferredLinks s.tables) : l.Sound s.tables :=
      sound_of_mem_inferredLinks hs.wellFormed hl
    have hsound' (l : Link) (hl : l ∈ inferredLinks s'.tables) : l.Sound s'.tables :=
      sound_of_mem_inferredLinks hs'.wellFormed hl
    rw [foldl_addLink_eq_linkAt hs.wellFormed.names_nodup fun l hl => (hsound l hl).fits,
      foldl_addLink_eq_linkAt hs'.wellFormed.names_nodup fun l hl => (hsound' l hl).fits]
    refine h.foldl_linkAt hs.tellsSource (hs.tellsSource_of_mem_placed hsound) fun name => ?_
    rw [hs.inferred_from, hs'.inferred_from]
    -- the tables of the name are the same; the others are the same up to order
    have hpart : s.tables.filter (·.name == name) = s'.tables.filter (·.name == name) :=
      congrArg Schema.tables (h name)
    rw [hpart]
    refine List.flatMap_congr fun t _ => inferredFrom_eq_of_perm (h.tables_perm.filter _) ?_ t
    exact hs.tables.sublist (List.filter_sublist.map _)
  · exact h

/-! ### Scripts -/

/-- Scripts with the same declarations in any order, and the same alterations in the same order,
build the same tables, in the order of their declarations, and the same relationships. -/
theorem build_perm {statements statements' : List Statement}
    (hdefinitions : (definitions statements).Perm (definitions statements'))
    (halterations : alterations statements = alterations statements')
    (hnames : ((definitions statements).map fun d => Text.lower d.tableName).Nodup)
    (hdots : ∀ d ∈ definitions statements, Dotless d.tableName) :
    (build statements).tables.map (·.name) = (definitions statements).map (·.tableName) ∧
      (build statements').tables.map (·.name) = (definitions statements').map (·.tableName) ∧
      (build statements).tables.Perm (build statements').tables ∧
      (build statements).relationships.Perm (build statements').relationships := by
  have hnames' : ((definitions statements').map fun d => Text.lower d.tableName).Nodup :=
    (hdefinitions.map _).nodup_iff.mp hnames
  have hdots' : ∀ d ∈ definitions statements', Dotless d.tableName := fun d hd =>
    hdots d (hdefinitions.mem_iff.mpr hd)
  have hs := separate_foldl_declareTable hnames hdots
  have hs' := separate_foldl_declareTable hnames' hdots'
  have hagrees : (build statements).Agrees (build statements') := by
    rw [build_eq_infer_declared, build_eq_infer_declared, declared, declared, ← halterations]
    refine Agrees.infer ?_ (hs.foldl_alterTable _) (hs'.foldl_alterTable _)
    refine Agrees.foldl_alterTable ?_ hs hs' _
    exact agrees_foldl_declareTable hdefinitions (nodup_map_of_comp hnames) hdots
  refine ⟨?_, ?_, hagrees.tables_perm, hagrees.relationships_perm⟩
  · rw [names_build, names_foldl_declareTable_of_nodup (nodup_map_of_comp hnames)]
  · rw [names_build, names_foldl_declareTable_of_nodup (nodup_map_of_comp hnames')]

def orderCategories : List TableDefinition :=
  [⟨some "Users", [.named "id"], [], []⟩, ⟨some "categories", [.named "CODE"], ["code"], []⟩,
    ⟨some "orders", [.named "User_ID", .named "category_id"], [], []⟩,
    ⟨none, [.named "order_id"], [], []⟩]

theorem build_perm_orderCategories :
    let alteration := Statement.alterTable ⟨some "archive", [⟨["id"], "users", ["id"]⟩]⟩
    let statements := alteration :: orderCategories.map Statement.createTable
    let statements' := orderCategories.reverse.map Statement.createTable ++
      [.other "insert", alteration]
    (definitions statements).Perm (definitions statements') ∧
      alterations statements = alterations statements' ∧
      ((definitions statements).map fun d => Text.lower d.tableName).Nodup ∧
      (∀ d ∈ definitions statements, Dotless d.tableName) ∧
      (build statements).tables.map (·.name) = (definitions statements).map (·.tableName) ∧
      (build statements').tables.map (·.name) = (definitions statements').map (·.tableName) ∧
      (build statements).tables.Perm (build statements').tables ∧
      (build statements).relationships.Perm (build statements').relationships := by
  intro alteration statements statements'
  have hdefinitions : (definitions statements).Perm (definitions statements') := by
    decide +kernel
  have halterations : alterations statements = alterations statements' := by decide +kernel
  have hnames : ((definitions statements).map fun d => Text.lower d.tableName).Nodup := by
    decide +kernel
  have hdots : ∀ d ∈ definitions statements, Dotless d.tableName := by decide +kernel
  exact ⟨hdefinitions, halterations, hnames, hdots,
    build_perm hdefinitions halterations hnames hdots⟩

end EntityMap.Schema
