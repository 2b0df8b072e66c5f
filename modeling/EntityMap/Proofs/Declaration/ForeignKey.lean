import EntityMap.Proofs.Declaration.Alteration

/-!
Foreign keys of one column, as an alteration adds them. Names in an alteration are looked up case
aside, and the relationship gets the names that are found. Where source and target table are found
just as they are written, only the name of the target column can change; `Schema.respell` is the
relationship with the name that is found. If that changes nothing either, `Schema.Resolves` holds,
and the alteration links the relationship that it writes.
-/

namespace EntityMap

open Identifier Relationship

/-- A foreign key of one column, as it is written. -/
structure ForeignKey where
  table : String
  column : String
  referencedTable : String
  referencedColumn : String
  deriving DecidableEq

namespace ForeignKey

def clause (f : ForeignKey) : ForeignKeyClause :=
  ⟨[f.column], f.referencedTable, [f.referencedColumn]⟩

def alteration (f : ForeignKey) : TableAlteration := ⟨some f.table, [f.clause]⟩

/-- The relationship that the foreign key says, in clean names. -/
def relationship? (f : ForeignKey) : Option Relationship :=
  ofNames? f.table f.column f.referencedTable f.referencedColumn

/-- It does not matter how the names of the source are spelled. -/
theorem relationships_clause {f : ForeignKey} {table column : String}
    (ht : clean table = clean f.table) (hc : clean column = clean f.column) :
    { f.clause with columns := [column] }.relationships table = f.relationship?.toList := by
  have hnames : ofNames? table column f.referencedTable f.referencedColumn = f.relationship? := by
    simp only [relationship?, ofNames?, ht, hc]
  cases hr : f.relationship? <;> simp [ForeignKeyClause.relationships, clause, hnames.trans hr]

end ForeignKey

def Relationship.foreignKey (r : Relationship) : ForeignKey :=
  ⟨r.sourceTable, r.sourceColumn, r.targetTable, r.targetColumn⟩

theorem Relationship.WellFormed.relationship?_foreignKey {r : Relationship} (hr : r.WellFormed) :
    r.foreignKey.relationship? = some r := hr.ofNames?_eq

namespace Schema

def additions (s : Schema) : List Statement :=
  (s.relationships.map (·.foreignKey.alteration)).map Statement.alterTable

/-- The source of the relationship and its target table are found in the schema under just these
names. -/
@[mk_iff] structure Locates (s : Schema) (r : Relationship) : Prop where
  source : ∃ t ∈ s.findTable? r.sourceTable, t.name = r.sourceTable ∧
    ∃ c ∈ t.findColumn? r.sourceColumn, c.name = r.sourceColumn
  target : ∃ t ∈ s.findTable? r.targetTable, t.name = r.targetTable

instance (s : Schema) (r : Relationship) : Decidable (s.Locates r) :=
  decidable_of_iff _ (locates_iff s r).symm

/-- All names of the relationship are found in the schema just as they are. The target table may
lack the target column. -/
@[mk_iff] structure Resolves (s : Schema) (r : Relationship) : Prop extends s.Locates r where
  targetColumn : ∀ t ∈ s.findTable? r.targetTable, ∀ c ∈ t.findColumn? r.targetColumn,
    c.name = r.targetColumn

instance (s : Schema) (r : Relationship) : Decidable (s.Resolves r) :=
  decidable_of_iff _ (resolves_iff s r).symm

def targetSpelling (s : Schema) (r : Relationship) : String :=
  ((s.findTable? r.targetTable).map (targetName · r.targetColumn)).getD r.targetColumn

def respell (s : Schema) (r : Relationship) : Relationship :=
  between r.sourceTable r.sourceColumn r.targetTable (s.targetSpelling r)

variable {s s' : Schema} {r : Relationship} {f : ForeignKey}

theorem respell_eq_self_iff (hr : r.Canonical) :
    s.respell r = r ↔ s.targetSpelling r = r.targetColumn := by
  constructor
  · exact congrArg Relationship.targetColumn
  · intro h
    rw [respell, h]
    exact hr.symm

/-- A located relationship resolves if its target column is not respelled. -/
theorem Locates.resolves_iff (h : s.Locates r) :
    s.Resolves r ↔ s.targetSpelling r = r.targetColumn := by
  obtain ⟨t, ht, -⟩ := h.target
  have htarget : s.findTable? r.targetTable = some t := ht
  have hspelling : s.targetSpelling r = targetName t r.targetColumn := by
    rw [targetSpelling, htarget]
    rfl
  rw [hspelling, targetName]
  cases hc : t.findColumn? r.targetColumn with
  | none =>
      refine ⟨fun _ => rfl, fun _ => ⟨h, fun t' ht' c' hc' => ?_⟩⟩
      rw [← Option.some.inj (htarget.symm.trans ht'), hc] at hc'
      contradiction
  | some c =>
      refine ⟨fun hr => hr.targetColumn t ht c hc, fun hname => ⟨h, fun t' ht' c' hc' => ?_⟩⟩
      rw [← Option.some.inj (htarget.symm.trans ht'), hc] at hc'
      rw [← Option.some.inj hc']
      exact hname

/-! ### Names in the skeleton -/

theorem exists_findTable?_of_skeleton_eq (h : s.skeleton = s'.skeleton) {name : String} {t : Table}
    (ht : s.findTable? name = some t) :
    ∃ t', s'.findTable? name = some t' ∧ t'.skeleton = t.skeleton := by
  have hskel := find?_skeleton s name
  rw [h, find?_skeleton, ht] at hskel
  exact Option.map_eq_some_iff.mp hskel

theorem exists_findColumn?_of_skeleton_eq {t t' : Table} (h : t'.skeleton = t.skeleton)
    {name : String} {c : Column} (hc : t.findColumn? name = some c) :
    ∃ c', t'.findColumn? name = some c' ∧ c'.name = c.name := by
  have hskel := Table.findColumn?_skeleton t' name
  rw [h, Table.findColumn?_skeleton, hc] at hskel
  obtain ⟨c', hc', he⟩ := Option.map_eq_some_iff.mp hskel.symm
  exact ⟨c', hc', by simpa using congrArg Column.name he⟩

theorem Locates.of_skeleton_eq (hr : s.Locates r) (h : s.skeleton = s'.skeleton) :
    s'.Locates r := by
  obtain ⟨t, ht, htname, c, hc, hcname⟩ := hr.source
  obtain ⟨u, hu, huname⟩ := hr.target
  obtain ⟨t', ht', het⟩ := exists_findTable?_of_skeleton_eq h ht
  obtain ⟨u', hu', heu⟩ := exists_findTable?_of_skeleton_eq h hu
  obtain ⟨c', hc', hec⟩ := exists_findColumn?_of_skeleton_eq het hc
  exact ⟨⟨t', ht', (congrArg Table.name het).trans htname, c', hc', hec.trans hcname⟩, u', hu',
    (congrArg Table.name heu).trans huname⟩

theorem targetSpelling_of_skeleton_eq (h : s.skeleton = s'.skeleton) (r : Relationship) :
    s.targetSpelling r = s'.targetSpelling r := by
  have hspelling (s : Schema) : s.targetSpelling r =
      ((s.skeleton.find? (·.isNamed r.targetTable)).map (targetName · r.targetColumn)).getD
        r.targetColumn := by
    simp only [targetSpelling, find?_skeleton, Option.map_map, Function.comp_def,
      targetName_skeleton]
  rw [hspelling s, hspelling s', h]

theorem respell_of_skeleton_eq (h : s.skeleton = s'.skeleton) (r : Relationship) :
    s.respell r = s'.respell r := by
  rw [respell, respell, targetSpelling_of_skeleton_eq h]

theorem Resolves.of_skeleton_eq (hr : s.Resolves r) (h : s.skeleton = s'.skeleton) :
    s'.Resolves r := by
  have hlocates := hr.toLocates
  rw [(hlocates.of_skeleton_eq h).resolves_iff, ← targetSpelling_of_skeleton_eq h]
  exact hlocates.resolves_iff.mp hr

/-! ### What an alteration links -/

/-- The one pair of the alteration is looked up from the altered table. -/
theorem alterationLinks_alteration {t : Table} (hs : s.WellFormed)
    (hfind : s.findTable? (clean f.table) = some t) (hname : t.name = clean f.table) :
    ∃ i, s.tables[i]? = some t ∧
      s.alterationLinks f.alteration = (f.relationship?.bind (s.resolve? i)).toList := by
  have htable := (hs.tables t (mem_of_findTable? hfind).1).name
  have hwritten : f.table ≠ "" := fun he => htable.ne_empty (by rw [hname, he, clean_empty])
  obtain ⟨i, haltered, ht⟩ := exists_alteredTable? (a := f.alteration) rfl hwritten hfind
  have hpairs : f.clause.relationships t.name = f.relationship?.toList :=
    ForeignKey.relationships_clause (htable.clean_eq.trans hname) rfl
  have hkeys : f.alteration.foreignKeys = [f.clause] := rfl
  refine ⟨i, ht, ?_⟩
  rw [alterationLinks, haltered]
  simp only [alterationPairs, ht, hkeys, Option.map_some, Option.getD_some, List.flatMap_cons,
    List.flatMap_nil, List.append_nil, hpairs]
  cases f.relationship? with
  | none => rfl
  | some q => cases h : s.resolve? i q <;> simp [h]

theorem resolve?_of_locates (hr : r.WellFormed) (h : s.Locates r)
    (hspelling : IsName (s.targetSpelling r)) {i : Nat} {t : Table} (hi : s.tables[i]? = some t)
    (ht : s.findTable? r.sourceTable = some t) :
    ∃ j, s.resolve? i r = some ⟨i, j, s.respell r, (s.respell r).target⟩ := by
  obtain ⟨t', ht', htname, c, hc, hcname⟩ := h.source
  obtain rfl : t' = t := Option.some.inj (ht'.symm.trans ht)
  obtain ⟨u, hu, huname⟩ := h.target
  obtain ⟨j, hj, hcj⟩ := exists_columnIndex? hc
  have hcolumn : targetName u r.targetColumn = s.targetSpelling r := by
    rw [targetSpelling, Option.mem_def.mp hu]
    rfl
  refine ⟨j, resolve?_eq_some_iff.mpr ⟨t', j, c, u, s.respell r, hi, hj, hcj, hu, ?_, rfl⟩⟩
  rw [htname, hcname, huname, hcolumn]
  exact ofNames?_of_isName hr.sourceTable hr.sourceColumn hr.targetTable hspelling

/-- An alteration whose tables and source column are found links its relationship, with the target
column named as in the schema. -/
theorem alterTable_of_locates (hs : s.WellFormed) (hd : s.Distinct)
    (hr : f.relationship? = some r) (h : s.Locates r) (hspelling : IsName (s.targetSpelling r)) :
    s.alterTable f.alteration = s.link false (s.respell r) := by
  have hwf := wellFormed_of_ofNames? hr
  obtain ⟨-, hnames⟩ := ofNames?_eq_some_iff.mp hr
  have hsource : clean f.table = r.sourceTable := by rw [← hnames, between]
  obtain ⟨t, ht, htname, -⟩ := h.source
  obtain ⟨i, hi, hlinks⟩ := alterationLinks_alteration (f := f) hs (hsource ▸ ht)
    (htname.trans hsource.symm)
  obtain ⟨j, hl⟩ := resolve?_of_locates hwf h hspelling hi ht
  rw [hr, Option.bind_some, hl] at hlinks
  rw [alterTable_eq_foldl_addLink, hlinks]
  exact addLink_eq_link hd (sound_of_resolve? hs hl).fits

/-- An alteration whose names are those of the schema links the relationship that it writes. -/
theorem alterTable_of_resolves (hs : s.WellFormed) (hd : s.Distinct)
    (hr : f.relationship? = some r) (h : s.Resolves r) :
    s.alterTable f.alteration = s.link false r := by
  have hwf := wellFormed_of_ofNames? hr
  have hspelling := h.toLocates.resolves_iff.mp h
  rw [alterTable_of_locates hs hd hr h.toLocates (hspelling ▸ hwf.targetColumn),
    (respell_eq_self_iff hwf.canonical).mpr hspelling]

/-- An alteration that writes an empty name adds nothing. -/
theorem alterTable_of_relationship?_eq_none {t : Table} (hs : s.WellFormed)
    (hfind : s.findTable? (clean f.table) = some t) (hname : t.name = clean f.table)
    (hr : f.relationship? = none) : s.alterTable f.alteration = s := by
  obtain ⟨i, -, hlinks⟩ := alterationLinks_alteration hs hfind hname
  rw [alterTable_eq_foldl_addLink, hlinks, hr]
  rfl

/-- Alterations for some relationships link them in their order. -/
theorem foldl_alterTable_of_locates {rs : List Relationship} (hs : s.WellFormed)
    (hd : s.Distinct)
    (hrs : ∀ r ∈ rs, r.WellFormed ∧ s.Locates r ∧ IsName (s.targetSpelling r)) :
    (rs.map (·.foreignKey.alteration)).foldl alterTable s =
      (rs.map s.respell).foldl (link false) s := by
  induction rs generalizing s with
  | nil => rfl
  | cons r rs ih =>
      obtain ⟨hr, hlocates, hspelling⟩ := hrs r List.mem_cons_self
      have hskel := (skeleton_alterTable s r.foreignKey.alteration).symm
      have hrespell : (s.alterTable r.foreignKey.alteration).respell = s.respell :=
        funext (respell_of_skeleton_eq hskel.symm)
      rw [List.map_cons, List.foldl_cons, ih (hs.alterTable _) (hd.of_skeleton_eq hskel), hrespell,
        alterTable_of_locates hs hd hr.relationship?_foreignKey hlocates hspelling,
        List.map_cons, List.foldl_cons]
      intro q hq
      obtain ⟨hq, hlocates, hspelling⟩ := hrs q (List.mem_cons_of_mem r hq)
      exact ⟨hq, hlocates.of_skeleton_eq hskel, targetSpelling_of_skeleton_eq hskel q ▸ hspelling⟩

/-- Alterations whose names are those of the schema link the relationships that they write. -/
theorem foldl_alterTable_of_resolves {rs : List Relationship} (hs : s.WellFormed)
    (hd : s.Distinct) (hrs : ∀ r ∈ rs, r.WellFormed ∧ s.Resolves r) :
    (rs.map (·.foreignKey.alteration)).foldl alterTable s = rs.foldl (link false) s := by
  have hspelling (r : Relationship) (hr : r ∈ rs) : s.targetSpelling r = r.targetColumn :=
    (hrs r hr).2.toLocates.resolves_iff.mp (hrs r hr).2
  have hrespell : rs.map s.respell = rs := by
    refine (List.map_congr_left fun r hr => ?_).trans rs.map_id
    exact (respell_eq_self_iff (hrs r hr).1.canonical).mpr (hspelling r hr)
  rw [foldl_alterTable_of_locates hs hd, hrespell]
  intro r hr
  exact ⟨(hrs r hr).1, (hrs r hr).2.toLocates, hspelling r hr ▸ (hrs r hr).1.targetColumn⟩

end Schema

end EntityMap
