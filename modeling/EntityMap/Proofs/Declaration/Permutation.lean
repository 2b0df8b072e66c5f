import EntityMap.Proofs.Declaration.Replay
import EntityMap.Proofs.Schema.Legible

/-!
Alterations in another order. Each foreign key is looked up in the schema as it is before all
alterations, so their order decides only which of several links with one id is the first. Where ids
can be read, such links are the same one, and the order decides no more than which reference a
column keeps: `Schema.alter_perm`.
-/

namespace EntityMap.Schema

open Identifier Relationship Statement

variable {s : Schema} {ls ls' : List Link}

/-! ### The first link of each id -/

namespace Link

/-- Links of the list with the same id are the same. -/
def ToldById (ls : List Link) : Prop :=
  ∀ l ∈ ls, ∀ l' ∈ ls, l.relationship.id = l'.relationship.id → l = l'

theorem nodup_firsts (ls : List Link) : (firsts ls).Nodup := by
  induction ls with
  | nil => exact List.nodup_nil
  | cons l ls ih =>
      refine List.nodup_cons.mpr ⟨fun hl => ?_, ih.filter _⟩
      simpa using (List.mem_filter.mp hl).2

theorem exists_mem_firsts {l : Link} (hl : l ∈ ls) :
    ∃ l' ∈ firsts ls, l'.relationship.id = l.relationship.id := by
  induction ls with
  | nil => exact absurd hl List.not_mem_nil
  | cons x ls ih =>
      by_cases hid : l.relationship.id = x.relationship.id
      · exact ⟨x, List.mem_cons_self, hid.symm⟩
      · have hmem : l ∈ ls := (List.mem_cons.mp hl).resolve_left fun he => hid (he ▸ rfl)
        obtain ⟨l', hl', he⟩ := ih hmem
        refine ⟨l', List.mem_cons_of_mem x (List.mem_filter.mpr ⟨hl', ?_⟩), he⟩
        simpa [he] using hid

theorem ToldById.mem_firsts_iff (h : ToldById ls) {l : Link} : l ∈ firsts ls ↔ l ∈ ls := by
  refine ⟨mem_of_mem_firsts, fun hl => ?_⟩
  obtain ⟨l', hl', he⟩ := exists_mem_firsts hl
  exact h l' (mem_of_mem_firsts hl') l hl he ▸ hl'

theorem ToldById.firsts_perm (h : ToldById ls) (hperm : ls.Perm ls') :
    (firsts ls).Perm (firsts ls') := by
  have h' : ToldById ls' := fun l hl l' hl' =>
    h l (hperm.mem_iff.mpr hl) l' (hperm.mem_iff.mpr hl')
  refine (List.perm_ext_iff_of_nodup (nodup_firsts ls) (nodup_firsts ls')).mpr fun l => ?_
  rw [h.mem_firsts_iff, h'.mem_firsts_iff, hperm.mem_iff]

end Link

theorem newLinks_perm (h : Link.ToldById ls) (hperm : ls.Perm ls') (s : Schema) :
    (s.newLinks ls).Perm (s.newLinks ls') := (h.firsts_perm hperm).filter _

/-! ### What a relationship tells about its link -/

/-- The names of the relationship can be read from its id, its source is found at the positions of
the link, and its target is what the link refers to. -/
structure Link.Told (s : Schema) (l : Link) : Prop where
  canonical : l.relationship.Canonical
  legible : l.relationship.Legible
  position : s.columnPosition? l.relationship.sourceTable l.relationship.sourceColumn =
    some l.position
  reference : l.reference = l.relationship.target

theorem Link.Told.eq_of_id_eq {l l' : Link} (hl : l.Told s) (hl' : l'.Told s)
    (h : l.relationship.id = l'.relationship.id) : l = l' := by
  have hrelationship : l.relationship = l'.relationship :=
    Relationship.eq_of_id_eq hl.canonical hl'.canonical hl.legible hl'.legible h
  have hposition : l.position = l'.position :=
    Option.some.inj (hl.position.symm.trans (hrelationship ▸ hl'.position))
  obtain ⟨htable, hcolumn⟩ := Prod.mk.inj hposition
  have hreference : l.reference = l'.reference := by
    rw [hl.reference, hl'.reference, hrelationship]
  cases l
  cases l'
  simp_all

/-- The position of a name is the position of any other spelling of it. -/
theorem columnPosition?_of_lower_eq {table column table' column' : String}
    (ht : Text.lower table = Text.lower table') (hc : Text.lower column = Text.lower column') :
    s.columnPosition? table column = s.columnPosition? table' column' := by
  simp only [columnPosition?, tableIndex?, Table.columnIndex?, Table.isNamed, Column.isNamed, ht,
    hc]

theorem told_of_linkFor? {f : ForeignKey} {l : Link}
    (hclean : ∀ t ∈ s.tables, clean t.name = t.name ∧ ∀ c ∈ t.columns, clean c.name = c.name)
    (hlegible : ∀ t ∈ s.tables, t.Legible) (h : s.linkFor? f = some l) : l.Told s := by
  obtain ⟨-, i, t, j, c, target, r, hi, ht, hj, hc, htarget, rfl, rfl⟩ := linkFor?_eq_some_iff.mp h
  have htable := findTable?_of_tableIndex? hi ht
  have hcolumn := findColumn?_of_columnIndex? hj hc
  have htmem := List.mem_of_getElem? ht
  have hcmem := List.mem_of_getElem? hc
  have htargetmem := (mem_of_findTable? htarget).1
  have hname : clean t.name = t.name := (hclean t htmem).1
  have hcname : clean c.name = c.name := (hclean t htmem).2 c hcmem
  have hposition : s.columnPosition? (clean f.table) (clean f.column) = some (i, j) := by
    simp [columnPosition?, hi, ht, hj]
  refine ⟨rfl, ⟨?_, ?_, ?_⟩, ?_, rfl⟩
  · change Dotless (clean t.name)
    rw [hname]
    exact (hlegible t htmem).name
  · change Arrowless (clean c.name)
    rw [hcname]
    exact (hlegible t htmem).columns c hcmem
  · change Dotless (clean target.name)
    rw [(hclean target htargetmem).1]
    exact (hlegible target htargetmem).name
  · change s.columnPosition? (clean t.name) (clean c.name) = some (i, j)
    rw [hname, hcname, ← hposition]
    exact columnPosition?_of_lower_eq (mem_of_findTable? htable).2
      (Column.isNamed_iff.mp (List.find?_some hcolumn))

/-! ### Columns after alterations -/

/-- The column at these positions. -/
def columnAt? (s : Schema) (i j : Nat) : Option Column := s.tables[i]?.bind (·.columns[j]?)

theorem columnAt?_marked {overwrite : Bool} {rs : List Relationship} (i j : Nat) :
    (Schema.mk (marked overwrite ls s.tables) rs).columnAt? i j =
      (s.columnAt? i j).map (·.linked overwrite (referenceFrom? ls i j)) := by
  simp only [columnAt?, marked, List.getElem?_mapIdx]
  cases s.tables[i]? with
  | none => rfl
  | some t => simp

/-- What is said about a column by the first link from it, if there is one. -/
theorem referenceFrom?_eq_some {i j : Nat} {reference : ColumnReference}
    (h : referenceFrom? ls i j = some reference) :
    ∃ l ∈ ls, l.position = (i, j) ∧ l.reference = reference := by
  obtain ⟨l, hl, rfl⟩ := Option.map_eq_some_iff.mp h
  obtain ⟨hi, hj⟩ := Link.startsAt_iff.mp (List.find?_some hl)
  exact ⟨l, List.mem_of_find?_eq_some hl, Prod.ext hi hj, rfl⟩

theorem isSome_referenceFrom?_of_perm (h : ls.Perm ls') (i j : Nat) :
    (referenceFrom? ls i j).isSome = (referenceFrom? ls' i j).isSome := by
  rw [referenceFrom?, referenceFrom?, Option.isSome_map, Option.isSome_map, Bool.eq_iff_iff,
    List.find?_isSome, List.find?_isSome]
  simp only [h.mem_iff]

/-- Two orders of links may disagree about a column only if two links from it do. -/
theorem exists_of_referenceFrom?_ne (h : ls.Perm ls') {i j : Nat}
    (hne : referenceFrom? ls i j ≠ referenceFrom? ls' i j) :
    ∃ l ∈ ls, ∃ l' ∈ ls, l.position = (i, j) ∧ l'.position = (i, j) ∧
      l.reference ≠ l'.reference := by
  have hsome := isSome_referenceFrom?_of_perm h i j
  cases hr : referenceFrom? ls i j with
  | none => simp_all
  | some reference =>
      cases hr' : referenceFrom? ls' i j with
      | none => simp_all
      | some reference' =>
          obtain ⟨l, hl, hposition, rfl⟩ := referenceFrom?_eq_some hr
          obtain ⟨l', hl', hposition', rfl⟩ := referenceFrom?_eq_some hr'
          refine ⟨l, hl, l', h.mem_iff.mpr hl', hposition, hposition', fun he => hne ?_⟩
          rw [hr, hr', he]

theorem alter_eq_marked (s : Schema) (statements : List Statement) :
    s.alter statements =
      ⟨marked false (s.newLinks (s.linksFor statements)) s.tables,
        s.relationships ++ (s.newLinks (s.linksFor statements)).map (·.relationship)⟩ := by
  rw [alter_eq_foldl_addLink]
  exact foldl_addLink_closed nofun

/-- The order of alterations decides only which reference is kept. Where the names of a schema are
clean and can be read from ids, altering it in two orders adds the same relationships, up to order,
and marks the same columns; the same columns then have a reference, and only if two of the added
relationships lead from a column to different targets may its references differ. -/
theorem alter_perm {statements statements' : List Statement}
    (hclean : ∀ t ∈ s.tables, clean t.name = t.name ∧ ∀ c ∈ t.columns, clean c.name = c.name)
    (hdotless : ∀ t ∈ s.tables, Dotless t.name)
    (harrowless : ∀ t ∈ s.tables, ∀ c ∈ t.columns, Arrowless c.name)
    (h : (alterations statements).Perm (alterations statements')) :
    ∃ added added' : List Relationship, added.Perm added' ∧
      (s.alter statements).relationships = s.relationships ++ added ∧
      (s.alter statements').relationships = s.relationships ++ added' ∧
      (s.alter statements).skeleton = (s.alter statements').skeleton ∧
      ∀ i j c c', (s.alter statements).columnAt? i j = some c →
        (s.alter statements').columnAt? i j = some c' →
        c.isForeignKey = c'.isForeignKey ∧ c.references.isSome = c'.references.isSome ∧
        (c.references ≠ c'.references → ∃ r ∈ added, ∃ r' ∈ added, r.target ≠ r'.target ∧
          s.columnPosition? r.sourceTable r.sourceColumn = some (i, j) ∧
          s.columnPosition? r'.sourceTable r'.sourceColumn = some (i, j)) := by
  have htold : ∀ statements, ∀ l ∈ s.linksFor statements, l.Told s := by
    intro statements l hl
    obtain ⟨f, -, hf⟩ := List.mem_filterMap.mp hl
    exact told_of_linkFor? hclean (fun t ht => ⟨hdotless t ht, harrowless t ht⟩) hf
  have hperm : (s.newLinks (s.linksFor statements)).Perm (s.newLinks (s.linksFor statements')) := by
    refine newLinks_perm ?_ ((h.flatMap_right _).filterMap _) s
    exact fun l hl l' hl' => (htold _ l hl).eq_of_id_eq (htold _ l' hl')
  have hnew : ∀ l ∈ s.newLinks (s.linksFor statements), l.Told s := fun l hl =>
    htold _ l (Link.mem_of_mem_firsts (List.mem_filter.mp hl).1)
  refine ⟨_, _, hperm.map (·.relationship), ?_, ?_, ?_, fun i j c c' hc hc' => ?_⟩
  · rw [alter_eq_marked]
  · rw [alter_eq_marked]
  · rw [skeleton_alter, skeleton_alter]
  rw [alter_eq_marked, columnAt?_marked] at hc hc'
  obtain ⟨x, hx, rfl⟩ := Option.map_eq_some_iff.mp hc
  obtain ⟨x', hx', rfl⟩ := Option.map_eq_some_iff.mp hc'
  obtain rfl : x = x' := Option.some.inj (hx.symm.trans hx')
  have hsome := isSome_referenceFrom?_of_perm hperm i j
  refine ⟨?_, ?_, fun hne => ?_⟩
  · simp only [Column.linked, hsome]
  · simp only [Column.linked, Bool.false_eq_true, if_false, Option.isSome_or, hsome]
  · obtain ⟨l, hl, l', hl', hposition, hposition', hdiffer⟩ :=
      exists_of_referenceFrom?_ne hperm (i := i) (j := j) fun he =>
        hne (by simp only [Column.linked, he])
    refine ⟨_, List.mem_map_of_mem hl, _, List.mem_map_of_mem hl', ?_, ?_, ?_⟩
    · rw [← (hnew l hl).reference, ← (hnew l' hl').reference]
      exact hdiffer
    · rw [(hnew l hl).position, hposition]
    · rw [(hnew l' hl').position, hposition']

/-- Tables for orders, whose buyers may be users or clients. There is a relationship with an id of
its own, and two tables and two columns have the same name, case aside. -/
def contestedOrders : Schema :=
  let column (name : String) : Column := ⟨name, "INT", false, false, false, false, none, none⟩
  { tables := [⟨"1", "users", [column "id"]⟩, ⟨"2", "USERS", [column "id"]⟩,
      ⟨"3", "clients", [column "ID"]⟩, ⟨"4", "orders", [column "buyer", column "Buyer"]⟩]
    relationships := [⟨"orders", "buyer", "users", "id", oneToMany, "owner"⟩] }

/-- Buyers of orders are users for one alteration and clients for another. A third one is for a
table that is not there. -/
def contestingAlterations : List TableAlteration :=
  [⟨some "ORDERS", [⟨["BUYER"], "Users", ["id"]⟩]⟩, ⟨some "archive", [⟨["id"], "users", ["id"]⟩]⟩,
    ⟨some "[orders]", [⟨["buyer", "buyer"], "clients", ["id", "code"]⟩]⟩]

theorem alter_perm_contestedOrders :
    let s := contestedOrders
    let statements := contestingAlterations.map Statement.alterTable
    let statements' := .other "insert" :: contestingAlterations.reverse.map Statement.alterTable
    (∀ t ∈ s.tables, clean t.name = t.name ∧ ∀ c ∈ t.columns, clean c.name = c.name) ∧
      (∀ t ∈ s.tables, Dotless t.name) ∧
      (∀ t ∈ s.tables, ∀ c ∈ t.columns, Arrowless c.name) ∧
      (alterations statements).Perm (alterations statements') ∧
      (s.alter statements).tables ≠ (s.alter statements').tables ∧
      ∃ added added' : List Relationship, added.Perm added' ∧
        (s.alter statements).relationships = s.relationships ++ added ∧
        (s.alter statements').relationships = s.relationships ++ added' ∧
        (s.alter statements).skeleton = (s.alter statements').skeleton ∧
        ∀ i j c c', (s.alter statements).columnAt? i j = some c →
          (s.alter statements').columnAt? i j = some c' →
          c.isForeignKey = c'.isForeignKey ∧ c.references.isSome = c'.references.isSome ∧
          (c.references ≠ c'.references → ∃ r ∈ added, ∃ r' ∈ added, r.target ≠ r'.target ∧
            s.columnPosition? r.sourceTable r.sourceColumn = some (i, j) ∧
            s.columnPosition? r'.sourceTable r'.sourceColumn = some (i, j)) := by
  intro s statements statements'
  have hclean : ∀ t ∈ s.tables, clean t.name = t.name ∧ ∀ c ∈ t.columns, clean c.name = c.name := by
    decide +kernel
  have hdotless : ∀ t ∈ s.tables, Dotless t.name := by decide +kernel
  have harrowless : ∀ t ∈ s.tables, ∀ c ∈ t.columns, Arrowless c.name := by decide +kernel
  have h : (alterations statements).Perm (alterations statements') := by decide +kernel
  have hne : (s.alter statements).tables ≠ (s.alter statements').tables := by decide +kernel
  exact ⟨hclean, hdotless, harrowless, h, hne, alter_perm hclean hdotless harrowless h⟩

end EntityMap.Schema
