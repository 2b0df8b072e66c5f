import EntityMap.Proofs.Declaration.Resolution

/-!
What is found can be linked. The names of a pair are clean and not empty; what is found under them
are other names, the same ones only in lower case. `Schema.ofNames?_of_found` says that the names
that are found make a relationship again, so that a pair is dropped only because nothing is found.
-/

namespace EntityMap.Schema

open Identifier Relationship

variable {s : Schema} {t target : Table} {c : Column}

theorem exists_ofNames?_of_found {clause : ForeignKeyClause} {pair : Relationship}
    (hpair : pair ∈ clause.relationships t.name) (hc : t.findColumn? pair.sourceColumn = some c)
    (htarget : s.findTable? pair.targetTable = some target) :
    ∃ r, ofNames? t.name c.name target.name (targetName target pair.targetColumn) = some r := by
  obtain ⟨⟨column, targetColumn⟩, -, hnames⟩ := List.mem_filterMap.mp hpair
  obtain ⟨⟨htable, hcolumn, htargetTable, htargetColumn⟩, rfl⟩ := ofNames?_eq_some_iff.mp hnames
  have hname : clean c.name ≠ "" := mt (clean_eq_empty_iff_of_findColumn? hc).mp hcolumn
  have htargetName : clean target.name ≠ "" :=
    mt (clean_eq_empty_iff_of_findTable? htarget).mp htargetTable
  have htargetColumnName : clean (targetName target (clean targetColumn)) ≠ "" :=
    mt clean_targetName_eq_empty_iff.mp htargetColumn
  exact ⟨_, ofNames?_eq_some_iff.mpr ⟨⟨htable, hname, htargetName, htargetColumnName⟩, rfl⟩⟩

/-- A pair of a table is linked as soon as its source column and the referenced table are found,
whatever names the schema has: what is found under a name is not empty once it is clean, since
lower case makes white space and quotes of nothing else. -/
theorem ofNames?_of_found {i : Nat} (ht : s.tables[i]? = some t) {clause : ForeignKeyClause}
    {pair : Relationship} (hpair : pair ∈ clause.relationships t.name) :
    (∀ c target, t.findColumn? pair.sourceColumn = some c →
        s.findTable? pair.targetTable = some target →
        ∃ r, ofNames? t.name c.name target.name (targetName target pair.targetColumn) = some r) ∧
      (s.resolve? i pair = none ↔
        t.findColumn? pair.sourceColumn = none ∨ s.findTable? pair.targetTable = none) := by
  refine ⟨fun c target hc htarget => exists_ofNames?_of_found hpair hc htarget, ?_⟩
  constructor
  · intro hnone
    by_contra! hfound
    obtain ⟨c, hc⟩ := Option.ne_none_iff_exists'.mp hfound.1
    obtain ⟨target, htarget⟩ := Option.ne_none_iff_exists'.mp hfound.2
    obtain ⟨j, hj, hcj⟩ := exists_columnIndex? hc
    obtain ⟨r, hr⟩ := exists_ofNames?_of_found hpair hc htarget
    have hsome : s.resolve? i pair = some ⟨i, j, r, r.target⟩ :=
      resolve?_eq_some_iff.mpr ⟨t, j, c, target, r, ht, hj, hcj, htarget, hr, rfl⟩
    exact Option.some_ne_none _ (hsome.symm.trans hnone)
  · intro h
    refine Option.eq_none_iff_forall_ne_some.mpr fun l hl => ?_
    obtain ⟨t', j, c, target, r, ht', hj, hc, htarget, -, -⟩ := resolve?_eq_some_iff.mp hl
    obtain rfl : t = t' := Option.some.inj (ht.symm.trans ht')
    rcases h with h | h
    · exact Option.some_ne_none c ((findColumn?_of_columnIndex? hj hc).symm.trans h)
    · exact Option.some_ne_none target (htarget.symm.trans h)

/-- Tables and columns whose names have quotes and white space in them, or nothing else. -/
def quotedShop : Schema :=
  let column (name : String) : Column := ⟨name, "INT", false, false, false, false, none, none⟩
  { tables := [⟨"1", " [Orders]", [column "", column "[ ]", column "User_ID"]⟩,
      ⟨"2", "[ ]", [column "[]"]⟩, ⟨"3", "USERS", [column "[id]", column "ID"]⟩]
    relationships := [] }

/-- Foreign keys for users, by a column and by a name with nothing in it. -/
def quotedClause : ForeignKeyClause := ⟨["[user_id]", "[ ]"], "[Users]", ["id", "id"]⟩

theorem ofNames?_of_found_quotedShop :
    let s := quotedShop
    let pair := between "Orders" "user_id" "Users" "id"
    ∃ t c target, s.tables[0]? = some t ∧ quotedClause.relationships t.name = [pair] ∧
      t.findColumn? pair.sourceColumn = some c ∧ s.findTable? pair.targetTable = some target ∧
      (∃ r, ofNames? t.name c.name target.name (targetName target pair.targetColumn) = some r) ∧
      (s.resolve? 0 pair = none ↔
        t.findColumn? pair.sourceColumn = none ∨ s.findTable? pair.targetTable = none) := by
  intro s pair
  let t := s.tables[0]
  let target := s.tables[2]
  have ht : s.tables[0]? = some t := rfl
  have hpairs : quotedClause.relationships t.name = [pair] := by decide +kernel
  have hc : t.findColumn? pair.sourceColumn = some t.columns[2] := by decide +kernel
  have htarget : s.findTable? pair.targetTable = some target := by decide +kernel
  obtain ⟨hmade, hdropped⟩ := ofNames?_of_found ht (hpairs ▸ List.mem_singleton_self pair)
  exact ⟨t, _, target, ht, hpairs, hc, htarget, hmade _ target hc htarget, hdropped⟩

end EntityMap.Schema
