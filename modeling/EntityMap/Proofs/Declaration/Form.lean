import EntityMap.Proofs.Declaration.ForeignKey

/-!
The forms of a foreign key. It can be written next to its column, as a clause of its table, or in an
alteration; `TableDefinition.write` puts foreign keys of the first two forms into a declaration.
What a declaration says besides does not change, and the relationships that it writes are those of
the foreign keys.
-/

namespace EntityMap

open Identifier Relationship

inductive Form where
  | inline
  | clause
  | alteration
  deriving DecidableEq

def Form.inlineKey? (keys : List ForeignKey) (form : ForeignKey → Form) (table column : String) :
    Option ForeignKey :=
  keys.find? fun f => f.table = table ∧ f.column = column ∧ form f = inline

theorem Form.inlineKey?_eq_some_iff {keys : List ForeignKey} {form : ForeignKey → Form}
    {table column : String} {f : ForeignKey}
    (hsources : (keys.map fun f => (f.table, f.column)).Nodup) :
    inlineKey? keys form table column = some f ↔
      f ∈ keys ∧ f.table = table ∧ f.column = column ∧ form f = inline := by
  constructor
  · intro h
    exact ⟨List.mem_of_find?_eq_some h, by simpa using List.find?_some h⟩
  · rintro ⟨hf, htable, hcolumn, hform⟩
    refine find?_eq_some_of_unique hf (by simp [htable, hcolumn, hform]) fun g hg hfound => ?_
    have hsame : g.table = table ∧ g.column = column ∧ form g = inline := by simpa using hfound
    refine List.inj_on_of_nodup_map hsources hg hf ?_
    rw [hsame.1, hsame.2.1, htable, hcolumn]

namespace TableDefinition

/-- The declaration with these foreign keys, as far as they are its own and not added by an
alteration. -/
def write (keys : List ForeignKey) (form : ForeignKey → Form) (d : TableDefinition) :
    TableDefinition :=
  { d with
    columns := d.columns.map fun x =>
      { x with reference := (Form.inlineKey? keys form d.tableName x.name).map (·.clause) }
    foreignKeys :=
      (keys.filter fun f => f.table = d.tableName ∧ form f = .clause).map (·.clause) }

variable {keys : List ForeignKey} {form : ForeignKey → Form} {d : TableDefinition}
  {r : Relationship}

@[simp] theorem tableName_write : (d.write keys form).tableName = d.tableName := rfl

theorem build_write_skeleton : (d.write keys form).build.1.skeleton = d.build.1.skeleton := by
  rw [build_fst_skeleton, build_fst_skeleton, tableName_write]
  simp only [write, List.map_map]
  rfl

theorem columnsDistinct_write : (d.write keys form).ColumnsDistinct ↔ d.ColumnsDistinct := by
  simp only [ColumnsDistinct, write, List.map_map]
  rfl

theorem legible_write (htable : Dotless d.tableName)
    (hcolumns : ∀ x ∈ d.columns, Arrowless (clean x.name))
    (hkeys : ∀ f ∈ keys, Arrowless (clean f.column) ∧ Dotless (clean f.referencedTable)) :
    (d.write keys form).Legible := by
  refine ⟨htable, ?_, ?_, ?_⟩
  · intro x' hx'
    obtain ⟨x, hx, rfl⟩ := List.mem_map.mp hx'
    exact hcolumns x hx
  · intro x' hx' clause hclause
    obtain ⟨x, -, rfl⟩ := List.mem_map.mp hx'
    obtain ⟨f, hf, rfl⟩ := Option.map_eq_some_iff.mp hclause
    exact (hkeys f (List.mem_of_find?_eq_some hf)).2
  · intro clause hclause
    obtain ⟨f, hf, rfl⟩ := List.mem_map.mp hclause
    obtain ⟨hcolumn, htarget⟩ := hkeys f (List.mem_filter.mp hf).1
    exact ⟨htarget, fun column hc => List.mem_singleton.mp hc ▸ hcolumn⟩

theorem mem_clausePairs_write : r ∈ (d.write keys form).clausePairs ↔
    ∃ f ∈ keys, f.table = d.tableName ∧ form f = .clause ∧ f.relationship? = some r := by
  have hpairs (f : ForeignKey) (hf : f.table = d.tableName) :
      f.clause.relationships d.tableName = f.relationship?.toList :=
    ForeignKey.relationships_clause (congrArg clean hf.symm) rfl
  rw [clausePairs, List.mem_flatMap]
  constructor
  · rintro ⟨clause, hclause, hr⟩
    obtain ⟨f, hf, rfl⟩ := List.mem_map.mp hclause
    obtain ⟨hmem, hf⟩ := List.mem_filter.mp hf
    obtain ⟨htable, hform⟩ := of_decide_eq_true hf
    rw [tableName_write, hpairs f htable, Option.mem_toList] at hr
    exact ⟨f, hmem, htable, hform, hr⟩
  · rintro ⟨f, hmem, htable, hform, hr⟩
    refine ⟨f.clause, List.mem_map_of_mem (List.mem_filter.mpr ⟨hmem, ?_⟩), ?_⟩
    · exact decide_eq_true ⟨htable, hform⟩
    · rw [tableName_write, hpairs f htable, Option.mem_toList]
      exact hr

theorem mem_inlinePairs_write (hsources : (keys.map fun f => (f.table, f.column)).Nodup)
    (hcolumns : ∀ f ∈ keys, f.table = d.tableName → ∃ x ∈ d.columns, x.name = f.column) :
    r ∈ (d.write keys form).inlinePairs ↔
      ∃ f ∈ keys, f.table = d.tableName ∧ form f = .inline ∧ f.relationship? = some r := by
  have hkey_iff {x : ColumnDefinition} {f : ForeignKey} :
      Form.inlineKey? keys form d.tableName x.name = some f ↔
        f ∈ keys ∧ f.table = d.tableName ∧ f.column = x.name ∧ form f = .inline :=
    Form.inlineKey?_eq_some_iff hsources
  have hinline {x : ColumnDefinition} {f : ForeignKey} (htable : f.table = d.tableName)
      (hcolumn : f.column = x.name) :
      { x with reference := some f.clause }.inlineRelationship? d.tableName = f.relationship? := by
    have hpairs : { f.clause with columns := [clean x.name] }.relationships d.tableName =
        f.relationship?.toList :=
      ForeignKey.relationships_clause (congrArg clean htable.symm) (by rw [clean_clean, hcolumn])
    rw [ColumnDefinition.inlineRelationship?, Option.bind_some]
    refine (congrArg List.head? hpairs).trans ?_
    cases f.relationship? <;> rfl
  rw [mem_inlinePairs]
  constructor
  · rintro ⟨x', hx', hr⟩
    obtain ⟨x, hx, rfl⟩ := List.mem_map.mp hx'
    cases hkey : Form.inlineKey? keys form d.tableName x.name with
    | none => simp [hkey, ColumnDefinition.inlineRelationship?] at hr
    | some f =>
        obtain ⟨hf, htable, hcolumn, hform⟩ := hkey_iff.mp hkey
        rw [hkey, Option.map_some, tableName_write, hinline htable hcolumn] at hr
        exact ⟨f, hf, htable, hform, hr⟩
  · rintro ⟨f, hf, htable, hform, hr⟩
    obtain ⟨x, hx, hcolumn⟩ := hcolumns f hf htable
    refine ⟨_, List.mem_map_of_mem hx, ?_⟩
    have hkey := hkey_iff.mpr ⟨hf, htable, hcolumn.symm, hform⟩
    rw [hkey, Option.map_some, tableName_write, hinline htable hcolumn.symm]
    exact hr

/-- The relationships of the declaration are those of its foreign keys, whether written next to
columns or as clauses. -/
theorem mem_writtenPairs_write (hsources : (keys.map fun f => (f.table, f.column)).Nodup)
    (hcolumns : ∀ f ∈ keys, f.table = d.tableName → ∃ x ∈ d.columns, x.name = f.column) :
    r ∈ (d.write keys form).writtenPairs ↔
      ∃ f ∈ keys, f.table = d.tableName ∧ form f ≠ .alteration ∧ f.relationship? = some r := by
  rw [writtenPairs, List.mem_append, mem_clausePairs_write, mem_inlinePairs_write hsources hcolumns]
  constructor
  · rintro (⟨f, hf, htable, hform, hr⟩ | ⟨f, hf, htable, hform, hr⟩)
    · exact ⟨f, hf, htable, by simp [hform], hr⟩
    · exact ⟨f, hf, htable, by simp [hform], hr⟩
  · rintro ⟨f, hf, htable, hform, hr⟩
    cases h : form f with
    | inline => exact Or.inr ⟨f, hf, htable, h, hr⟩
    | clause => exact Or.inl ⟨f, hf, htable, h, hr⟩
    | alteration => exact absurd h hform

end TableDefinition

end EntityMap
