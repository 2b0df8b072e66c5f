import Mathlib.Data.List.Forall2
import EntityMap.Proofs.Build

/-!
Spellings of names. A name may be written with quotes or without, and nothing but its clean form
reaches a schema. `Statement.Related` compares statements of one shape name by name;
`Schema.build_spelling` says that two scripts whose names have the same clean forms give the same
schema, so that it matters neither which names are quoted and how nor whether names are cleaned
before.
-/

namespace EntityMap

open Identifier Relationship

/-! ### Quotes -/

namespace Identifier

def quotes : List (String × String) := [("\x60", "\x60"), ("\"", "\""), ("'", "'"), ("[", "]")]

/-- The name is as it was, or there are quotes around it. -/
def Quoted (name quoted : String) : Prop :=
  quoted = name ∨ ∃ q ∈ quotes, quoted = q.1 ++ name ++ q.2

instance (name quoted : String) : Decidable (Quoted name quoted) :=
  inferInstanceAs (Decidable (_ ∨ _))

theorem clean_eq_of_quoted {name quoted : String} (h : Quoted name quoted) :
    clean name = clean quoted := by
  have hquotes : ∀ q ∈ quotes,
      q.1.toList.filter (!isQuote ·) = [] ∧ q.2.toList.filter (!isQuote ·) = [] := by
    decide
  rcases h with rfl | ⟨q, hq, rfl⟩
  · rfl
  · obtain ⟨hleft, hright⟩ := hquotes q hq
    rw [clean, clean, cleanChars, cleanChars, String.toList_append, String.toList_append,
      List.filter_append, List.filter_append, hleft, hright, List.nil_append, List.append_nil]

end Identifier

/-! ### Statements of the same shape -/

section Related

variable (R : String → String → Prop)

structure ForeignKeyClause.Related (c c' : ForeignKeyClause) : Prop where
  columns : List.Forall₂ R c.columns c'.columns
  referencesTable : R c.referencesTable c'.referencesTable
  referencesColumns : List.Forall₂ R c.referencesColumns c'.referencesColumns

/-- The names of the two columns are related, and all else that is declared is the same. -/
structure ColumnDefinition.Related (x x' : ColumnDefinition) : Prop where
  name : R x.name x'.name
  type : x.type = x'.type
  primaryKey : x.primaryKey = x'.primaryKey
  autoIncrement : x.autoIncrement = x'.autoIncrement
  notNull : x.notNull = x'.notNull
  unique : x.unique = x'.unique
  defaultValue : x.defaultValue = x'.defaultValue
  reference : Option.Rel (ForeignKeyClause.Related R) x.reference x'.reference

/-- The names of the two declarations are related one by one, a missing name counting as the empty
one. -/
structure TableDefinition.Related (d d' : TableDefinition) : Prop where
  name : R (d.name.getD "") (d'.name.getD "")
  columns : List.Forall₂ (ColumnDefinition.Related R) d.columns d'.columns
  primaryKeys : List.Forall₂ R d.primaryKeys d'.primaryKeys
  foreignKeys : List.Forall₂ (ForeignKeyClause.Related R) d.foreignKeys d'.foreignKeys

/-- The names of the two alterations are related one by one, a missing name counting as the empty
one. -/
structure TableAlteration.Related (a a' : TableAlteration) : Prop where
  name : R (a.name.getD "") (a'.name.getD "")
  foreignKeys : List.Forall₂ (ForeignKeyClause.Related R) a.foreignKeys a'.foreignKeys

/-- The two statements are of the same kind, and their names are related one by one. -/
inductive Statement.Related : Statement → Statement → Prop
  | createTable {d d' : TableDefinition} (h : d.Related R d') :
      Related (.createTable d) (.createTable d')
  | alterTable {a a' : TableAlteration} (h : a.Related R a') :
      Related (.alterTable a) (.alterTable a')
  | other (kind : String) : Related (.other kind) (.other kind)

end Related

/-! ### Cleaned statements -/

def ForeignKeyClause.cleaned (c : ForeignKeyClause) : ForeignKeyClause :=
  ⟨c.columns.map clean, clean c.referencesTable, c.referencesColumns.map clean⟩

def ColumnDefinition.cleaned (x : ColumnDefinition) : ColumnDefinition :=
  { x with name := clean x.name, reference := x.reference.map ForeignKeyClause.cleaned }

def TableDefinition.cleaned (d : TableDefinition) : TableDefinition :=
  ⟨some (clean (d.name.getD "")), d.columns.map ColumnDefinition.cleaned,
    d.primaryKeys.map clean, d.foreignKeys.map ForeignKeyClause.cleaned⟩

def TableAlteration.cleaned (a : TableAlteration) : TableAlteration :=
  ⟨some (clean (a.name.getD "")), a.foreignKeys.map ForeignKeyClause.cleaned⟩

def Statement.cleaned : Statement → Statement
  | createTable d => createTable d.cleaned
  | alterTable a => alterTable a.cleaned
  | other kind => other kind

theorem map_eq_map_of_forall₂ {α β : Type} {R : α → α → Prop} {f : α → β} {xs ys : List α}
    (hf : ∀ x y, R x y → f x = f y) (h : List.Forall₂ R xs ys) : xs.map f = ys.map f := by
  rw [← List.forall₂_eq_eq_eq, List.forall₂_map_left_iff, List.forall₂_map_right_iff]
  exact h.imp hf

/-! Names that are related have the same clean form, and so have the statements. -/

section

variable {R : String → String → Prop} (hR : ∀ name name', R name name' → clean name = clean name')

include hR

theorem ForeignKeyClause.cleaned_eq_of_related {c c' : ForeignKeyClause} (h : c.Related R c') :
    c.cleaned = c'.cleaned := by
  rw [cleaned, cleaned, map_eq_map_of_forall₂ hR h.columns, hR _ _ h.referencesTable,
    map_eq_map_of_forall₂ hR h.referencesColumns]

theorem ForeignKeyClause.map_cleaned_eq_of_rel {c? c'? : Option ForeignKeyClause}
    (h : Option.Rel (Related R) c? c'?) : c?.map cleaned = c'?.map cleaned := by
  cases h with
  | none => rfl
  | some h => exact congrArg some (cleaned_eq_of_related hR h)

theorem ColumnDefinition.cleaned_eq_of_related {x x' : ColumnDefinition} (h : x.Related R x') :
    x.cleaned = x'.cleaned := by
  obtain ⟨hname, htype, hprimaryKey, hautoIncrement, hnotNull, hunique, hdefault, hreference⟩ := h
  rw [cleaned, cleaned, hR _ _ hname, ForeignKeyClause.map_cleaned_eq_of_rel hR hreference, htype,
    hprimaryKey, hautoIncrement, hnotNull, hunique, hdefault]

theorem ForeignKeyClause.map_cleaned_eq_of_related {cs cs' : List ForeignKeyClause}
    (h : List.Forall₂ (Related R) cs cs') : cs.map cleaned = cs'.map cleaned :=
  map_eq_map_of_forall₂ (fun _ _ => cleaned_eq_of_related hR) h

theorem ColumnDefinition.map_cleaned_eq_of_related {xs xs' : List ColumnDefinition}
    (h : List.Forall₂ (Related R) xs xs') : xs.map cleaned = xs'.map cleaned :=
  map_eq_map_of_forall₂ (fun _ _ => cleaned_eq_of_related hR) h

theorem TableDefinition.cleaned_eq_of_related {d d' : TableDefinition} (h : d.Related R d') :
    d.cleaned = d'.cleaned := by
  rw [cleaned, cleaned, hR _ _ h.name, ColumnDefinition.map_cleaned_eq_of_related hR h.columns,
    map_eq_map_of_forall₂ hR h.primaryKeys,
    ForeignKeyClause.map_cleaned_eq_of_related hR h.foreignKeys]

theorem TableAlteration.cleaned_eq_of_related {a a' : TableAlteration} (h : a.Related R a') :
    a.cleaned = a'.cleaned := by
  rw [cleaned, cleaned, hR _ _ h.name, ForeignKeyClause.map_cleaned_eq_of_related hR h.foreignKeys]

theorem Statement.cleaned_eq_of_related {st st' : Statement} (h : st.Related R st') :
    st.cleaned = st'.cleaned := by
  cases h with
  | createTable h => exact congrArg createTable (TableDefinition.cleaned_eq_of_related hR h)
  | alterTable h => exact congrArg alterTable (TableAlteration.cleaned_eq_of_related hR h)
  | other kind => rfl

end

/-! ### Schemas of cleaned statements -/

theorem ForeignKeyClause.relationships_cleaned (table : String) (c : ForeignKeyClause) :
    c.cleaned.relationships table = c.relationships table := by
  simp only [relationships, cleaned, List.zip_map, List.filterMap_map]
  refine List.filterMap_congr fun pair _ => ?_
  simp only [Function.comp_apply, Prod.map_fst, Prod.map_snd, ofNames?, clean_clean]

theorem ForeignKeyClause.flatMap_relationships_cleaned (table : String)
    (cs : List ForeignKeyClause) :
    (cs.map cleaned).flatMap (relationships table) = cs.flatMap (relationships table) := by
  rw [List.flatMap_map]
  exact List.flatMap_congr fun c _ => c.relationships_cleaned table

namespace ColumnDefinition

theorem toColumn_cleaned (keys : List String) (x : ColumnDefinition) :
    x.cleaned.toColumn keys = x.toColumn keys := by
  simp only [toColumn, cleaned, clean_clean]

/-- The clause next to a column gets its name, which may be cleaned once more. -/
theorem inlineRelationship?_cleaned (table : String) (x : ColumnDefinition) :
    x.cleaned.inlineRelationship? table = x.inlineRelationship? table := by
  rw [inlineRelationship?, inlineRelationship?, cleaned]
  cases x.reference with
  | none => rw [Option.map_none, Option.bind_none, Option.bind_none]
  | some c =>
      have hpairs := ForeignKeyClause.relationships_cleaned table
        ⟨[clean x.name], c.referencesTable, c.referencesColumns⟩
      rw [ForeignKeyClause.cleaned, List.map_singleton] at hpairs
      exact congrArg List.head? hpairs

end ColumnDefinition

namespace TableDefinition

variable (d : TableDefinition)

theorem tableName_cleaned : d.cleaned.tableName = d.tableName := by
  simp only [tableName, cleaned, Option.getD_some, clean_clean]

theorem keyNames_cleaned : d.cleaned.keyNames = d.keyNames := by
  simp only [keyNames, cleaned, List.map_map, Function.comp_def, clean_clean]

theorem clausePairs_cleaned : d.cleaned.clausePairs = d.clausePairs := by
  rw [clausePairs, clausePairs, tableName_cleaned, cleaned,
    ForeignKeyClause.flatMap_relationships_cleaned]

theorem buildColumns_cleaned (xs : List ColumnDefinition) (found : List Relationship) :
    d.cleaned.buildColumns (xs.map ColumnDefinition.cleaned) found = d.buildColumns xs found := by
  induction xs generalizing found with
  | nil => rfl
  | cons x rest ih =>
      have hname : clean x.cleaned.name = clean x.name := by
        rw [ColumnDefinition.cleaned, clean_clean]
      simp only [List.map_cons, buildColumns_cons, foundAt, reference?, ih, tableName_cleaned,
        keyNames_cleaned, clausePairs_cleaned, ColumnDefinition.toColumn_cleaned,
        ColumnDefinition.inlineRelationship?_cleaned, hname]

theorem build_cleaned : d.cleaned.build = d.build := by
  have hcolumns : d.cleaned.columns = d.columns.map ColumnDefinition.cleaned := rfl
  rw [build_eq, build_eq, tableName_cleaned, clausePairs_cleaned, hcolumns, buildColumns_cleaned]

end TableDefinition

namespace Schema

variable {s : Schema}

theorem declareTable_cleaned (s : Schema) (d : TableDefinition) :
    s.declareTable d.cleaned = s.declareTable d := by
  rw [declareTable_eq, declareTable_eq, d.build_cleaned, d.tableName_cleaned]

/-- No table has an empty name, so a name that is empty only once it is clean names no table, just
like one that is missing. -/
theorem alteredTable?_eq (hs : s.WellFormed) (a : TableAlteration) :
    s.alteredTable? a = s.tableIndex? (clean (a.name.getD "")) := by
  have hempty : s.tableIndex? "" = none := by
    refine List.findIdx?_eq_none_iff.mpr fun t ht => ?_
    have hname := (hs.tables t ht).name.ne_empty
    simpa [Table.isNamed, Text.lower_eq_empty_iff.mpr rfl, Text.lower_eq_empty_iff] using hname
  rw [alteredTable?]
  cases a.name with
  | none => rw [Option.getD_none, clean_empty, hempty]
  | some name =>
      by_cases hname : name = ""
      · simp only [hname, if_true, Option.getD_some, clean_empty, hempty]
      · simp only [hname, if_false, Option.getD_some]

theorem alterTable_cleaned (hs : s.WellFormed) (a : TableAlteration) :
    s.alterTable a.cleaned = s.alterTable a := by
  have haltered : s.alteredTable? a.cleaned = s.alteredTable? a := by
    rw [alteredTable?_eq hs, alteredTable?_eq hs, TableAlteration.cleaned, Option.getD_some,
      clean_clean]
  have hkeys : a.cleaned.foreignKeys = a.foreignKeys.map ForeignKeyClause.cleaned := rfl
  rw [Schema.alterTable, Schema.alterTable, haltered]
  simp only [alterationPairs, hkeys, ForeignKeyClause.flatMap_relationships_cleaned]

theorem foldl_alterTable_cleaned (hs : s.WellFormed) (as : List TableAlteration) :
    (as.map TableAlteration.cleaned).foldl alterTable s = as.foldl alterTable s := by
  induction as generalizing s with
  | nil => rfl
  | cons a as ih =>
      rw [List.map_cons, List.foldl_cons, List.foldl_cons, alterTable_cleaned hs,
        ih (hs.alterTable a)]

theorem definitions_map_cleaned (statements : List Statement) :
    Statement.definitions (statements.map Statement.cleaned) =
      (Statement.definitions statements).map TableDefinition.cleaned := by
  rw [Statement.definitions, Statement.definitions, List.filterMap_map, List.map_filterMap]
  refine List.filterMap_congr fun statement _ => ?_
  cases statement <;> rfl

theorem alterations_map_cleaned (statements : List Statement) :
    Statement.alterations (statements.map Statement.cleaned) =
      (Statement.alterations statements).map TableAlteration.cleaned := by
  rw [Statement.alterations, Statement.alterations, List.filterMap_map, List.map_filterMap]
  refine List.filterMap_congr fun statement _ => ?_
  cases statement <;> rfl

theorem build_map_cleaned (statements : List Statement) :
    build (statements.map Statement.cleaned) = build statements := by
  have hdeclare : ((Statement.definitions statements).map TableDefinition.cleaned).foldl
      declareTable empty = (Statement.definitions statements).foldl declareTable empty := by
    rw [List.foldl_map]
    simp only [declareTable_cleaned]
  rw [build_eq_infer_declared, build_eq_infer_declared, declared, declared,
    definitions_map_cleaned, alterations_map_cleaned, hdeclare,
    foldl_alterTable_cleaned (WellFormed.empty.foldl_declareTable _)]

/-- Scripts of the same shape whose names have the same clean forms give the same schema. So it does
not matter which names are quoted and how, or whether all names are cleaned before. -/
theorem build_spelling (statements : List Statement) :
    (∀ others, List.Forall₂ (Statement.Related fun name name' => clean name = clean name')
      statements others → build others = build statements) ∧
    (∀ others, List.Forall₂ (Statement.Related Quoted) statements others →
      build others = build statements) ∧
    build (statements.map Statement.cleaned) = build statements := by
  have hrelated {R : String → String → Prop}
      (hR : ∀ name name', R name name' → clean name = clean name') {others : List Statement}
      (h : List.Forall₂ (Statement.Related R) statements others) :
      build others = build statements := by
    have hcleaned : statements.map Statement.cleaned = others.map Statement.cleaned :=
      map_eq_map_of_forall₂ (fun _ _ => Statement.cleaned_eq_of_related hR) h
    rw [← build_map_cleaned others, ← build_map_cleaned statements, hcleaned]
  exact ⟨fun _ h => hrelated (fun _ _ hname => hname) h,
    fun _ h => hrelated (fun _ _ => clean_eq_of_quoted) h, build_map_cleaned statements⟩

def plainOrders : List Statement := [
  .createTable ⟨some "users", [.named "id"], ["ID"], []⟩,
  .createTable ⟨some "orders", [.named "buyer"], [], []⟩,
  .alterTable ⟨some "orders", [⟨["buyer"], "users", ["id"]⟩]⟩,
  .alterTable ⟨none, [⟨["buyer"], "users", ["key"]⟩]⟩]

def quotedOrders : List Statement := [
  .createTable ⟨some "[users]", [.named "\x60id\x60"], ["'ID'"], []⟩,
  .createTable ⟨some "orders", [.named "\"buyer\""], [], []⟩,
  .alterTable ⟨some "\x60orders\x60", [⟨["buyer"], "\"users\"", ["[id]"]⟩]⟩,
  .alterTable ⟨some "''", [⟨["buyer"], "users", ["key"]⟩]⟩]

theorem build_spelling_orders :
    (List.Forall₂ (Statement.Related fun name name' => clean name = clean name') plainOrders
        quotedOrders ∧ build quotedOrders = build plainOrders) ∧
      (List.Forall₂ (Statement.Related Quoted) plainOrders quotedOrders ∧
        build quotedOrders = build plainOrders) ∧
      build (plainOrders.map Statement.cleaned) = build plainOrders := by
  have hrelated {R : String → String → Prop} (hR : ∀ name name', Quoted name name' → R name name') :
      List.Forall₂ (Statement.Related R) plainOrders quotedOrders := by
    have hkey (target key key' : String) (ht : Quoted "users" target) (hk : Quoted key key') :
        ForeignKeyClause.Related R ⟨["buyer"], "users", [key]⟩ ⟨["buyer"], target, [key']⟩ :=
      ⟨.cons (hR _ _ (by decide)) .nil, hR _ _ ht, .cons (hR _ _ hk) .nil⟩
    have hcolumn (name name' : String) (h : Quoted name name') :
        ColumnDefinition.Related R (.named name) (.named name') :=
      ⟨hR _ _ h, rfl, rfl, rfl, rfl, rfl, rfl, .none⟩
    exact .cons (.createTable ⟨hR _ _ (by decide), .cons (hcolumn _ _ (by decide)) .nil,
        .cons (hR _ _ (by decide)) .nil, .nil⟩) <|
      .cons (.createTable ⟨hR _ _ (by decide), .cons (hcolumn _ _ (by decide)) .nil, .nil, .nil⟩) <|
      .cons (.alterTable ⟨hR _ _ (by decide), .cons (hkey _ _ _ (by decide) (by decide)) .nil⟩) <|
      .cons (.alterTable ⟨hR _ _ (by decide), .cons (hkey _ _ _ (by decide) (by decide)) .nil⟩) .nil
  have hclean := hrelated fun _ _ => clean_eq_of_quoted
  have hquoted := hrelated fun _ _ h => h
  obtain ⟨halike, hsame, hcleaned⟩ := build_spelling plainOrders
  exact ⟨⟨hclean, halike quotedOrders hclean⟩, ⟨hquoted, hsame quotedOrders hquoted⟩, hcleaned⟩

end Schema

end EntityMap
