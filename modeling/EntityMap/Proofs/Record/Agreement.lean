import EntityMap.Proofs.Operation
import EntityMap.Proofs.Record.Operation

/-!
Schemas with texts for names, as data. There nothing that is looked up fails, and every operation on
the data does what it does on the schema: `Schema.toRecord_operate`.
-/

namespace EntityMap

/-! ### Names that are texts -/

theorem ok_bind {ε α β : Type} (a : α) (f : α → Except ε β) : (Except.ok a >>= f) = f a := rfl

@[simp] theorem Value.same_text (a b : String) : (text a).same (text b) = (a == b) := by
  rw [Bool.eq_iff_iff]
  simp [same, tokens]

@[simp] theorem Value.cased_text (a : String) : (text a).cased = .ok a := rfl

theorem findNamed?_map {α β : Type} {name : α → Value} {f : β → α} {text : β → String}
    (hname : ∀ b, name (f b) = .text (text b)) (lowered : String) (bs : List β) :
    findNamed? name lowered (bs.map f) =
      .ok ((bs.findIdx? fun b => Text.lower (text b) == lowered).bind fun i =>
        bs[i]?.map fun b => (i, f b)) := by
  induction bs with
  | nil => rfl
  | cons b bs ih =>
      rw [List.map_cons, findNamed?, hname, ih, List.findIdx?_cons]
      by_cases h : Text.lower (text b) = lowered
      · simp [h, bind, Except.bind, pure, Except.pure]
      · simp [h, bind, Except.bind, pure, Except.pure, Option.map_bind, Option.bind_map,
          Function.comp_def]

/-- A table is found in the data where it is in the schema. -/
theorem Schema.findTable?_toRecord (s : Schema) (name : String) :
    (s.findTable? name = none ∧ s.tableIndex? name = none ∧
      s.toRecord.findTable? (.text name) = .ok none) ∨
    ∃ i t, s.findTable? name = some t ∧ s.tableIndex? name = some i ∧ s.tables[i]? = some t ∧
      s.toRecord.findTable? (.text name) = .ok (some (i, t.toRecord)) := by
  have hname (t : Table) : t.toRecord.name = .text t.name := rfl
  have hrecord : s.toRecord.findTable? (.text name) =
      .ok ((s.tableIndex? name).bind fun i => s.tables[i]?.map fun t => (i, t.toRecord)) :=
    findNamed?_map hname (Text.lower name) s.tables
  cases h : s.findTable? name with
  | none =>
      have hi := tableIndex?_eq_none h
      exact .inl ⟨rfl, hi, by rw [hrecord, hi]; rfl⟩
  | some t =>
      obtain ⟨i, hi, ht⟩ := exists_tableIndex? h
      exact .inr ⟨i, t, rfl, hi, ht, by rw [hrecord, hi, Option.bind_some, ht]; rfl⟩

theorem Table.findColumn?_toRecord (t : Table) (name : String) :
    (t.findColumn? name = none ∧ t.columnIndex? name = none ∧
      t.toRecord.findColumn? (.text name) = .ok none) ∨
    ∃ j c, t.findColumn? name = some c ∧ t.columnIndex? name = some j ∧ t.columns[j]? = some c ∧
      t.toRecord.findColumn? (.text name) = .ok (some (j, c.toRecord)) := by
  have hname (c : Column) : c.toRecord.name = .text c.name := rfl
  have hrecord : t.toRecord.findColumn? (.text name) =
      .ok ((t.columnIndex? name).bind fun j => t.columns[j]?.map fun c => (j, c.toRecord)) :=
    findNamed?_map hname (Text.lower name) t.columns
  cases h : t.findColumn? name with
  | none =>
      have hj : t.columnIndex? name = none := by
        rw [Table.columnIndex?, List.findIdx?_eq_none_iff]
        simpa using List.find?_eq_none.mp h
      exact .inl ⟨rfl, hj, by rw [hrecord, hj]; rfl⟩
  | some c =>
      obtain ⟨j, hj, hc⟩ := Schema.exists_columnIndex? h
      exact .inr ⟨j, c, rfl, hj, hc, by rw [hrecord, hj, Option.bind_some, hc]; rfl⟩

theorem Relationship.ofValues?_text (a b c d : String) :
    ofValues? (.text a) (.text b) (.text c) (.text d) = .ok (ofNames? a b c d) := by
  change Except.ok (ofNames? (Identifier.clean a) _ _ _) = _
  simp only [ofNames?, Identifier.clean_clean]

/-! ### Tables and relationships -/

theorem Column.toRecord_markForeignKey (target : ColumnReference) (overwrite : Bool) (c : Column) :
    (c.markForeignKey target overwrite).toRecord =
      c.toRecord.markForeignKey target.toRecord overwrite := by
  simp only [markForeignKey, toRecord, ColumnRecord.markForeignKey, Option.isNone_map]
  split <;> rfl

theorem Table.toRecord_normalize (t : Table) : t.normalize.toRecord = t.toRecord.normalize := by
  simp only [normalize, toRecord, TableRecord.normalize, List.map_map]
  rfl

theorem Relationship.toRecord_normalize (r : Relationship) :
    r.normalize.toRecord = r.toRecord.normalize := by
  by_cases h : r.id = ""
  · simp [normalize, RelationshipRecord.normalize, toRecord, Value.isTruthy, h,
      RelationshipRecord.idOf, Value.display]
  · simp [normalize, RelationshipRecord.normalize, toRecord, Value.isTruthy, h]

def Schema.Link.toRecord (l : Link) : LinkRecord :=
  ⟨l.table, l.column, l.relationship.toRecord, l.reference.toRecord⟩

namespace Schema

theorem getElem?_toRecord (s : Schema) (i : Nat) :
    s.toRecord.tables[i]? = s.tables[i]?.map (·.toRecord) := List.getElem?_map

theorem toRecord_addTable (s : Schema) (t : Table) :
    (s.addTable t).toRecord = s.toRecord.addTable t.toRecord := by
  have hfind : s.toRecord.tables.findIdx? (·.name.same t.toRecord.name) =
      s.tables.findIdx? (·.name == t.name) := by
    simp only [toRecord, List.findIdx?_map, Function.comp_def, Table.toRecord, Value.same_text]
  rw [addTable, SchemaRecord.addTable, hfind]
  cases s.tables.findIdx? (·.name == t.name) with
  | some i => simp only [toRecord, List.map_set]
  | none => simp only [toRecord, List.map_append, List.map_singleton]

theorem hasTable_toRecord (s : Schema) (name : String) :
    s.toRecord.hasTable (.text name) = s.hasTable name := by
  simp only [SchemaRecord.hasTable, hasTable, toRecord, List.any_map, Function.comp_def,
    Table.toRecord, Value.same_text]

theorem hasRelationship_toRecord (s : Schema) (id : String) :
    s.toRecord.hasRelationship (.text id) = s.hasRelationship id := by
  simp only [SchemaRecord.hasRelationship, hasRelationship, toRecord, List.any_map,
    Function.comp_def, Relationship.toRecord, Value.same_text]

theorem toRecord_addRelationship (s : Schema) (r : Relationship) :
    (s.addRelationship r).toRecord = s.toRecord.addRelationship r.toRecord := by
  have hhas : s.toRecord.hasRelationship r.toRecord.id = s.relationships.any (·.id == r.id) :=
    s.hasRelationship_toRecord r.id
  rw [addRelationship, Relationship.appendUnique, SchemaRecord.addRelationship, hhas]
  split
  · rfl
  · simp only [toRecord, List.map_append, List.map_singleton]

theorem toRecord_removeRelationshipsFrom (s : Schema) (table : String) :
    (s.removeRelationshipsFrom table).toRecord =
      s.toRecord.removeRelationshipsFrom (.text table) := by
  simp only [removeRelationshipsFrom, SchemaRecord.removeRelationshipsFrom, toRecord,
    List.filter_map, Function.comp_def, Relationship.toRecord, Value.same_text]
  rfl

theorem toRecord_markAt (s : Schema) (i j : Nat) (target : ColumnReference) (overwrite : Bool) :
    (s.modifyColumn i j (·.markForeignKey target overwrite)).toRecord =
      s.toRecord.modifyColumn i j (·.markForeignKey target.toRecord overwrite) := by
  simp only [modifyColumn, SchemaRecord.modifyColumn, toRecord, SchemaRecord.mk.injEq, and_true]
  refine map_modify_comm (fun t => ?_) s.tables i
  simp only [Table.toRecord, TableRecord.mk.injEq, true_and]
  exact map_modify_comm (Column.toRecord_markForeignKey target overwrite) t.columns j

theorem toRecord_addLink (overwrite : Bool) (s : Schema) (l : Link) :
    (s.addLink overwrite l).toRecord = s.toRecord.addLink overwrite l.toRecord := by
  have hhas : s.toRecord.hasRelationship l.toRecord.relationship.id =
      s.hasRelationship l.relationship.id := s.hasRelationship_toRecord _
  rw [addLink, SchemaRecord.addLink, hhas]
  split
  · rfl
  · rw [toRecord_markAt, toRecord_addRelationship]
    rfl

theorem toRecord_declareTable (s : Schema) (d : TableDefinition) :
    (s.declareTable d).toRecord = s.toRecord.declareTable d := by
  have hrelationships (rs : List Relationship) (s : Schema) :
      (rs.foldl addRelationship s).toRecord =
        rs.foldl (fun s r => s.addRelationship r.toRecord) s.toRecord := by
    induction rs generalizing s with
    | nil => rfl
    | cons r rs ih => rw [List.foldl_cons, ih, toRecord_addRelationship, List.foldl_cons]
  simp only [declareTable, SchemaRecord.declareTable, hrelationships, toRecord_addTable,
    hasTable_toRecord]
  split
  · rw [toRecord_removeRelationshipsFrom]
  · rfl

theorem toRecord_declare (s : Schema) (statements : List Statement) :
    (s.declare statements).toRecord = s.toRecord.declare statements := by
  induction statements generalizing s with
  | nil => rfl
  | cons statement statements ih =>
      rw [declare, List.foldl_cons]
      refine (ih _).trans ?_
      cases statement with
      | createTable d => exact congrArg (·.declare statements) (s.toRecord_declareTable d)
      | _ => rfl

/-! ### Links -/

theorem columnPosition?_toRecord (s : Schema) (table column : String) :
    s.toRecord.columnPosition? (.text table) (.text column) =
      .ok (s.columnPosition? table column) := by
  rw [SchemaRecord.columnPosition?, columnPosition?]
  rcases s.findTable?_toRecord table with ⟨-, hi, htable⟩ | ⟨i, t, -, hi, ht, htable⟩
  · rw [htable, hi]
    rfl
  · rw [htable, hi]
    rcases t.findColumn?_toRecord column with ⟨-, hj, hcolumn⟩ | ⟨j, c, -, hj, hc, hcolumn⟩
    · simp [bind, Except.bind, pure, Except.pure, hcolumn, ht, hj]
    · simp [bind, Except.bind, pure, Except.pure, hcolumn, ht, hj]

/-- The column that is referred to goes by the same name in the data. -/
theorem findColumn?_toRecord_getD (t : Table) (written : String) :
    ∃ found, t.toRecord.findColumn? (.text written) = .ok found ∧
      (found.map (·.2.name)).getD (.text written) =
        .text (((t.findColumn? written).map (·.name)).getD written) := by
  rcases t.findColumn?_toRecord written with ⟨hfind, -, h⟩ | ⟨j, c, hfind, -, -, h⟩
  · exact ⟨none, h, by rw [hfind]; rfl⟩
  · exact ⟨some (j, c.toRecord), h, by rw [hfind]; rfl⟩

/-- A pair is resolved in the data as in the schema. -/
theorem resolve?_toRecord (s : Schema) (i : Nat) (pair : Relationship) :
    s.toRecord.resolve? i pair = .ok ((s.resolve? i pair).map (·.toRecord)) := by
  rw [SchemaRecord.resolve?, resolve?, getElem?_toRecord]
  cases ht : s.tables[i]? with
  | none => rfl
  | some t =>
      simp only [Option.map_some, Option.bind_eq_bind, Option.bind_some]
      rcases t.findColumn?_toRecord pair.sourceColumn with
        ⟨-, hj, hcolumn⟩ | ⟨j, c, -, hj, hc, hcolumn⟩
      · rw [hcolumn, hj]
        rfl
      · rw [hcolumn, hj, Option.bind_some, hc, Option.bind_some]
        rcases s.findTable?_toRecord pair.targetTable with
          ⟨hfind, -, htable⟩ | ⟨k, target, hfind, -, -, htable⟩
        · simp only [ok_bind, htable, hfind]
          rfl
        · obtain ⟨found, hfound, hname⟩ := findColumn?_toRecord_getD target pair.targetColumn
          have hrelationship := Relationship.ofValues?_text t.name c.name target.name
            (((target.findColumn? pair.targetColumn).map (·.name)).getD pair.targetColumn)
          simp only [ok_bind, htable, hfind, hfound, hname]
          change ((Relationship.ofValues? (.text t.name) (.text c.name) (.text target.name) _) >>=
            _) = _
          rw [hrelationship, ok_bind, Option.bind_some]
          generalize Relationship.ofNames? _ _ _ _ = r?
          cases r? <;> rfl

theorem alteredTable?_toRecord (s : Schema) (a : TableAlteration) :
    s.toRecord.alteredTable? a = .ok (s.alteredTable? a) := by
  rw [SchemaRecord.alteredTable?, alteredTable?]
  cases a.name with
  | none => rfl
  | some name =>
      dsimp only
      split
      · rfl
      · rcases s.findTable?_toRecord (Identifier.clean name) with
          ⟨-, hi, htable⟩ | ⟨i, t, -, hi, -, htable⟩ <;> rw [htable, hi] <;> rfl

theorem alterationPairs_toRecord (s : Schema) (i : Nat) (a : TableAlteration) :
    s.toRecord.alterationPairs i a = s.alterationPairs i a := by
  rw [SchemaRecord.alterationPairs, alterationPairs, getElem?_toRecord]
  cases s.tables[i]? <;> rfl

/-! ### Inference -/

theorem keyName_toRecord (t : Table) : SchemaRecord.keyName t.toRecord = .text (keyName t) := by
  have hkeys : t.toRecord.primaryKeyColumns = t.primaryKeyColumns.map (·.toRecord) := by
    simp only [TableRecord.primaryKeyColumns, Table.toRecord, List.filter_map,
      Table.primaryKeyColumns]
    rfl
  rw [SchemaRecord.keyName, keyName, hkeys, List.head?_map]
  cases t.primaryKeyColumns.head? <;> rfl

theorem findSomeM?_eq_ok {ε α β : Type} {g : α → Except ε (Option β)} {h : α → Option β}
    (hg : ∀ a, g a = .ok (h a)) (as : List α) : as.findSomeM? g = .ok (as.findSome? h) := by
  induction as with
  | nil => rfl
  | cons a as ih =>
      rw [List.findSomeM?, hg, ok_bind, List.findSome?_cons]
      cases h a with
      | none => exact ih
      | some b => rfl

theorem forwardMatch?_toRecord (others : List Table) (base : String) :
    SchemaRecord.forwardMatch? (others.map (·.toRecord)) base =
      .ok ((forwardMatch? others base).map (·.toRecord)) := by
  have hname (t : Table) : t.toRecord.name = .text t.name := rfl
  rw [SchemaRecord.forwardMatch?, forwardMatch?, List.map_findSome?]
  refine findSomeM?_eq_ok (fun candidate => ?_) _
  rw [findNamed?_map hname, ok_bind, Function.comp_apply, List.find?_eq_bind_findIdx?_getElem?,
    Option.map_bind, Option.map_bind]
  simp only [Function.comp_def, Option.map_map]
  rfl

theorem reverseMatch?_toRecord (others : List Table) (base : String) :
    SchemaRecord.reverseMatch? (others.map (·.toRecord)) base =
      .ok ((reverseMatch? others base).map (·.toRecord)) := by
  rw [SchemaRecord.reverseMatch?, reverseMatch?]
  induction others with
  | nil => rfl
  | cons t others ih =>
      rw [List.map_cons, List.findM?, List.find?_cons]
      change (Except.ok ((Naming.singularForms t.name).contains base) >>= _) = _
      rw [ok_bind]
      cases (Naming.singularForms t.name).contains base with
      | true => rfl
      | false => exact ih

theorem match?_toRecord (others : List Table) (base : String) :
    SchemaRecord.match? (others.map (·.toRecord)) base =
      .ok ((match? others base).map (·.toRecord)) := by
  rw [SchemaRecord.match?, forwardMatch?_toRecord, ok_bind, match?]
  cases forwardMatch? others base with
  | none => exact reverseMatch?_toRecord others base
  | some t => rfl

theorem inferredLink?_toRecord (tables : List Table) (i : Nat) (t : Table) (j : Nat) (c : Column) :
    SchemaRecord.inferredLink? (tables.map (·.toRecord)) i t.toRecord j c.toRecord =
      .ok ((inferredLink? tables i t j c).map (·.toRecord)) := by
  have hname : c.toRecord.name.cased = .ok c.name := rfl
  have hothers : (tables.map (·.toRecord)).eraseIdx i = (otherTables tables i).map (·.toRecord) :=
    List.eraseIdx_map _ _ _
  have hkey : c.toRecord.isPrimaryKey = c.isPrimaryKey := rfl
  rw [SchemaRecord.inferredLink?, inferredLink?, hname, hothers, hkey]
  cases c.isPrimaryKey with
  | true => rfl
  | false =>
      have hguard : (guard ((!false) = true) : Option Unit) = some () := rfl
      rw [if_neg Bool.false_ne_true, hguard]
      simp only [ok_bind, Option.pure_def, Option.bind_eq_bind, Option.bind_some]
      cases Naming.base? c.name with
      | none => rfl
      | some base =>
          simp only [match?_toRecord, ok_bind, Option.bind_some]
          cases match? (otherTables tables i) base with
          | none => rfl
          | some target =>
              simp only [Option.map_some, keyName_toRecord, Option.bind_some]
              change (Relationship.ofValues? (.text t.name) (.text c.name) (.text target.name) _ >>=
                _) = _
              rw [Relationship.ofValues?_text, ok_bind]
              cases Relationship.ofNames? t.name c.name target.name (keyName target) <;> rfl

theorem inferredLinkAt?_toRecord (s : Schema) (position : Nat × Nat) :
    SchemaRecord.inferredLinkAt? position s.toRecord =
      .ok ((inferredLinkAt? s.tables position).map (·.toRecord)) := by
  rw [SchemaRecord.inferredLinkAt?, inferredLinkAt?, getElem?_toRecord]
  cases s.tables[position.1]? with
  | none => rfl
  | some t =>
      have hcolumn : t.toRecord.columns[position.2]? = t.columns[position.2]?.map (·.toRecord) :=
        List.getElem?_map
      simp only [Option.map_some, hcolumn, Option.bind_eq_bind, Option.bind_some]
      cases t.columns[position.2]? with
      | none => rfl
      | some c => exact inferredLink?_toRecord s.tables position.1 t position.2 c

theorem columnPositions_toRecord (s : Schema) :
    SchemaRecord.columnPositions s.toRecord.tables = columnPositions s.tables := by
  simp only [SchemaRecord.columnPositions, columnPositions, toRecord, List.zipIdx_map,
    List.flatMap_map, Table.toRecord, Prod.map, List.length_map, id]

end Schema

/-! ### Operations -/

theorem Store.look_bind {α : Type} {find : SchemaRecord → Except StoreError α} {s : SchemaRecord}
    {a : α} (h : find s = .ok a) (p : α → Store Unit) : (look find >>= p) s = p a s := by
  have hlook : look find s = .ok a s := by rw [look, h]
  change EStateM.bind (look find) p s = p a s
  rw [EStateM.bind, hlook]

/-- The operation succeeds on every schema with texts for names, and does there what the function
does. -/
def Store.Mirrors (p : Store Unit) (f : Schema → Schema) : Prop :=
  ∀ s, p s.toRecord = .ok () (f s).toRecord

namespace Store.Mirrors

theorem forM {α : Type} {p : α → Store Unit} {f : Schema → α → Schema}
    (h : ∀ a, (p a).Mirrors fun s => f s a) (as : List α) :
    (as.forM p).Mirrors fun s => as.foldl f s := by
  induction as with
  | nil => exact fun s => rfl
  | cons a as ih =>
      intro s
      change EStateM.bind (p a) (fun _ => as.forM p) s.toRecord = _
      rw [EStateM.bind, h a s]
      exact ih (f s a)

theorem change {f : SchemaRecord → SchemaRecord} {g : Schema → Schema}
    (h : ∀ s : Schema, (g s).toRecord = f s.toRecord) : Mirrors (modify f) g :=
  fun s => congrArg (EStateM.Result.ok ()) (h s).symm

theorem skip : Mirrors (pure ()) fun s => s := fun _ => rfl

theorem addFound (overwrite : Bool)
    {link? : SchemaRecord → Except StoreError (Option LinkRecord)}
    {l? : Schema → Option Schema.Link}
    (h : ∀ s : Schema, link? s.toRecord = .ok ((l? s).map (·.toRecord))) :
    (Store.addFound overwrite link?).Mirrors fun s => (l? s).elim s (s.addLink overwrite) := by
  intro s
  refine (Store.look_bind (h s) _).trans ?_
  change _ = EStateM.Result.ok () ((l? s).elim s (s.addLink overwrite)).toRecord
  cases l? s with
  | none => rfl
  | some l => exact congrArg (EStateM.Result.ok ()) (s.toRecord_addLink overwrite l).symm

theorem markForeignKey (table column : String) (target : ColumnReference) (overwrite : Bool) :
    (Store.markForeignKey (.text table) (.text column) target.toRecord overwrite).Mirrors
      (·.markForeignKey table column target overwrite) := by
  intro s
  refine (Store.look_bind (s.columnPosition?_toRecord table column) _).trans ?_
  change _ = EStateM.Result.ok () (s.markForeignKey table column target overwrite).toRecord
  rw [Schema.markForeignKey]
  cases s.columnPosition? table column with
  | none => rfl
  | some position =>
      exact congrArg (EStateM.Result.ok ()) (s.toRecord_markAt _ _ target overwrite).symm

/-! ### Stages -/

theorem addPair (i : Nat) (pair : Relationship) :
    (Store.addPair i pair).Mirrors (Schema.addPair i · pair) :=
  addFound false fun s => s.resolve?_toRecord i pair

theorem alterTable (a : TableAlteration) : (Store.alterTable a).Mirrors (·.alterTable a) := by
  intro s
  refine (Store.look_bind (s.alteredTable?_toRecord a) _).trans ?_
  change _ = EStateM.Result.ok () (s.alterTable a).toRecord
  rw [Schema.alterTable]
  cases s.alteredTable? a with
  | none => rfl
  | some i =>
      change (s.toRecord.alterationPairs i a).forM (Store.addPair i) s.toRecord = _
      rw [s.alterationPairs_toRecord]
      exact forM (addPair i) _ s

theorem alter (statements : List Statement) :
    (Store.alter statements).Mirrors (·.alter statements) := by
  refine forM (fun statement => ?_) statements
  cases statement with
  | alterTable a => exact alterTable a
  | _ => exact skip

theorem infer : Store.infer.Mirrors Schema.infer := by
  intro s
  have hlength : s.toRecord.tables.length = s.tables.length := List.length_map _
  have hempty : s.toRecord.relationships.isEmpty = s.relationships.isEmpty := List.isEmpty_map
  change (if s.toRecord.relationships.isEmpty && 2 ≤ s.toRecord.tables.length then
    (SchemaRecord.columnPositions s.toRecord.tables).forM fun position =>
      Store.addFound true (SchemaRecord.inferredLinkAt? position)
    else pure () : Store Unit) s.toRecord = _
  rw [hlength, hempty, s.columnPositions_toRecord, Schema.infer]
  split
  · exact forM (fun position => addFound true fun s => s.inferredLinkAt?_toRecord position) _ s
  · rfl

end Store.Mirrors

namespace Schema

def Operation.toRecord : Operation → SchemaRecord.Operation
  | addTable t => .addTable t.toRecord
  | addRelationship r => .addRelationship r.toRecord
  | removeRelationshipsFrom table => .removeRelationshipsFrom (.text table)
  | markForeignKey table column target overwrite =>
    .markForeignKey (.text table) (.text column) target.toRecord overwrite
  | markAt table column target overwrite => .markAt table column target.toRecord overwrite
  | runStage (.declare statements) => .declare statements
  | runStage (.alter statements) => .alter statements
  | runStage .infer => .infer

theorem mirrors_run (o : Operation) : o.toRecord.run.Mirrors fun s => o.apply s := by
  cases o with
  | addTable t => exact .change fun s => t.toRecord_normalize ▸ s.toRecord_addTable t.normalize
  | addRelationship r =>
      exact .change fun s => r.toRecord_normalize ▸ s.toRecord_addRelationship r.normalize
  | removeRelationshipsFrom table =>
      exact .change fun s => s.toRecord_removeRelationshipsFrom table
  | markForeignKey table column target overwrite =>
      exact .markForeignKey table column target overwrite
  | markAt i j target overwrite => exact .change fun s => s.toRecord_markAt i j target overwrite
  | runStage stage =>
      cases stage with
      | declare statements => exact .change fun s => s.toRecord_declare statements
      | alter statements => exact .alter statements
      | infer => exact .infer

/-- On data with texts for names no operation fails, and what is left is what the operations leave
of the schema. -/
theorem toRecord_operate (s : Schema) (operations : List Operation) :
    (s.operate operations).toRecord = s.toRecord.operate (operations.map (·.toRecord)) := by
  induction operations generalizing s with
  | nil => rfl
  | cons o operations ih =>
      have hfirst : o.toRecord.run.after s.toRecord = (o.apply s).toRecord := by
        rw [Store.after, mirrors_run o s]
      rw [operate, List.foldl_cons, List.map_cons, SchemaRecord.operate, List.foldl_cons, hfirst]
      exact ih (o.apply s)

end Schema

end EntityMap
