import EntityMap.Declaration.Alteration
import EntityMap.Declaration.Table
import EntityMap.Inference.Relationship
import EntityMap.Record.Store

/-!
The stages of building a schema, on data. Statements have texts for names, but a schema that is
already there need not, so that looking something up may fail.
-/

namespace EntityMap

open SchemaRecord

/-! ### Declarations -/

namespace SchemaRecord

def declareTable (s : SchemaRecord) (d : TableDefinition) : SchemaRecord :=
  let (table, relationships) := d.build
  let name := Value.text table.name
  let s := if s.hasTable name then s.removeRelationshipsFrom name else s
  relationships.foldl (fun s r => s.addRelationship r.toRecord) (s.addTable table.toRecord)

def declare (s : SchemaRecord) (statements : List Statement) : SchemaRecord :=
  statements.foldl (fun s statement => match statement with
    | .createTable d => s.declareTable d
    | _ => s) s

/-! ### Alterations -/

def resolve? (s : SchemaRecord) (tableIndex : Nat) (pair : Relationship) :
    Except StoreError (Option LinkRecord) := do
  let some table := s.tables[tableIndex]? | return none
  let some (columnIndex, column) ← table.findColumn? (.text pair.sourceColumn) | return none
  let some (_, target) ← s.findTable? (.text pair.targetTable) | return none
  let found ← target.findColumn? (.text pair.targetColumn)
  let targetColumn := (found.map (·.2.name)).getD (.text pair.targetColumn)
  let some relationship ←
    Relationship.ofValues? table.name column.name target.name targetColumn | return none
  return some ⟨tableIndex, columnIndex, relationship.toRecord, relationship.target.toRecord⟩

def alteredTable? (s : SchemaRecord) (a : TableAlteration) : Except StoreError (Option Nat) :=
  match a.name with
  | none => .ok none
  | some name =>
    if name = "" then .ok none
    else (s.findTable? (.text (Identifier.clean name))).map (·.map (·.1))

/-- The pairs of an alteration of the table at a position. It has been found by its name, so that
is a text. -/
def alterationPairs (s : SchemaRecord) (tableIndex : Nat) (a : TableAlteration) :
    List Relationship :=
  a.foreignKeys.flatMap
    (ForeignKeyClause.relationships ((s.tables[tableIndex]?.bind (·.name.text?)).getD ""))

end SchemaRecord

namespace Store

def addPair (tableIndex : Nat) (pair : Relationship) : Store Unit :=
  addFound false (·.resolve? tableIndex pair)

def alterTable (a : TableAlteration) : Store Unit := do
  match ← look (·.alteredTable? a) with
  | some i => ((← get).alterationPairs i a).forM (addPair i)
  | none => return

def alter (statements : List Statement) : Store Unit :=
  statements.forM fun
    | .alterTable a => alterTable a
    | _ => return

end Store

/-! ### Inference -/

namespace SchemaRecord

def forwardMatch? (others : List TableRecord) (base : String) :
    Except StoreError (Option TableRecord) :=
  (Naming.candidates base).findSomeM? fun candidate =>
    return (← findNamed? (·.name) candidate others).map (·.2)

def reverseMatch? (others : List TableRecord) (base : String) :
    Except StoreError (Option TableRecord) :=
  others.findM? fun t => return (Naming.singularForms (← t.name.cased)).contains base

def match? (others : List TableRecord) (base : String) :
    Except StoreError (Option TableRecord) := do
  match ← forwardMatch? others base with
  | some t => return some t
  | none => reverseMatch? others base

def keyName (t : TableRecord) : Value :=
  (t.primaryKeyColumns.head?.map (·.name)).getD (.text Schema.fallbackKey)

/-- The link inferred for a column, given by positions. The names of the other tables are looked at,
but not that of its own. -/
def inferredLink? (tables : List TableRecord) (i : Nat) (t : TableRecord) (j : Nat)
    (c : ColumnRecord) : Except StoreError (Option LinkRecord) := do
  if c.isPrimaryKey then return none
  let some base := Naming.base? (← c.name.cased) | return none
  let some target ← match? (tables.eraseIdx i) base | return none
  let key := keyName target
  let some relationship ← Relationship.ofValues? t.name c.name target.name key | return none
  return some ⟨i, j, relationship.toRecord, ⟨target.name, key⟩⟩

def inferredLinkAt? (position : Nat × Nat) (s : SchemaRecord) :
    Except StoreError (Option LinkRecord) := do
  let some table := s.tables[position.1]? | return none
  let some column := table.columns[position.2]? | return none
  inferredLink? s.tables position.1 table position.2 column

def columnPositions (tables : List TableRecord) : List (Nat × Nat) :=
  tables.zipIdx.flatMap fun (t, i) => (List.range t.columns.length).map (i, ·)

end SchemaRecord

/-- Adds the inferred relationships to a schema that has none and more than one table, one column
after another. -/
def Store.infer : Store Unit := do
  let s ← get
  if s.relationships.isEmpty && 2 ≤ s.tables.length then
    (columnPositions s.tables).forM fun position => addFound true (inferredLinkAt? position)

end EntityMap
