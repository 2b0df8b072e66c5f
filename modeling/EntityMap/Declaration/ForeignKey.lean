import EntityMap.Schema.Basic
import EntityMap.Statement

/-!
Foreign key clauses as relationships. Source and referenced columns are paired by position, and a
pair with an empty name is dropped.
-/

namespace EntityMap.ForeignKeyClause

/-- The relationships of a clause of the given table. Columns beyond the shorter list have no
partner. -/
def relationships (sourceTable : String) (clause : ForeignKeyClause) : List Relationship :=
  (clause.columns.zip clause.referencesColumns).filterMap fun (column, target) =>
    Relationship.ofNames? sourceTable column clause.referencesTable target

end EntityMap.ForeignKeyClause
