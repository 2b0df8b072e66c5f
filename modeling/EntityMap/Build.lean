import EntityMap.Declaration.Alteration
import EntityMap.Declaration.Table
import EntityMap.Inference.Relationship

/-!
Building a schema from the statements of a script.
-/

namespace EntityMap.Schema

/-- Tables first, then the foreign keys added later, then what the names suggest if no relationship
was found. -/
def build (statements : List Statement) : Schema :=
  ((empty.declare statements).alter statements).infer

end EntityMap.Schema
