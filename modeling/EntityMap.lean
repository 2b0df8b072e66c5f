import EntityMap.Journal
import EntityMap.TypeFamily
import EntityMap.Proofs.Declaration.Column
import EntityMap.Proofs.Declaration.Permutation
import EntityMap.Proofs.Form
import EntityMap.Proofs.Inference.Effect
import EntityMap.Proofs.Inference.Explicit
import EntityMap.Proofs.Inference.Priority
import EntityMap.Proofs.Order
import EntityMap.Proofs.Reach
import EntityMap.Proofs.Record.Agreement
import EntityMap.Proofs.Regeneration
import EntityMap.Proofs.Reloading
import EntityMap.Proofs.Repetition
import EntityMap.Proofs.Script.LineEnd
import EntityMap.Proofs.Script.Stripping
import EntityMap.Proofs.Service.Agreement
import EntityMap.Proofs.Spelling
import EntityMap.Proofs.Sql.Pairing
import EntityMap.Proofs.Declaration.Found
import EntityMap.Proofs.Relationship.Distinction
import EntityMap.Proofs.Schema.Defect
import EntityMap.Proofs.TypeFamily
