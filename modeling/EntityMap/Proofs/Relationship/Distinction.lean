import EntityMap.Proofs.Declaration.Table
import EntityMap.Proofs.KeyedList
import EntityMap.Proofs.Schema.Link

/-!
Dropping duplicates by id. A relationship is dropped where its id is there already. If ids are made
of names that can be read from them, it is then there itself, up to its type:
`Relationship.idOf_tells_endpoints` says so of ids, of the relationships that are added to a schema,
and of those that a table is declared with.
-/

namespace EntityMap

open Identifier

namespace Relationship

variable {r q : Relationship} {rs : List Relationship}

def endpoints (r : Relationship) : String × String × String × String :=
  (r.sourceTable, r.sourceColumn, r.targetTable, r.targetColumn)

instance (r : Relationship) : Decidable r.Legible :=
  decidable_of_iff (Dotless r.sourceTable ∧ Arrowless r.sourceColumn ∧ Dotless r.targetTable)
    ⟨fun ⟨hs, hc, ht⟩ => ⟨hs, hc, ht⟩, fun ⟨hs, hc, ht⟩ => ⟨hs, hc, ht⟩⟩

/-- The id is made of the names, which can be read from it. -/
def Identified (r : Relationship) : Prop :=
  r.id = idOf r.sourceTable r.sourceColumn r.targetTable r.targetColumn ∧ r.Legible

instance (r : Relationship) : Decidable r.Identified := inferInstanceAs (Decidable (_ ∧ _))

theorem Identified.id_eq_iff (hr : r.Identified) (hq : q.Identified) :
    r.id = q.id ↔ r.endpoints = q.endpoints := by
  obtain ⟨hid, hl⟩ := hr
  obtain ⟨hid', hl'⟩ := hq
  rw [hid, hid', idOf_inj hl.sourceTable hl'.sourceTable hl.sourceColumn hl'.sourceColumn
    hl.targetTable hl'.targetTable]
  simp only [endpoints, Prod.mk.injEq]

theorem id_mem_ids_iff (hr : r.Identified) (hrs : ∀ q ∈ rs, q.Identified) :
    r.id ∈ ids rs ↔ r.endpoints ∈ rs.map endpoints := by
  rw [mem_ids, List.mem_map]
  refine exists_congr fun q => and_congr_right fun hq => ?_
  exact (hrs q hq).id_eq_iff hr

/-- Where ids tell relationships apart, each relationship is kept once, at its first place. -/
theorem foldl_appendUnique_eq_eraseDups (hinj : ∀ a ∈ rs, ∀ b ∈ rs, a.id = b.id → a = b) :
    rs.foldl appendUnique [] = rs.eraseDups := by
  induction rs using List.reverseRecOn with
  | nil => rfl
  | append_singleton rs r ih =>
      have hrs : rs.foldl appendUnique [] = rs.eraseDups := ih fun a ha b hb =>
        hinj a (List.mem_append_left _ ha) b (List.mem_append_left _ hb)
      have hid : r.id ∈ ids rs.eraseDups ↔ r ∈ rs := by
        simp only [mem_ids, List.mem_eraseDups]
        refine ⟨fun ⟨q, hq, he⟩ => ?_, fun hr => ⟨r, hr, rfl⟩⟩
        exact hinj q (List.mem_append_left _ hq) r (by simp) he ▸ hq
      rw [List.foldl_concat, hrs, eraseDups_append_singleton]
      split
      · next hr => exact appendUnique_of_mem (hid.mpr hr)
      · next hr => exact appendUnique_of_notMem (mt hid.mp hr)

/-- No two relationships share an id, as long as the names in front of a separator do not contain
it. Then a relationship that is added to a schema is dropped just if the schema has one between the
same columns, and a declared table has each relationship that is written, once and at its first
place. -/
theorem idOf_tells_endpoints :
    (∀ {s c t d s' c' t' d' : String}, Dotless s → Dotless s' → Arrowless c → Arrowless c' →
      Dotless t → Dotless t' → idOf s c t d = idOf s' c' t' d' →
        (s, c, t, d) = (s', c', t', d')) ∧
    (∀ (s : Schema) (r : Relationship), r.Identified → (∀ q ∈ s.relationships, q.Identified) →
      (s.hasRelationship r.id = true ↔ r.endpoints ∈ s.relationships.map endpoints) ∧
      s.addRelationship r = if r.endpoints ∈ s.relationships.map endpoints then s
        else { s with relationships := s.relationships ++ [r] }) ∧
    ∀ d : TableDefinition, (∀ r ∈ d.writtenPairs, r.Legible) →
      d.build.2 = d.writtenPairs.eraseDups := by
  refine ⟨fun hs hs' hc hc' ht ht' h => ?_, fun s r hr hrs => ?_, fun d hd => ?_⟩
  · obtain ⟨rfl, rfl, rfl, rfl⟩ := (idOf_inj hs hs' hc hc' ht ht').mp h
    rfl
  · have hid := id_mem_ids_iff hr hrs
    refine ⟨Schema.hasRelationship_iff.trans hid, ?_⟩
    rw [Schema.addRelationship]
    split
    · next hmem => rw [appendUnique_of_mem (hid.mpr hmem)]
    · next hmem => rw [appendUnique_of_notMem (mt hid.mp hmem)]
  · rw [TableDefinition.build_snd]
    refine foldl_appendUnique_eq_eraseDups fun a ha b hb he => ?_
    exact eq_of_id_eq (TableDefinition.of_mem_writtenPairs ha).1.canonical
      (TableDefinition.of_mem_writtenPairs hb).1.canonical (hd a ha) (hd b hb) he

/-- A table whose columns and referenced tables have names with halves of the arrow in them. One of
its foreign keys is written twice. -/
def dashedOrders : TableDefinition where
  name := some "`orders`"
  columns := [ColumnDefinition.named "user-",
    { ColumnDefinition.named "user" with reference := some ⟨[], "->users", ["id"]⟩ }]
  primaryKeys := []
  foreignKeys := [⟨["user-", "user"], ">users", ["id", "id->key"]⟩, ⟨["[user-]"], "[>users]", ["id"]⟩]

/-- What ends in a half of the arrow is told from what starts with one. -/
theorem idOf_tells_endpoints_dashedOrders :
    let first := between "orders" "user-" ">users" "id"
    let second := between "orders" "user" ">users" "id->key"
    let third := between "orders" "user" "->users" "id"
    first.Identified ∧ second.Identified ∧ third.Identified ∧ first.id ≠ third.id ∧
      (Schema.mk [] [first, third]).addRelationship second = ⟨[], [first, third, second]⟩ ∧
      (∀ r ∈ dashedOrders.writtenPairs, r.Legible) ∧
      dashedOrders.writtenPairs = [first, second, first, third] ∧
      dashedOrders.build.2 = [first, second, third] := by
  intro first second third
  have hfirst : first.Identified := by decide +kernel
  have hsecond : second.Identified := by decide +kernel
  have hthird : third.Identified := by decide +kernel
  have hids : first.id ≠ third.id := fun h => by
    have hsame := idOf_tells_endpoints.1 hfirst.2.sourceTable hthird.2.sourceTable
      hfirst.2.sourceColumn hthird.2.sourceColumn hfirst.2.targetTable hthird.2.targetTable h
    exact absurd hsame (by decide)
  have hlegible : ∀ r ∈ dashedOrders.writtenPairs, r.Legible := by decide +kernel
  have hwritten : dashedOrders.writtenPairs = [first, second, first, third] := by decide +kernel
  refine ⟨hfirst, hsecond, hthird, hids, ?_, hlegible, hwritten, ?_⟩
  · rw [(idOf_tells_endpoints.2.1 ⟨[], [first, third]⟩ second hsecond (by simp [hfirst, hthird])).2]
    decide
  · rw [idOf_tells_endpoints.2.2 dashedOrders hlegible, hwritten]
    decide

end Relationship

end EntityMap
