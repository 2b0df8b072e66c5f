import EntityMap.Proofs.Inference.Naming
import EntityMap.Proofs.Inference.Relationship
import EntityMap.Proofs.Schema.Part

/-!
Inference without regard to the order of tables. If no two tables have the same name, case aside,
then each search for a table has at most one result, and what is inferred for the columns of one
table depends on which other tables there are, not on where they stand.
-/

namespace EntityMap.Schema

open Identifier Relationship

variable {s s' : Schema} {tables others others' : List Table} {t : Table} {base : String}

theorem forwardMatch?_eq_of_perm (h : others.Perm others')
    (hd : (others.map fun t => Text.lower t.name).Nodup) :
    forwardMatch? others base = forwardMatch? others' base := by
  have hfind (candidate : String) : (others.find? fun t => Text.lower t.name == candidate) =
      others'.find? fun t => Text.lower t.name == candidate := find?_key_eq_of_perm h hd candidate
  simp only [forwardMatch?, hfind]

theorem lower_notMem_candidates_of_forwardMatch? (h : forwardMatch? others base = none)
    (ht : t ∈ others) : Text.lower t.name ∉ Naming.candidates base := by
  intro hmem
  have hnone := List.findSome?_eq_none_iff.mp h _ hmem
  exact List.find?_eq_none.mp hnone t ht (by simp)

/-- The reverse search is made only if the forward search fails, and then just one name is left
that it can find. -/
theorem match?_eq_of_perm (h : others.Perm others')
    (hd : (others.map fun t => Text.lower t.name).Nodup) (hbase : '\n' ∉ base.toList) :
    match? others base = match? others' base := by
  rw [match?, match?, ← forwardMatch?_eq_of_perm h hd]
  cases hforward : forwardMatch? others base with
  | some t => rfl
  | none =>
      have hname {t : Table} (ht : t ∈ others)
          (hmatch : (Naming.singularForms t.name).contains base = true) :
          ∃ stem, Text.lower t.name = stem ++ "ies" ∧ base = stem ++ "y" :=
        (Naming.mem_candidates_or_of_mem_singularForms (List.contains_iff_mem.mp hmatch)
          hbase).resolve_left (lower_notMem_candidates_of_forwardMatch? hforward ht)
      rw [Option.none_or, Option.none_or]
      refine find?_eq_of_perm h fun t ht u hu htmatch humatch => ?_
      obtain ⟨stem, htname, hstem⟩ := hname ht htmatch
      obtain ⟨stem', huname, hstem'⟩ := hname hu humatch
      have hsame : stem = stem' := by
        rw [hstem', ← String.toList_inj, String.toList_append, String.toList_append] at hstem
        exact (String.toList_inj.mp (List.append_cancel_right hstem)).symm
      exact List.inj_on_of_nodup_map hd ht hu (by rw [htname, huname, hsame])

/-! ### What is inferred for one table -/

def inferred? (others : List Table) (t : Table) (c : Column) : Option Relationship :=
  if c.isPrimaryKey then none
  else (Naming.base? c.name).bind fun base => (match? others base).bind fun target =>
    ofNames? t.name c.name target.name (keyName target)

def inferredFrom (others : List Table) (t : Table) : List (Nat × Relationship) :=
  t.columns.zipIdx.filterMap fun (c, j) => (inferred? others t c).map (j, ·)

theorem inferred?_eq_of_perm (h : others.Perm others')
    (hd : (others.map fun t => Text.lower t.name).Nodup) (c : Column) :
    inferred? others t c = inferred? others' t c := by
  rw [inferred?, inferred?]
  cases hbase : Naming.base? c.name with
  | none => rfl
  | some base =>
      rw [Option.bind_some, Option.bind_some,
        match?_eq_of_perm h hd (Naming.newline_notMem_of_base? hbase)]

theorem inferredFrom_eq_of_perm (h : others.Perm others')
    (hd : (others.map fun t => Text.lower t.name).Nodup) (t : Table) :
    inferredFrom others t = inferredFrom others' t := by
  simp only [inferredFrom, inferred?_eq_of_perm h hd]

theorem of_mem_inferredFrom {p : Nat × Relationship} (h : p ∈ inferredFrom others t) :
    p.2.WellFormed ∧ p.2.sourceTable = clean t.name := by
  obtain ⟨⟨c, j⟩, -, hp⟩ := List.mem_filterMap.mp h
  obtain ⟨r, hr, rfl⟩ := Option.map_eq_some_iff.mp hp
  rw [inferred?, Option.ite_none_left_eq_some] at hr
  obtain ⟨base, -, target, -, hr⟩ := by
    simpa only [Option.bind_eq_some_iff] using hr.2
  exact ⟨wellFormed_of_ofNames? hr, by rw [← (ofNames?_eq_some_iff.mp hr).2]; rfl⟩

theorem map_placed_inferredLink? {i j : Nat} {c : Column} :
    (inferredLink? tables i t j c).map Link.placed =
      (inferred? (otherTables tables i) t c).map (j, ·) := by
  rw [inferred?]
  cases hkey : c.isPrimaryKey with
  | true =>
      rw [inferredLink?_of_primaryKey hkey]
      rfl
  | false =>
      rw [inferredLink?_of_not_primaryKey hkey, if_neg Bool.false_ne_true]
      simp only [Option.map_bind, Option.map_map, Function.comp_def, Link.placed]

/-- The tables other than the one at a position are those of another name. -/
theorem map_placed_inferredLinks (hs : (tables.map (·.name)).Nodup) :
    (inferredLinks tables).map Link.placed =
      tables.flatMap fun t => inferredFrom (tables.filter (·.name != t.name)) t := by
  have hfrom : ∀ x ∈ tables.zipIdx,
      (x.1.columns.zipIdx.filterMap fun (c, j) => inferredLink? tables x.2 x.1 j c).map
        Link.placed = inferredFrom (tables.filter (·.name != x.1.name)) x.1 := by
    intro x hx
    have ht : tables[x.2]? = some x.1 := List.mem_zipIdx_iff_getElem?.mp hx
    simp only [List.map_filterMap, map_placed_inferredLink?, otherTables,
      eraseIdx_eq_filter_of_nodup hs ht]
    rfl
  have hindex (g : Table → List (Nat × Relationship)) :
      tables.zipIdx.flatMap (fun x => g x.1) = tables.flatMap g := by
    rw [← List.flatMap_map Prod.fst g, List.zipIdx_map_fst]
  rw [inferredLinks, List.map_flatMap, List.flatMap_congr hfrom]
  exact hindex fun t => inferredFrom (tables.filter (·.name != t.name)) t

end EntityMap.Schema
