import Mathlib.Data.List.Nodup
import EntityMap.Schema.Basic

/-!
Collections of relationships with one relationship for each id. They are built by appending, and
what is appended is lost only if its id is already there.
-/

namespace EntityMap.Relationship

variable {rs qs : List Relationship} {r : Relationship}

def ids (rs : List Relationship) : List String := rs.map (·.id)

@[simp] theorem ids_nil : ids [] = [] := rfl

@[simp] theorem ids_append (rs qs : List Relationship) : ids (rs ++ qs) = ids rs ++ ids qs :=
  List.map_append

theorem mem_ids {id : String} : id ∈ ids rs ↔ ∃ r ∈ rs, r.id = id := List.mem_map

theorem id_mem_ids (h : r ∈ rs) : r.id ∈ ids rs := List.mem_map_of_mem h

theorem any_id_eq_iff {id : String} : rs.any (·.id == id) = true ↔ id ∈ ids rs := by
  simp [ids]

theorem appendUnique_of_mem (h : r.id ∈ ids rs) : appendUnique rs r = rs := by
  rw [appendUnique, if_pos (any_id_eq_iff.mpr h)]

theorem appendUnique_of_notMem (h : r.id ∉ ids rs) : appendUnique rs r = rs ++ [r] := by
  rw [appendUnique, if_neg (mt any_id_eq_iff.mp h)]

theorem mem_ids_appendUnique {id : String} :
    id ∈ ids (appendUnique rs r) ↔ id ∈ ids rs ∨ id = r.id := by
  by_cases h : r.id ∈ ids rs
  · rw [appendUnique_of_mem h]
    exact ⟨Or.inl, fun h' => h'.elim (fun hid => hid) fun e => e ▸ h⟩
  · rw [appendUnique_of_notMem h]
    simp [ids]

theorem mem_or_eq_of_mem_appendUnique {q : Relationship} (h : r ∈ appendUnique rs q) :
    r ∈ rs ∨ r = q := by
  by_cases hq : q.id ∈ ids rs
  · rw [appendUnique_of_mem hq] at h
    exact Or.inl h
  · rw [appendUnique_of_notMem hq, List.mem_append, List.mem_singleton] at h
    exact h

/-- Where the new id tells which relationship it is, nothing is lost. -/
theorem mem_appendUnique_iff {q : Relationship} (hinj : ∀ a ∈ rs, a.id = q.id → a = q) :
    r ∈ appendUnique rs q ↔ r ∈ rs ∨ r = q := by
  refine ⟨mem_or_eq_of_mem_appendUnique, fun h => ?_⟩
  by_cases hq : q.id ∈ ids rs
  · obtain ⟨a, ha, he⟩ := mem_ids.mp hq
    rw [appendUnique_of_mem hq]
    exact h.elim (fun hr => hr) fun hr => hr ▸ hinj a ha he ▸ ha
  · rw [appendUnique_of_notMem hq]
    simpa using h

theorem ids_nodup_appendUnique (h : (ids rs).Nodup) : (ids (appendUnique rs r)).Nodup := by
  by_cases hr : r.id ∈ ids rs
  · rwa [appendUnique_of_mem hr]
  · rw [appendUnique_of_notMem hr, ids_append]
    refine List.nodup_append.mpr ⟨h, List.nodup_singleton _, ?_⟩
    intro a ha b hb hab
    rw [hab, List.mem_singleton.mp hb] at ha
    exact hr ha

/-! ### Appending several relationships -/

theorem ids_nodup_foldl (h : (ids rs).Nodup) : (ids (qs.foldl appendUnique rs)).Nodup := by
  induction qs generalizing rs with
  | nil => exact h
  | cons q qs ih => exact ih (ids_nodup_appendUnique h)

theorem mem_ids_foldl {id : String} :
    id ∈ ids (qs.foldl appendUnique rs) ↔ id ∈ ids rs ∨ id ∈ ids qs := by
  induction qs generalizing rs with
  | nil => simp
  | cons q qs ih =>
      rw [List.foldl_cons, ih, mem_ids_appendUnique]
      simp [ids, or_assoc, eq_comm]

/-- Only what is appended is added, in its order. -/
theorem foldl_appendUnique_sublist : (qs.foldl appendUnique rs).Sublist (rs ++ qs) := by
  induction qs generalizing rs with
  | nil => simp
  | cons q qs ih =>
      refine ih.trans ?_
      by_cases hq : q.id ∈ ids rs
      · rw [appendUnique_of_mem hq]
        exact (List.sublist_cons_self q qs).append_left rs
      · rw [appendUnique_of_notMem hq, List.append_assoc]
        rfl

theorem foldl_appendUnique_eq_nil_iff : qs.foldl appendUnique [] = [] ↔ qs = [] := by
  cases qs with
  | nil => simp
  | cons q qs =>
      refine iff_of_false (fun h => ?_) (List.cons_ne_nil q qs)
      have hid : q.id ∈ ids ((q :: qs).foldl appendUnique []) :=
        mem_ids_foldl.mpr (Or.inr (id_mem_ids List.mem_cons_self))
      rw [h] at hid
      contradiction

theorem mem_or_mem_of_mem_foldl (h : r ∈ qs.foldl appendUnique rs) : r ∈ rs ∨ r ∈ qs := by
  induction qs generalizing rs with
  | nil => exact Or.inl h
  | cons q qs ih =>
      rcases ih h with h | h
      · exact (mem_or_eq_of_mem_appendUnique h).imp_right fun e => by simp [e]
      · exact Or.inr (List.mem_cons_of_mem q h)

theorem mem_foldl_iff
    (hinj : ∀ a ∈ rs ++ qs, ∀ b ∈ rs ++ qs, a.id = b.id → a = b) :
    r ∈ qs.foldl appendUnique rs ↔ r ∈ rs ∨ r ∈ qs := by
  refine ⟨mem_or_mem_of_mem_foldl, fun h => ?_⟩
  have hid : r.id ∈ ids (qs.foldl appendUnique rs) :=
    mem_ids_foldl.mpr (h.imp id_mem_ids id_mem_ids)
  obtain ⟨r', hr', he⟩ := mem_ids.mp hid
  have hmem : r' ∈ rs ++ qs := List.mem_append.mpr (mem_or_mem_of_mem_foldl hr')
  rwa [← hinj r' hmem r (List.mem_append.mpr h) he]

/-- Relationships with new and distinct ids are all appended, in their order. -/
theorem foldl_appendUnique_of_nodup (h : (ids (rs ++ qs)).Nodup) :
    qs.foldl appendUnique rs = rs ++ qs := by
  induction qs generalizing rs with
  | nil => simp
  | cons q qs ih =>
      have hq : q.id ∉ ids rs := fun hmem => by
        rw [ids_append] at h
        exact (List.nodup_append.mp h).2.2 q.id hmem q.id (by simp [ids]) rfl
      rw [List.foldl_cons, appendUnique_of_notMem hq, ih]
      · simp
      · simpa using h

/-! ### The first of each id -/

/-- The first relationship of each id, in their order. -/
def firsts : List Relationship → List Relationship
  | [] => []
  | r :: rs => r :: (firsts rs).filter (·.id ≠ r.id)

/-- What is appended is the first of each id, as far as its id is new. -/
theorem foldl_appendUnique_eq_append (rs qs : List Relationship) :
    qs.foldl appendUnique rs = rs ++ (firsts qs).filter (·.id ∉ ids rs) := by
  induction qs generalizing rs with
  | nil => simp [firsts]
  | cons q qs ih =>
      rw [List.foldl_cons, ih, firsts, List.filter_cons, List.filter_filter]
      by_cases hq : q.id ∈ ids rs
      · rw [appendUnique_of_mem hq, if_neg (by simpa using hq)]
        congr 1
        refine List.filter_congr fun r _ => ?_
        have hne : r.id ∉ ids rs → r.id ≠ q.id := fun hr he => hr (he ▸ hq)
        simpa using hne
      · rw [appendUnique_of_notMem hq, if_pos (by simpa using hq), List.append_assoc,
          List.singleton_append]
        congr 2
        refine List.filter_congr fun r _ => ?_
        simp [ids, eq_comm]

theorem foldl_appendUnique_nil (qs : List Relationship) : qs.foldl appendUnique [] = firsts qs := by
  simp [foldl_appendUnique_eq_append]

end EntityMap.Relationship
