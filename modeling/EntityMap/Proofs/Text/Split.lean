import EntityMap.Text.Blank
import Mathlib.Data.List.Basic

/-!
Texts taken apart at a separator and put together again, which undo each other.
-/

namespace EntityMap.Text

variable {separator : Char}

theorem splitAt_eq_splitOn (separator : Char) (s : List Char) :
    splitAt separator s = s.splitOn separator := by
  induction s with
  | nil => rfl
  | cons c rest ih =>
      rw [splitAt, ih, List.splitOn_cons_eq_if_modifyHead]
      simp only [beq_iff_eq]
      split
      · rfl
      · cases hparts : rest.splitOn separator with
        | nil => exact absurd hparts (List.splitOn_ne_nil separator rest)
        | cons part parts => rfl

theorem joinWith_cons {parts : List (List Char)} (hne : parts ≠ []) (part : List Char) :
    joinWith separator (part :: parts) = part ++ separator :: joinWith separator parts := by
  cases parts with
  | nil => contradiction
  | cons next parts => rfl

theorem joinWith_eq_intercalate (separator : Char) (parts : List (List Char)) :
    joinWith separator parts = [separator].intercalate parts := by
  induction parts with
  | nil => rfl
  | cons part parts ih =>
      cases parts with
      | nil => simp [joinWith]
      | cons next parts =>
          rw [joinWith_cons (List.cons_ne_nil next parts), ih, List.intercalate_cons_cons,
            List.append_assoc, List.singleton_append]

theorem splitAt_ne_nil (separator : Char) (s : List Char) : splitAt separator s ≠ [] := by
  rw [splitAt_eq_splitOn]
  exact List.splitOn_ne_nil separator s

@[simp] theorem joinWith_splitAt (separator : Char) (s : List Char) :
    joinWith separator (splitAt separator s) = s := by
  rw [splitAt_eq_splitOn, joinWith_eq_intercalate, List.intercalate_splitOn]

theorem splitAt_joinWith {parts : List (List Char)} (hne : parts ≠ [])
    (h : ∀ part ∈ parts, separator ∉ part) : splitAt separator (joinWith separator parts) = parts := by
  rw [splitAt_eq_splitOn, joinWith_eq_intercalate, List.splitOn_intercalate separator h hne]

theorem joinWith_inj {parts parts' : List (List Char)} (hne : parts ≠ []) (hne' : parts' ≠ [])
    (h : ∀ part ∈ parts, separator ∉ part) (h' : ∀ part ∈ parts', separator ∉ part) :
    joinWith separator parts = joinWith separator parts' ↔ parts = parts' := by
  refine ⟨fun heq => ?_, fun heq => heq ▸ rfl⟩
  rw [← splitAt_joinWith hne h, heq, splitAt_joinWith hne' h']

/-- What holds of the separator holds of a whole text just if it holds of its parts. -/
theorem all_joinWith {p : Char → Bool} (h : p separator = true) (parts : List (List Char)) :
    (joinWith separator parts).all p = parts.all (·.all p) := by
  induction parts with
  | nil => rfl
  | cons part parts ih =>
      cases parts with
      | nil => simp [joinWith]
      | cons next parts =>
          rw [joinWith_cons (List.cons_ne_nil next parts), List.all_append, List.all_cons, h, ih,
            Bool.true_and, List.all_cons (l := next :: parts)]

theorem notMem_of_mem_splitAt {s part : List Char} (h : part ∈ splitAt separator s) :
    separator ∉ part := by
  induction s generalizing part with
  | nil => simp_all [splitAt]
  | cons c rest ih =>
      rw [splitAt] at h
      split at h
      · rcases List.mem_cons.mp h with rfl | h
        · exact List.not_mem_nil
        · exact ih h
      · next hc =>
          cases hparts : splitAt separator rest with
          | nil => exact absurd hparts (splitAt_ne_nil separator rest)
          | cons first parts =>
              rw [hparts] at h
              rcases List.mem_cons.mp h with rfl | h
              · have hfirst : separator ∉ first := ih (hparts ▸ List.mem_cons_self)
                exact fun hmem => (List.mem_cons.mp hmem).elim (fun he => hc he.symm) hfirst
              · exact ih (hparts ▸ List.mem_cons_of_mem first h)

theorem notMem_of_splitAt {s : List Char} {parts : List (List Char)}
    (h : splitAt separator s = parts) : ∀ part ∈ parts, separator ∉ part :=
  fun _ hpart => notMem_of_mem_splitAt (h ▸ hpart)

/-- The parts of a text, the last one set apart. -/
theorem exists_splitAt_eq_concat (separator : Char) (s : List Char) :
    ∃ parts last, splitAt separator s = parts ++ [last] :=
  ⟨_, _, (List.dropLast_append_getLast (splitAt_ne_nil separator s)).symm⟩

end EntityMap.Text
