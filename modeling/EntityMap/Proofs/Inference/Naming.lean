import Mathlib.Data.List.Infix
import EntityMap.Inference.Naming

/-!
What a name can be the singular form of. A base is a singular form of the names that it is looked
up by and, if it ends in `y`, of the one other name that ends in `ies` instead.
-/

namespace EntityMap

namespace Text

theorem splitFinalNewline_eq_or (s : List Char) :
    splitFinalNewline s = (s, []) ∨
      ∃ body, s = body ++ ['\n'] ∧ splitFinalNewline s = (body, ['\n']) := by
  rw [splitFinalNewline]
  split
  · next rest h =>
      have hs : s = rest.reverse ++ ['\n'] := by
        rw [← List.reverse_cons, ← h, List.reverse_reverse]
      exact Or.inr ⟨rest.reverse, hs, rfl⟩
  · exact Or.inl rfl

/-- The text is unchanged, or it had the ending. A last line feed would have been kept. -/
theorem eq_or_of_replaceEnding_eq {ending other s base : List Char}
    (h : replaceEnding ending other s = base) (hbase : '\n' ∉ base) :
    s = base ∨ ∃ stem, s = stem ++ ending ∧ base = stem ++ other := by
  subst h
  rcases splitFinalNewline_eq_or s with hsplit | ⟨body, rfl, hsplit⟩
  · simp only [replaceEnding, hsplit] at hbase ⊢
    by_cases hending : ending.isSuffixOf s
    · obtain ⟨stem, rfl⟩ := List.isSuffixOf_iff_suffix.mp hending
      exact Or.inr ⟨stem, rfl, by simp⟩
    · exact Or.inl (if_neg hending).symm
  -- the line feed would be in the result
  · refine absurd ?_ hbase
    simp only [replaceEnding, hsplit]
    split <;> simp

end Text

namespace Naming

theorem eq_or_of_replaceEnding_eq {ending other name base : String}
    (h : replaceEnding ending other name = base) (hbase : '\n' ∉ base.toList) :
    name = base ∨ ∃ stem, name = stem ++ ending ∧ base = stem ++ other := by
  have hl : Text.replaceEnding ending.toList other.toList name.toList = base.toList := by
    rw [← h, replaceEnding, String.toList_ofList]
  rcases Text.eq_or_of_replaceEnding_eq hl hbase with he | ⟨stem, hname, hother⟩
  · exact Or.inl (String.toList_inj.mp he)
  · refine Or.inr ⟨String.ofList stem, ?_, ?_⟩
    · rw [← String.toList_inj, String.toList_append, String.toList_ofList, hname]
    · rw [← String.toList_inj, String.toList_append, String.toList_ofList, hother]

theorem eq_or_eq_append_of_replaceEnding_eq {ending name base : String}
    (h : replaceEnding ending "" name = base) (hbase : '\n' ∉ base.toList) :
    name = base ∨ name = base ++ ending := by
  rcases eq_or_of_replaceEnding_eq h hbase with he | ⟨stem, he, hstem⟩
  · exact Or.inl he
  · rw [String.append_empty] at hstem
    exact Or.inr (hstem ▸ he)

theorem newline_notMem_of_base? {column base : String} (h : base? column = some base) :
    '\n' ∉ base.toList := by
  rw [base?] at h
  simp only [Option.ite_none_right_eq_some, Option.some.injEq] at h
  obtain ⟨⟨-, -, hline⟩, rfl⟩ := h
  rwa [String.toList_ofList]

/-- A table that has the base for a singular form is looked up by it, or exchanges the `y` at its
end for `ies`. -/
theorem mem_candidates_or_of_mem_singularForms {table base : String}
    (h : base ∈ singularForms table) (hbase : '\n' ∉ base.toList) :
    Text.lower table ∈ candidates base ∨
      ∃ stem, Text.lower table = stem ++ "ies" ∧ base = stem ++ "y" := by
  simp only [singularForms, List.mem_cons, List.not_mem_nil, or_false] at h
  have hself : base ∈ candidates base := List.mem_cons_self
  rcases h with h | h | h | h
  · exact Or.inl (h ▸ hself)
  · rcases eq_or_eq_append_of_replaceEnding_eq h.symm hbase with he | he
    · exact Or.inl (he ▸ hself)
    · exact Or.inl (by simp [candidates, he])
  · rcases eq_or_eq_append_of_replaceEnding_eq h.symm hbase with he | he
    · exact Or.inl (he ▸ hself)
    · exact Or.inl (by simp [candidates, he])
  · rcases eq_or_of_replaceEnding_eq h.symm hbase with he | ⟨stem, he, hstem⟩
    · exact Or.inl (he ▸ hself)
    · exact Or.inr ⟨stem, he, hstem⟩

end Naming

end EntityMap
