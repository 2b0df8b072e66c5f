import EntityMap.Identifier
import EntityMap.Proofs.Text.Case
import EntityMap.Proofs.Text.Trim

/-!
Clean names. Cleaning a clean name changes nothing, so it does not matter how often a name is
cleaned on its way into the schema.
-/

namespace EntityMap.Identifier

theorem not_isQuote_of_mem_cleanChars {c : Char} {s : List Char} (h : c ∈ cleanChars s) :
    isQuote c = false := by
  have hmem := (List.mem_filter.mp (Text.mem_of_mem_trim h)).2
  simpa using hmem

theorem cleanChars_cleanChars (s : List Char) : cleanChars (cleanChars s) = cleanChars s := by
  have hfilter : (cleanChars s).filter (!isQuote ·) = cleanChars s := by
    refine List.filter_eq_self.mpr fun c hc => ?_
    simp [not_isQuote_of_mem_cleanChars hc]
  rw [cleanChars, hfilter]
  exact Text.trim_trim _

@[simp] theorem clean_clean (name : String) : clean (clean name) = clean name := by
  simp only [clean, String.toList_ofList, cleanChars_cleanChars]

@[simp] theorem clean_empty : clean "" = "" := by decide

/-- A name in its clean form that is not empty. -/
def IsName (name : String) : Prop := clean name = name ∧ name ≠ ""

instance (name : String) : Decidable (IsName name) := inferInstanceAs (Decidable (_ ∧ _))

theorem IsName.clean_eq {name : String} (h : IsName name) : clean name = name := h.1

theorem IsName.ne_empty {name : String} (h : IsName name) : name ≠ "" := h.2

theorem isName_clean {name : String} (h : clean name ≠ "") : IsName (clean name) :=
  ⟨clean_clean name, h⟩

/-- What is found under a name, case aside, is a name too, since it is not empty. -/
theorem IsName.of_lower_eq {name found : String} (hname : IsName name)
    (hclean : clean found = found) (h : Text.lower found = Text.lower name) : IsName found := by
  refine ⟨hclean, fun hempty => hname.ne_empty ?_⟩
  rwa [← Text.lower_eq_empty_iff, ← h, Text.lower_eq_empty_iff]

end EntityMap.Identifier
