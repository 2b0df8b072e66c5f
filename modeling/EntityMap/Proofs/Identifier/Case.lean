import EntityMap.Proofs.Identifier

/-!
Cleaning and lower case. The characters that cleaning drops, quotes and white space, are their own
lower case, and no other character has one of them for its lower case. So if two names are equal,
case aside, then either both have an empty clean form or none of them.
-/

namespace EntityMap

namespace Text

/-- Ranges of the characters that cleaning drops: white space, and the quotes of names. -/
def droppedRanges : List (Nat × Nat) :=
  [(0x22, 0x22), (0x27, 0x27), (0x5B, 0x5B), (0x5D, 0x5D), (0x60, 0x60)] ++ blankRanges

def isDropped (c : Char) : Bool := inRanges droppedRanges c.toNat

theorem isDropped_of_mem_lowerChar {c d : Char} (hd : d ∈ lowerChar c) :
    isDropped d = isDropped c := by
  have havoids : MappingAvoids droppedRanges lowerExpansions lowerRuns := by decide +kernel
  exact inRanges_eq_of_mem_image (f := Char.toLower) (by decide +kernel) havoids hd

/-- The lower case of a character is dropped just if the character is. -/
theorem all_isDropped_lowerChar (c : Char) : (lowerChar c).all isDropped = isDropped c := by
  obtain ⟨d, rest, himage⟩ := List.exists_cons_of_ne_nil (lowerChar_ne_nil c)
  have hdropped : ∀ d ∈ lowerChar c, isDropped d = isDropped c := fun _ => isDropped_of_mem_lowerChar
  rw [himage] at hdropped ⊢
  rw [Bool.eq_iff_iff, List.all_eq_true]
  refine ⟨fun h => ?_, fun h x hx => (hdropped x hx).trans h⟩
  exact hdropped d List.mem_cons_self ▸ h d List.mem_cons_self

theorem all_isDropped_lowerFrom (afterCased : Bool) (s : List Char) :
    (lowerFrom afterCased s).all isDropped = s.all isDropped := by
  induction s generalizing afterCased with
  | nil => rfl
  | cons c rest ih =>
      have himage : (if c = '\u03a3' then
          [if afterCased && !startsCased rest then '\u03c2' else '\u03c3']
          else lowerChar c).all isDropped = isDropped c := by
        split
        · next hsigma =>
            subst hsigma
            split <;> decide +kernel
        · exact all_isDropped_lowerChar c
      rw [lowerFrom, List.all_append, himage, ih, List.all_cons]

end Text

namespace Identifier

theorem isDropped_eq (c : Char) : Text.isDropped c = (isQuote c || Text.isBlank c) := by
  have hquote : isQuote c = Text.inRanges
      [(0x22, 0x22), (0x27, 0x27), (0x5B, 0x5B), (0x5D, 0x5D), (0x60, 0x60)] c.toNat := by
    rw [Bool.eq_iff_iff]
    simp only [isQuote, Text.inRanges, ← Char.toNat_inj, Bool.or_eq_true, decide_eq_true_eq,
      List.any_cons, List.any_nil, Bool.and_eq_true, Bool.or_false, Char.reduceToNat]
    omega
  rw [hquote, Text.isDropped, Text.droppedRanges, Text.inRanges, List.any_append]
  rfl

/-- A name is empty once it is clean just if cleaning drops all its characters. -/
theorem clean_eq_empty_iff {name : String} :
    clean name = "" ↔ name.toList.all Text.isDropped = true := by
  rw [clean, ← String.toList_inj, String.toList_ofList, String.toList_empty, cleanChars, Text.trim,
    Text.trimWhile_eq_nil_iff, List.all_eq_true]
  refine forall_congr' fun c => ?_
  rw [isDropped_eq, List.mem_filter]
  cases isQuote c <;> simp

/-- Names that are equal, case aside, are empty together once they are clean. -/
theorem clean_eq_empty_iff_of_lower_eq {name name' : String}
    (h : Text.lower name = Text.lower name') : clean name = "" ↔ clean name' = "" := by
  have hall (name : String) : name.toList.all Text.isDropped =
      (Text.lower name).toList.all Text.isDropped := by
    rw [Text.lower, String.toList_ofList, Text.all_isDropped_lowerFrom]
  rw [clean_eq_empty_iff, clean_eq_empty_iff, hall name, hall name', h]

end Identifier

end EntityMap
