import EntityMap.Proofs.Script.Request
import EntityMap.Proofs.Script.Separator
import EntityMap.Proofs.Text.Trim

/-!
Reading a script without its batch separators. Stripping a script changes neither the dialect that
it names nor whether it is blank, and what is stripped already stays as it is, so the script is read
in the same dialects and as the same text: `Script.parse_stripSeparators`.
-/

namespace EntityMap.Script

variable {line : List Char}

/-! ### One line -/

theorem replaceSeparator_replaceSeparator (line : List Char) :
    replaceSeparator (replaceSeparator line) = replaceSeparator line := by
  rw [replaceSeparator_eq_self_iff, replaceSeparator]
  split
  · decide
  · next h => simpa using h

theorem isBlank_of_isGap {c : Char} (h : isGap c = true) : Text.isBlank c = true := by
  rcases isGap_iff.mp h with rfl | rfl <;> decide

theorem eq_or_eq_of_toLower {c : Char} (h : c.toLower = 'g') : c = 'g' ∨ c = 'G' := by
  unfold Char.toLower at h
  split at h
  · have hval : c.val + 32 = 103 := congrArg Char.val h
    have hupper : c.val = 71 := by grind
    exact .inr (Char.ext hupper)
  · exact .inl h

/-- The first character on a separator line that is not blank. -/
theorem Separates.exists_dropWhile_isBlank (h : Separates line) :
    ∃ g rest, line.dropWhile Text.isBlank = g :: rest ∧ (g = 'g' ∨ g = 'G') := by
  obtain ⟨margin, word, count, close, rfl, hmargin, hword, -⟩ := h
  obtain ⟨g, o, rfl⟩ := List.length_eq_two.mp (by simpa using congrArg List.length hword)
  have hg := eq_or_eq_of_toLower (List.cons.inj hword).1
  have hblank : Text.isBlank g = false := by rcases hg with rfl | rfl <;> decide
  have hmargin : ∀ c ∈ margin, Text.isBlank c = true := fun c hc => isBlank_of_isGap (hmargin c hc)
  refine ⟨g, o :: (count ++ close), ?_, hg⟩
  rw [List.append_assoc, List.append_assoc, List.dropWhile_append_of_pos hmargin]
  simp [hblank]

theorem Separates.lineHint?_eq_none (h : Separates line) : lineHint? line = none := by
  obtain ⟨g, rest, hdrop, hg⟩ := h.exists_dropWhile_isBlank
  rw [lineHint?]
  split
  · next comment htrim =>
      have hprefix := Text.trimWhile_prefix_dropWhile Text.isBlank line
      rw [hdrop, show Text.trimWhile Text.isBlank line = _ from htrim, List.cons_prefix_cons]
        at hprefix
      rcases hg with rfl | rfl <;> exact absurd hprefix.1 (by decide)
  · rfl

theorem lineHint?_replaceSeparator (line : List Char) :
    lineHint? (replaceSeparator line) = lineHint? line := by
  rw [replaceSeparator_eq]
  split
  · next h =>
      rw [h.lineHint?_eq_none]
      decide
  · rfl

theorem all_isBlank_replaceSeparator (line : List Char) :
    (replaceSeparator line).all Text.isBlank = line.all Text.isBlank := by
  rw [replaceSeparator_eq]
  split
  · next h =>
      obtain ⟨g, rest, hdrop, hg⟩ := h.exists_dropWhile_isBlank
      have hline : ¬∀ c ∈ line, Text.isBlank c = true := by
        rw [← List.dropWhile_eq_nil_iff, hdrop]
        exact List.cons_ne_nil g rest
      rw [Bool.eq_false_iff.mpr (mt List.all_eq_true.mp hline)]
      decide
  · rfl

/-! ### The script -/

theorem stripSeparators_stripSeparators (script : String) :
    stripSeparators (stripSeparators script) = stripSeparators script := by
  rw [stripSeparators, splitAt_stripSeparators, List.map_map]
  simp only [Function.comp_def, replaceSeparator_replaceSeparator]
  rfl

theorem hint?_stripSeparators (script : String) : hint? (stripSeparators script) = hint? script := by
  rw [hint?, splitAt_stripSeparators, ← List.map_take, List.findSome?_map]
  simp only [Function.comp_def, lineHint?_replaceSeparator]
  rfl

theorem order_stripSeparators (script : String) :
    order (stripSeparators script) = order script := by
  funext dialects
  rw [order, hint?_stripSeparators, order]

theorem isAllBlank_stripSeparators (script : String) :
    Text.isAllBlank (stripSeparators script) = Text.isAllBlank script := by
  have hlines (text : String) : Text.isAllBlank text =
      (Text.splitAt '\n' text.toList).all (·.all Text.isBlank) := by
    have hnewline : Text.isBlank '\n' = true := by decide
    rw [← Text.all_joinWith hnewline, Text.joinWith_splitAt]
    rfl
  rw [hlines, splitAt_stripSeparators, List.all_map, hlines]
  simp only [Function.comp_def, all_isBlank_replaceSeparator]

/-- Reading a script without its batch separators comes to the same as reading the script, whatever
the grammar is: the same statements in the same dialect, or the same error. -/
theorem parse_stripSeparators {ε α : Type} (grammar : Grammar ε α) (configured : List String)
    (script : String) (names : Option (List (Option String))) :
    parse grammar configured (some (stripSeparators script)) names =
      parse grammar configured (some script) names := by
  have hblank := isAllBlank_stripSeparators script
  cases h : Text.isAllBlank script with
  | true =>
      have hscript : Blank (some script) := isEmpty_iff.mp h
      have hstripped : Blank (some (stripSeparators script)) := isEmpty_iff.mp (hblank.trans h)
      rw [parse_of_blank hstripped, parse_of_blank hscript]
  | false =>
      have horder : requestOrder configured (stripSeparators script) names =
          requestOrder configured script names := by
        rw [requestOrder, order_stripSeparators, requestOrder]
      rw [parse_eq_firstMatch _ _ _ (hblank.trans h), parse_eq_firstMatch _ _ _ h, horder,
        stripSeparators_stripSeparators]

end EntityMap.Script
