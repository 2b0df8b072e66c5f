import Mathlib.Data.List.TakeWhile
import EntityMap.Proofs.Script.LineEnd
import EntityMap.Proofs.Text.Pattern

/-!
Batch separators as a pattern of text. A separator fills a line: `Script.Separates` says what stands
on it. The same is written as a pattern that starts and ends with a line, and searched for in a
whole script; `Script.stripSeparators_eq_replaceAll` says that this replaces the lines that hold
separators and leaves all other lines as they are.
-/

namespace EntityMap.Script

open Text (Pattern)

variable {s rest line : List Char}

/-! ### What stands on the line -/

def Gaps (s : List Char) : Prop := ∀ c ∈ s, isGap c = true

/-- Nothing, or a number that a gap sets off. -/
def Counts (count : List Char) : Prop :=
  count = [] ∨ ∃ gap digits, count = gap ++ digits ∧ gap ≠ [] ∧ Gaps gap ∧ digits ≠ [] ∧
    ∀ c ∈ digits, Text.isDecimal c = true

/-- Gaps, and perhaps a semicolon between them. -/
def Closes (s : List Char) : Prop :=
  ∃ gap stop margin, s = gap ++ stop ++ margin ∧ Gaps gap ∧ (stop = [] ∨ stop = [';']) ∧ Gaps margin

/-- The word `GO` in any case, perhaps a number after a gap, perhaps a semicolon, and gaps. -/
def Separates (line : List Char) : Prop :=
  ∃ margin word count close, line = margin ++ word ++ count ++ close ∧
    Gaps margin ∧ word.map Char.toLower = ['g', 'o'] ∧ Counts count ∧ Closes close

theorem dropWhile_gaps_append {gaps : List Char} (h : Gaps gaps) (s : List Char) :
    (gaps ++ s).dropWhile isGap = s.dropWhile isGap := List.dropWhile_append_of_pos h

theorem exists_gaps_append (s : List Char) :
    ∃ gaps, Gaps gaps ∧ s = gaps ++ s.dropWhile isGap :=
  ⟨s.takeWhile isGap, fun _ => List.mem_takeWhile_imp, List.takeWhile_append_dropWhile.symm⟩

theorem isSeparatorEnd_iff : isSeparatorEnd s = true ↔ Closes s := by
  constructor
  · intro h
    obtain ⟨gap, hgap, hs⟩ := exists_gaps_append s
    rw [isSeparatorEnd] at h
    split at h
    · next hnil => exact ⟨gap, [], [], by simpa [hnil] using hs, hgap, .inl rfl, by simp [Gaps]⟩
    · next c rest hcons =>
        simp only [Bool.and_eq_true, decide_eq_true_eq, List.isEmpty_iff,
          List.dropWhile_eq_nil_iff] at h
        refine ⟨gap, [c], rest, by simpa [hcons] using hs, hgap, ?_, h.2⟩
        exact .inr (by rw [h.1])
  · rintro ⟨gap, stop, margin, rfl, hgap, hstop, hmargin⟩
    have hnil : margin.dropWhile isGap = [] := List.dropWhile_eq_nil_iff.mpr hmargin
    rw [isSeparatorEnd, List.append_assoc, dropWhile_gaps_append hgap]
    rcases hstop with rfl | rfl
    · simp [hnil]
    · simp [hnil, isGap]

theorem isGap_iff {c : Char} : isGap c = true ↔ c = ' ' ∨ c = '\t' := by simp [isGap]

theorem not_isDecimal_of_isGap {c : Char} (h : isGap c = true) : Text.isDecimal c = false := by
  rcases isGap_iff.mp h with rfl | rfl <;> decide

theorem not_isDecimal_of_closes (h : Closes s) : ∀ c ∈ s, Text.isDecimal c = false := by
  obtain ⟨gap, stop, margin, rfl, hgap, hstop, hmargin⟩ := h
  intro c hc
  simp only [List.mem_append] at hc
  rcases hc with (hc | hc) | hc
  · exact not_isDecimal_of_isGap (hgap c hc)
  · rcases hstop with rfl | rfl
    · exact absurd hc List.not_mem_nil
    · obtain rfl := List.mem_singleton.mp hc
      decide
  · exact not_isDecimal_of_isGap (hmargin c hc)

/-- A number that is there is dropped, and nothing else. -/
theorem exists_counts_append (s : List Char) : ∃ count, Counts count ∧ s = count ++ dropCount s := by
  fun_cases dropCount s with
  | case1 first tail digit digits h count hcount =>
      obtain ⟨hfirst, hdigit⟩ := Bool.and_eq_true_iff.mp h
      obtain ⟨gap, hgap, hs⟩ := exists_gaps_append (first :: tail)
      change first :: tail = gap ++ count at hs
      have hne : gap ≠ [] := by
        rintro rfl
        -- a first character would be both a gap and a digit
        have hsame : first = digit := (List.cons.inj (hs.trans hcount)).1
        rw [← hsame, not_isDecimal_of_isGap hfirst] at hdigit
        exact absurd hdigit (by decide)
      refine ⟨gap ++ count.takeWhile Text.isDecimal, .inr ⟨gap, _, rfl, hne, hgap, ?_, ?_⟩, ?_⟩
      · simp [hcount, hdigit]
      · exact fun c => List.mem_takeWhile_imp
      · rw [List.append_assoc, List.takeWhile_append_dropWhile, ← hs]
  | case2 | case3 => exact ⟨[], .inl rfl, rfl⟩

theorem dropCount_append {count : List Char} (hcount : Counts count) (h : Closes rest) :
    dropCount (count ++ rest) = rest := by
  have hrest := not_isDecimal_of_closes h
  rcases hcount with rfl | ⟨gap, digits, rfl, hgapne, hgap, hdigitsne, hdigits⟩
  · rw [List.nil_append]
    fun_cases dropCount rest with
    | case1 first tail digit digits hboth count hcount =>
        have hmem : digit ∈ count := hcount ▸ List.mem_cons_self
        have hdigit := hrest digit ((List.dropWhile_sublist isGap).subset hmem)
        simp [hdigit] at hboth
    | case2 | case3 => rfl
  · obtain ⟨digit, digits, rfl⟩ := List.exists_cons_of_ne_nil hdigitsne
    obtain ⟨first, gap, rfl⟩ := List.exists_cons_of_ne_nil hgapne
    have hfirst := hgap first List.mem_cons_self
    have hdigit := hdigits digit List.mem_cons_self
    have hnotgap : isGap digit = false := by
      by_contra hdigitgap
      rw [not_isDecimal_of_isGap (by simpa using hdigitgap)] at hdigit
      exact absurd hdigit (by decide)
    have hgaps : (first :: (gap ++ digit :: (digits ++ rest))).dropWhile isGap =
        digit :: (digits ++ rest) := by
      rw [← List.cons_append, dropWhile_gaps_append hgap, List.dropWhile_cons, hnotgap]
      rfl
    have hdigits : (digit :: (digits ++ rest)).dropWhile Text.isDecimal = rest := by
      rw [← List.cons_append, List.dropWhile_append_of_pos hdigits]
      cases rest with
      | nil => rfl
      | cons c rest => simp [hrest c List.mem_cons_self]
    simp only [List.append_assoc, List.cons_append, dropCount, hgaps, hfirst, hdigit, hdigits,
      Bool.and_self, if_true]

theorem isSeparator_iff : isSeparator line = true ↔ Separates line := by
  constructor
  · intro h
    obtain ⟨margin, hmargin, hline⟩ := exists_gaps_append line
    rw [isSeparator] at h
    split at h
    · next g o rest hword =>
        simp only [Bool.and_eq_true, decide_eq_true_eq] at h
        obtain ⟨count, hcount, hrest⟩ := exists_counts_append rest
        refine ⟨margin, [g, o], count, dropCount rest, ?_, hmargin, ?_, hcount, ?_⟩
        · rw [hline, hword, List.append_assoc, List.append_assoc, ← hrest]
          rfl
        · simp [h.1]
        · exact isSeparatorEnd_iff.mp h.2
    · exact absurd h (by decide)
  · rintro ⟨margin, word, count, close, rfl, hmargin, hword, hcount, hclose⟩
    obtain ⟨g, o, rfl⟩ := List.length_eq_two.mp (by simpa using congrArg List.length hword)
    simp only [List.map_cons, List.map_nil, List.cons.injEq, and_true] at hword
    have hnotgap : isGap g = false := by
      by_contra hgap
      rcases isGap_iff.mp (by simpa using hgap) with rfl | rfl <;> simp at hword
    have hdrop : (margin ++ [g, o] ++ count ++ close).dropWhile isGap =
        g :: o :: (count ++ close) := by
      rw [List.append_assoc, List.append_assoc, dropWhile_gaps_append hmargin]
      simp [hnotgap]
    rw [isSeparator, hdrop]
    simp [hword, dropCount_append hcount hclose, isSeparatorEnd_iff.mpr hclose]

/-! ### The pattern -/

def separatorLine : Pattern :=
  .many isGap ++ .char (·.toLower = 'g') ++ .char (·.toLower = 'o') ++
    .optional (.oneOrMore isGap ++ .oneOrMore Text.isDecimal) ++
    .many isGap ++ .optional (.char (· = ';')) ++ .many isGap

def separator : Pattern := separatorLine.wholeLine

theorem inline_separatorLine : separatorLine.Inline := by
  have hgap : isGap '\n' = false := by decide
  have hdecimal : Text.isDecimal '\n' = false := by decide
  exact ⟨⟨⟨⟨⟨⟨hgap, rfl⟩, rfl⟩, ⟨hgap, hgap⟩, hdecimal, hdecimal⟩, hgap⟩, rfl⟩, hgap⟩

theorem spans_count_iff {before : Option Char} {after : List Char} :
    (Pattern.optional (.oneOrMore isGap ++ .oneOrMore Text.isDecimal)).Spans before s after ↔
      Counts s := by
  constructor
  · rintro (⟨gap, digits, rfl, hgap, hdigits⟩ | rfl)
    · obtain ⟨hgapne, hgap⟩ := Pattern.spans_oneOrMore_iff.mp hgap
      obtain ⟨hdigitsne, hdigits⟩ := Pattern.spans_oneOrMore_iff.mp hdigits
      exact .inr ⟨gap, digits, rfl, hgapne, hgap, hdigitsne, hdigits⟩
    · exact .inl rfl
  · rintro (rfl | ⟨gap, digits, rfl, hgapne, hgap, hdigitsne, hdigits⟩)
    · exact .inr rfl
    · refine .inl ⟨gap, digits, rfl, ?_, ?_⟩
      · exact Pattern.spans_oneOrMore_iff.mpr ⟨hgapne, hgap⟩
      · exact Pattern.spans_oneOrMore_iff.mpr ⟨hdigitsne, hdigits⟩

theorem spans_stop_iff {before : Option Char} {after : List Char} :
    (Pattern.optional (.char (· = ';'))).Spans before s after ↔ s = [] ∨ s = [';'] := by
  simp [Pattern.Spans, or_comm]

theorem accepts_separatorLine_iff : separatorLine.Accepts line ↔ Separates line := by
  constructor
  · rintro ⟨_, margin', rfl, ⟨_, stop, rfl, ⟨_, gap, rfl, ⟨_, count, rfl, ⟨_, _, rfl,
      ⟨margin, _, rfl, hmargin, g, rfl, hg⟩, o, rfl, ho⟩, hcount⟩, hgap⟩, hstop⟩, hmargin'⟩
    refine ⟨margin, [g, o], count, gap ++ stop ++ margin', by simp, hmargin, ?_, ?_, gap, stop,
      margin', rfl, hgap, ?_, hmargin'⟩
    · simpa using And.intro hg ho
    · exact spans_count_iff.mp hcount
    · exact spans_stop_iff.mp hstop
  · rintro ⟨margin, word, count, _, rfl, hmargin, hword, hcount, gap, stop, margin', rfl, hgap,
      hstop, hmargin'⟩
    obtain ⟨g, o, rfl⟩ := List.length_eq_two.mp (by simpa using congrArg List.length hword)
    simp only [List.map_cons, List.map_nil, List.cons.injEq, and_true] at hword
    refine ⟨_, margin', by simp, ⟨_, stop, rfl, ⟨_, gap, rfl, ⟨_, count, rfl, ⟨_, [o], rfl,
      ⟨margin, [g], rfl, hmargin, g, rfl, ?_⟩, o, rfl, ?_⟩, ?_⟩, hgap⟩, ?_⟩, hmargin'⟩
    · simpa using hword.1
    · simpa using hword.2
    · exact spans_count_iff.mpr hcount
    · exact spans_stop_iff.mpr hstop

/-! ### The whole script -/

instance : DecidablePred Separates := fun _ => decidable_of_iff _ isSeparator_iff

instance : DecidablePred separatorLine.Accepts := fun _ =>
  decidable_of_iff _ accepts_separatorLine_iff.symm

theorem replaceSeparator_eq (line : List Char) :
    replaceSeparator line = if Separates line then [';'] else line := by
  simp only [replaceSeparator, isSeparator_iff]

theorem splitAt_stripSeparators (script : String) :
    Text.splitAt '\n' (stripSeparators script).toList =
      (Text.splitAt '\n' script.toList).map replaceSeparator := by
  rw [stripSeparators, String.toList_ofList, Text.splitAt_joinWith]
  · simp [Text.splitAt_ne_nil]
  · refine List.forall_mem_map.mpr fun line hline => ?_
    exact newline_notMem_replaceSeparator (Text.notMem_of_mem_splitAt hline)

/-- Replacing the matches of the pattern in a whole script is replacing lines: each line that holds
a separator becomes a semicolon, all others stay as they are, and none is added or lost. -/
theorem stripSeparators_eq_replaceAll (script : String) :
    stripSeparators script = String.ofList (separator.replaceAll [';'] script.toList) ∧
      let stripped := (Text.splitAt '\n' script.toList).map fun line =>
        if Separates line then [';'] else line
      stripSeparators script = String.ofList (Text.joinWith '\n' stripped) ∧
        Text.splitAt '\n' (stripSeparators script).toList = stripped := by
  have hlines : (Text.splitAt '\n' script.toList).map replaceSeparator =
      (Text.splitAt '\n' script.toList).map fun line => if Separates line then [';'] else line :=
    List.map_congr_left fun line _ => replaceSeparator_eq line
  refine ⟨?_, ?_, ?_⟩
  · have hnil : ¬separatorLine.Accepts [] := by decide
    rw [separator, inline_separatorLine.replaceAll_wholeLine hnil, stripSeparators, hlines]
    simp only [accepts_separatorLine_iff]
  · rw [stripSeparators, hlines]
  · rw [splitAt_stripSeparators, hlines]

example : separator.replaceAll [';'] "GO\n go\t2 ;\nGOTO 1\nEND GO".toList =
    ";\n;\nGOTO 1\nEND GO".toList := by decide +kernel

end EntityMap.Script
