import EntityMap.Proofs.ScriptFile
import EntityMap.Proofs.Text.Split
import EntityMap.Script
import Mathlib.Data.List.ModifyLast

/-!
Scripts whose lines end in a carriage return and a line feed. A file that holds such a script is
read with line feeds only. Where a script comes by another way, the carriage returns stay in it;
they are no gaps, so no line that ends in one is a batch separator.
-/

namespace EntityMap

namespace ScriptFile

def returnLineEnds (text : List Char) : List Char :=
  text.flatMap fun c => if c = '\n' then ['\r', '\n'] else [c]

@[simp] theorem returnLineEnds_newline (text : List Char) :
    returnLineEnds ('\n' :: text) = '\r' :: '\n' :: returnLineEnds text := by
  simp [returnLineEnds]

theorem returnLineEnds_cons {c : Char} (hc : c ≠ '\n') (text : List Char) :
    returnLineEnds (c :: text) = c :: returnLineEnds text := by
  simp [returnLineEnds, hc]

theorem returnLineEnds_append (text text' : List Char) :
    returnLineEnds (text ++ text') = returnLineEnds text ++ returnLineEnds text' :=
  List.flatMap_append

theorem returnLineEnds_eq_self {line : List Char} (h : '\n' ∉ line) :
    returnLineEnds line = line := by
  induction line with
  | nil => rfl
  | cons c rest ih =>
      have hc : c ≠ '\n' := fun hc => h (hc ▸ List.mem_cons_self)
      rw [returnLineEnds_cons hc, ih fun hmem => h (List.mem_cons_of_mem c hmem)]

theorem unifyLineEnds_returnLineEnds {text : List Char} (h : '\r' ∉ text) :
    unifyLineEnds (returnLineEnds text) = text := by
  induction text with
  | nil => rfl
  | cons c rest ih =>
      have hc : c ≠ '\r' := fun hc => h (hc ▸ List.mem_cons_self)
      have hrest := ih fun hmem => h (List.mem_cons_of_mem c hmem)
      by_cases hnewline : c = '\n'
      · subst hnewline
        rw [returnLineEnds_newline, unifyLineEnds, hrest]
      · rw [returnLineEnds_cons hnewline, unifyLineEnds_cons hc, hrest]

/-- The lines of the text, each but the last one with a carriage return at its end. -/
theorem returnLineEnds_joinWith {lines : List (List Char)} {last : List Char}
    (h : ∀ line ∈ lines ++ [last], '\n' ∉ line) :
    returnLineEnds (Text.joinWith '\n' (lines ++ [last])) =
      Text.joinWith '\n' (lines.map (· ++ ['\r']) ++ [last]) := by
  induction lines with
  | nil => exact returnLineEnds_eq_self (h last (by simp))
  | cons line lines ih =>
      have hline : '\n' ∉ line := h line (by simp)
      have hlines := ih fun other hother => h other (List.mem_cons_of_mem line hother)
      rw [List.cons_append, Text.joinWith_cons (by simp), returnLineEnds_append,
        returnLineEnds_eq_self hline, returnLineEnds_newline, hlines, List.map_cons,
        List.cons_append, Text.joinWith_cons (by simp), List.append_assoc]
      rfl

theorem splitAt_returnLineEnds {text last : List Char} {lines : List (List Char)}
    (h : Text.splitAt '\n' text = lines ++ [last]) :
    Text.splitAt '\n' (returnLineEnds text) = lines.map (· ++ ['\r']) ++ [last] := by
  have hnewline := Text.notMem_of_splitAt h
  have htext : returnLineEnds text = Text.joinWith '\n' (lines.map (· ++ ['\r']) ++ [last]) := by
    rw [← returnLineEnds_joinWith hnewline, ← h, Text.joinWith_splitAt]
  rw [htext, Text.splitAt_joinWith (by simp)]
  intro line hline
  rcases List.mem_append.mp hline with hline | hline
  · obtain ⟨line, hmem, rfl⟩ := List.mem_map.mp hline
    simpa using hnewline line (List.mem_append_left _ hmem)
  · exact hnewline line (List.mem_append_right _ hline)

/-- The line feeds are where they were, and before them only the carriage returns are new. -/
theorem returnLineEnds_injective : Function.Injective returnLineEnds := by
  intro text text' heq
  obtain ⟨lines, last, h⟩ := Text.exists_splitAt_eq_concat '\n' text
  obtain ⟨lines', last', h'⟩ := Text.exists_splitAt_eq_concat '\n' text'
  have hsplit := splitAt_returnLineEnds h
  rw [heq, splitAt_returnLineEnds h'] at hsplit
  obtain ⟨hlines, hlast⟩ := List.append_inj' hsplit rfl
  have hsame : lines' = lines := List.map_injective_iff.mpr (List.append_left_injective _) hlines
  rw [← Text.joinWith_splitAt '\n' text, ← Text.joinWith_splitAt '\n' text', h, h', hsame,
    hlast]

def crlf (script : String) : String := String.ofList (returnLineEnds script.toList)

theorem crlf_injective : Function.Injective crlf := fun _ _ h =>
  String.toList_inj.mp (returnLineEnds_injective (String.ofList_injective h))

/-- A file is read without regard to which of the two line ends it is saved with. -/
theorem read?_crlf {script : String} (hmark : script.toList.head? ≠ some '\uFEFF')
    (hreturn : '\r' ∉ script.toList) : read? (crlf script).toUTF8 = some script := by
  have hcrlf : (crlf script).toList.head? ≠ some '\uFEFF' := by
    rw [crlf, String.toList_ofList]
    cases hscript : script.toList with
    | nil => simp [returnLineEnds]
    | cons c rest =>
        by_cases hc : c = '\n'
        · simp [hc]
        · rw [hscript] at hmark
          rw [returnLineEnds_cons hc]
          exact hmark
  rw [read?, decode?_toUTF8 hcrlf, Option.map_some, crlf, String.toList_ofList,
    unifyLineEnds_returnLineEnds hreturn, String.ofList_toList]

end ScriptFile

namespace Script

open ScriptFile

theorem dropWhile_concat_return {p : Char → Bool} (h : p '\r' = false) (s : List Char) :
    (s ++ ['\r']).dropWhile p = s.dropWhile p ++ ['\r'] := by
  rw [List.dropWhile_append]
  split
  · next hs => rw [List.isEmpty_iff.mp hs, List.dropWhile_cons, h]; rfl
  · rfl

theorem dropCount_concat_return (s : List Char) :
    dropCount (s ++ ['\r']) = dropCount s ++ ['\r'] := by
  cases s with
  | nil => rfl
  | cons first rest =>
      have hgap := dropWhile_concat_return (p := isGap) rfl (first :: rest)
      rw [List.cons_append] at hgap ⊢
      unfold dropCount
      rw [hgap]
      cases (first :: rest).dropWhile isGap with
      | nil => simp [show Text.isDecimal '\r' = false by decide]
      | cons digit count =>
          have hdigits := dropWhile_concat_return (p := Text.isDecimal) (by decide) (digit :: count)
          rw [List.cons_append] at hdigits ⊢
          dsimp only
          split
          · exact hdigits
          · rfl

theorem isSeparatorEnd_concat_return (s : List Char) : isSeparatorEnd (s ++ ['\r']) = false := by
  rw [isSeparatorEnd, dropWhile_concat_return rfl]
  cases s.dropWhile isGap with
  | nil => rfl
  | cons c rest =>
      have hrest := dropWhile_concat_return (p := isGap) rfl rest
      simp [hrest]

theorem isSeparator_concat_return (line : List Char) : isSeparator (line ++ ['\r']) = false := by
  rw [isSeparator, dropWhile_concat_return rfl]
  match line.dropWhile isGap with
  | [] => rfl
  | [g] => simp
  | g :: o :: rest => simp [dropCount_concat_return, isSeparatorEnd_concat_return]

theorem replaceSeparator_eq_self_iff {line : List Char} :
    replaceSeparator line = line ↔ isSeparator line = false := by
  rw [replaceSeparator]
  split
  · next h =>
      have hline : [';'] ≠ line := by
        rintro rfl
        exact absurd h (by decide)
      simp [h, hline]
  · next h => simpa using h

theorem newline_notMem_replaceSeparator {line : List Char} (h : '\n' ∉ line) :
    '\n' ∉ replaceSeparator line := by
  rw [replaceSeparator]
  split
  · decide
  · exact h

theorem map_replaceSeparator_eq_self_iff {lines : List (List Char)} :
    lines.map replaceSeparator = lines ↔ ∀ line ∈ lines, isSeparator line = false := by
  have hsame : lines.map replaceSeparator = lines.map id ↔
      ∀ line ∈ lines, replaceSeparator line = id line := List.map_inj_left
  simpa only [List.map_id, id, replaceSeparator_eq_self_iff] using hsame

theorem newline_notMem_replaceLast {text last : List Char} {lines : List (List Char)}
    (h : Text.splitAt '\n' text = lines ++ [last]) :
    ∀ line ∈ lines ++ [replaceSeparator last], '\n' ∉ line := by
  obtain ⟨hlines, hlast⟩ := List.forall_mem_append.mp (Text.notMem_of_splitAt h)
  refine List.forall_mem_append.mpr ⟨hlines, List.forall_mem_singleton.mpr ?_⟩
  exact newline_notMem_replaceSeparator (hlast last (List.mem_singleton_self last))

/-- Of a script with carriage returns before its line feeds, only the last line can be a batch
separator. -/
theorem stripSeparators_crlf_eq {script : String} {lines : List (List Char)} {last : List Char}
    (h : Text.splitAt '\n' script.toList = lines ++ [last]) :
    stripSeparators (crlf script) =
      crlf (String.ofList (Text.joinWith '\n' (lines ++ [replaceSeparator last]))) := by
  have hsplit : Text.splitAt '\n' (crlf script).toList = lines.map (· ++ ['\r']) ++ [last] := by
    rw [crlf, String.toList_ofList, splitAt_returnLineEnds h]
  have hreturn (line : List Char) : replaceSeparator (line ++ ['\r']) = line ++ ['\r'] :=
    replaceSeparator_eq_self_iff.mpr (isSeparator_concat_return line)
  have hreturns : (lines.map (· ++ ['\r'])).map replaceSeparator = lines.map (· ++ ['\r']) := by
    simp [hreturn]
  rw [stripSeparators, hsplit, List.map_append, hreturns, List.map_singleton, crlf,
    String.toList_ofList, returnLineEnds_joinWith (newline_notMem_replaceLast h)]

/-- With carriage returns before its line feeds, a script keeps all its lines as they are, a batch
separator at the very end excepted. So the separators are the same as without them just if no other
line is one. -/
theorem stripSeparators_crlf (script : String) :
    stripSeparators (crlf script) = crlf (String.ofList (Text.joinWith '\n'
        ((Text.splitAt '\n' script.toList).modifyLast replaceSeparator))) ∧
      (stripSeparators (crlf script) = crlf (stripSeparators script) ↔
        ∀ line ∈ (Text.splitAt '\n' script.toList).dropLast, isSeparator line = false) := by
  obtain ⟨lines, last, h⟩ := Text.exists_splitAt_eq_concat '\n' script.toList
  have hstripped : ∀ line ∈ (lines ++ [last]).map replaceSeparator, '\n' ∉ line :=
    List.forall_mem_map.mpr fun line hline =>
      newline_notMem_replaceSeparator (Text.notMem_of_splitAt h line hline)
  rw [stripSeparators_crlf_eq h, h, List.modifyLast_concat, List.dropLast_concat]
  refine ⟨rfl, ?_⟩
  -- both sides have the same last line, and the others are the same just if none is replaced
  rw [stripSeparators, h, crlf_injective.eq_iff, String.ofList_inj,
    Text.joinWith_inj (by simp) (by simp) (newline_notMem_replaceLast h) hstripped,
    List.map_append, List.map_singleton, List.append_left_inj, eq_comm,
    map_replaceSeparator_eq_self_iff]

def batches : String := "SELECT 1\nGO\nSELECT 2"

/-- The separator is recognised before a line feed, but not before a carriage return. -/
theorem stripSeparators_crlf_batches_ne :
    '\r' ∉ batches.toList ∧
      stripSeparators batches = "SELECT 1\n;\nSELECT 2" ∧
      stripSeparators (crlf batches) = crlf batches ∧
      stripSeparators (crlf batches) ≠ crlf (stripSeparators batches) := by
  decide +kernel

end Script

end EntityMap
