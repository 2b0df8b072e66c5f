import EntityMap.Proofs.Text.Split
import EntityMap.Text.Pattern

/-!
Patterns that match whole lines. `Pattern.Spans` says what a pattern matches, in whatever order that
is tried, and `Pattern.mem_ends_iff` that trying finds all of it. A pattern without line ends of its
own matches within a line, so if it has to start and to end with the line it matches a line or
nothing: `Pattern.replaceAll_wholeLine` says that replacing its matches in a text is replacing
lines.
-/

namespace EntityMap.Text

variable {p : Char → Bool} {before before' : Option Char} {text line after after' : List Char}
  {place final : Place} {q r : Pattern}

/-! ### Places -/

/-- The last character that was read, if any was read, stands before what comes next. -/
theorem getLast?_cons_or (c : Char) (text : List Char) (before : Option Char) :
    (c :: text).getLast?.or before = text.getLast?.or (some c) := by
  rw [← List.singleton_append, List.getLast?_append, Option.or_assoc]
  rfl

namespace Place

theorem startsLine_iff : place.startsLine = true ↔ ∀ c ∈ place.before, c = '\n' := by
  simp [startsLine, Option.all_eq_true]

theorem endsLine_iff : place.endsLine = true ↔ ∀ c ∈ place.rest.head?, c = '\n' := by
  simp [endsLine, Option.all_eq_true]

/-- Reading the text leads from one place to another. -/
def Reads (text : List Char) (place final : Place) : Prop :=
  place.rest = text ++ final.rest ∧ final.before = text.getLast?.or place.before

theorem reads_nil_iff : Reads [] place final ↔ final = place := by
  cases place
  cases final
  simp only [Reads, List.nil_append, List.getLast?_nil, Option.none_or, mk.injEq]
  exact ⟨fun h => ⟨h.2, h.1.symm⟩, fun h => ⟨h.2.symm, h.1⟩⟩

theorem reads_append_iff {text' : List Char} : Reads (text ++ text') place final ↔
    ∃ middle, Reads text place middle ∧ Reads text' middle final := by
  simp only [Reads, List.getLast?_append, Option.or_assoc, List.append_assoc]
  constructor
  · rintro ⟨hrest, hbefore⟩
    exact ⟨⟨text.getLast?.or place.before, text' ++ final.rest⟩, ⟨hrest, rfl⟩, rfl, hbefore⟩
  · rintro ⟨middle, ⟨hrest, hmiddle⟩, hrest', hbefore⟩
    exact ⟨by rw [hrest, hrest'], by rw [hbefore, hmiddle]⟩

theorem reads_cons_iff {c : Char} : Reads (c :: text) place final ↔
    ∃ rest, place.rest = c :: rest ∧ Reads text ⟨some c, rest⟩ final := by
  simp only [Reads, getLast?_cons_or, List.cons_append]
  constructor
  · rintro ⟨hrest, hbefore⟩
    exact ⟨text ++ final.rest, hrest, rfl, hbefore⟩
  · rintro ⟨rest, hcons, hrest, hbefore⟩
    exact ⟨by rw [hcons, hrest], hbefore⟩

theorem reads_singleton_iff {c : Char} : Reads [c] place final ↔
    place.rest = c :: final.rest ∧ final.before = some c := by
  simp [Reads]

theorem mem_runs_iff {s : List Char} : final ∈ runs p before s ↔
    ∃ text, Reads text ⟨before, s⟩ final ∧ ∀ c ∈ text, p c = true := by
  induction s generalizing before with
  | nil =>
      simp only [runs, List.mem_singleton]
      constructor
      · intro h
        exact ⟨[], reads_nil_iff.mpr h, by simp⟩
      · rintro ⟨text, h, -⟩
        obtain ⟨rfl, -⟩ := List.append_eq_nil_iff.mp h.1.symm
        exact reads_nil_iff.mp h
  | cons c rest ih =>
      have hstay : final = ⟨before, c :: rest⟩ →
          ∃ text, Reads text ⟨before, c :: rest⟩ final ∧ ∀ c ∈ text, p c = true :=
        fun h => ⟨[], reads_nil_iff.mpr h, by simp⟩
      have hmove : (∃ text, Reads text ⟨before, c :: rest⟩ final ∧ ∀ c ∈ text, p c = true) →
          final = ⟨before, c :: rest⟩ ∨ p c = true ∧ final ∈ runs p (some c) rest := by
        rintro ⟨text, h, hall⟩
        cases text with
        | nil => exact .inl (reads_nil_iff.mp h)
        | cons d text =>
            obtain ⟨_, hcons, hread⟩ := reads_cons_iff.mp h
            obtain ⟨rfl, rfl⟩ := List.cons.inj hcons
            obtain ⟨hc, htext⟩ := List.forall_mem_cons.mp hall
            exact .inr ⟨hc, ih.mpr ⟨text, hread, htext⟩⟩
      rw [runs]
      split
      · next hc =>
          rw [List.mem_append, List.mem_singleton]
          constructor
          · rintro (h | h)
            · obtain ⟨text, hread, hall⟩ := ih.mp h
              refine ⟨c :: text, reads_cons_iff.mpr ⟨rest, rfl, hread⟩, ?_⟩
              exact List.forall_mem_cons.mpr ⟨hc, hall⟩
            · exact hstay h
          · intro h
            exact (hmove h).elim .inr fun h => .inl h.2
      · next hc =>
          rw [List.mem_singleton]
          exact ⟨hstay, fun h => (hmove h).elim id fun h => absurd h.1 hc⟩

end Place

/-! ### What a pattern matches -/

namespace Pattern

/-- The pattern matches the text between the character before it and what comes after it. -/
def Spans : Pattern → Option Char → List Char → List Char → Prop
  | lineStart, before, text, _ => text = [] ∧ ∀ c ∈ before, c = '\n'
  | lineEnd, _, text, after => text = [] ∧ ∀ c ∈ after.head?, c = '\n'
  | char p, _, text, _ => ∃ c, text = [c] ∧ p c = true
  | many p, _, text, _ => ∀ c ∈ text, p c = true
  | optional q, before, text, after => q.Spans before text after ∨ text = []
  | append q r, before, text, after => ∃ u v, text = u ++ v ∧ q.Spans before u (v ++ after) ∧
      r.Spans (u.getLast?.or before) v after

theorem spans_oneOrMore_iff :
    (oneOrMore p).Spans before text after ↔ text ≠ [] ∧ ∀ c ∈ text, p c = true := by
  constructor
  · rintro ⟨_, rest, rfl, ⟨c, rfl, hc⟩, hrest⟩
    exact ⟨List.cons_ne_nil c rest, List.forall_mem_cons.mpr ⟨hc, hrest⟩⟩
  · rintro ⟨hne, hall⟩
    obtain ⟨c, rest, rfl⟩ := List.exists_cons_of_ne_nil hne
    obtain ⟨hc, hrest⟩ := List.forall_mem_cons.mp hall
    exact ⟨[c], rest, rfl, ⟨c, rfl, hc⟩, hrest⟩

theorem mem_ends_iff : final ∈ q.ends place ↔
    ∃ text, Place.Reads text place final ∧ q.Spans place.before text final.rest := by
  induction q generalizing place final with
  | lineStart =>
      simp only [ends, List.mem_ite_nil_right, List.mem_singleton, Place.startsLine_iff, Spans]
      constructor
      · rintro ⟨hstart, h⟩
        exact ⟨[], Place.reads_nil_iff.mpr h, rfl, hstart⟩
      · rintro ⟨_, h, rfl, hstart⟩
        exact ⟨hstart, Place.reads_nil_iff.mp h⟩
  | lineEnd =>
      simp only [ends, List.mem_ite_nil_right, List.mem_singleton, Place.endsLine_iff, Spans]
      constructor
      · rintro ⟨hend, rfl⟩
        exact ⟨[], Place.reads_nil_iff.mpr rfl, rfl, hend⟩
      · rintro ⟨_, h, rfl, hend⟩
        obtain rfl := Place.reads_nil_iff.mp h
        exact ⟨hend, rfl⟩
  | char p =>
      obtain ⟨before, rest⟩ := place
      simp only [Spans]
      constructor
      · intro h
        cases rest with
        | nil => simp [ends] at h
        | cons c rest =>
            simp only [ends, List.mem_ite_nil_right, List.mem_singleton] at h
            obtain ⟨hc, rfl⟩ := h
            exact ⟨[c], Place.reads_singleton_iff.mpr ⟨rfl, rfl⟩, c, rfl, hc⟩
      · rintro ⟨_, h, c, rfl, hc⟩
        obtain ⟨hrest, hbefore⟩ := Place.reads_singleton_iff.mp h
        cases final
        simp_all [ends]
  | many p => exact Place.mem_runs_iff
  | optional q ih =>
      simp only [ends, List.mem_append, List.mem_singleton, ih, Spans]
      constructor
      · rintro (⟨text, h, hspans⟩ | rfl)
        · exact ⟨text, h, .inl hspans⟩
        · exact ⟨[], Place.reads_nil_iff.mpr rfl, .inr rfl⟩
      · rintro ⟨text, h, hspans | rfl⟩
        · exact .inl ⟨text, h, hspans⟩
        · exact .inr (Place.reads_nil_iff.mp h)
  | append q r ihq ihr =>
      simp only [ends, List.mem_flatMap, ihq, ihr, Spans]
      constructor
      · rintro ⟨middle, ⟨u, hu, hq⟩, v, hv, hr⟩
        refine ⟨u ++ v, Place.reads_append_iff.mpr ⟨middle, hu, hv⟩, u, v, rfl, ?_, ?_⟩
        · rwa [← hv.1]
        · rwa [← hu.2]
      · rintro ⟨_, h, u, v, rfl, hq, hr⟩
        obtain ⟨middle, hu, hv⟩ := Place.reads_append_iff.mp h
        refine ⟨middle, ⟨u, hu, ?_⟩, v, hv, ?_⟩
        · rwa [hv.1]
        · rwa [hu.2]

/-! ### Patterns within a line -/

/-- The pattern neither asks for the ends of lines nor matches a line feed. -/
def Inline : Pattern → Prop
  | lineStart => False
  | lineEnd => False
  | char p => p '\n' = false
  | many p => p '\n' = false
  | optional q => q.Inline
  | append q r => q.Inline ∧ r.Inline

def Accepts (q : Pattern) (text : List Char) : Prop := q.Spans none text []

theorem Inline.newline_notMem (h : q.Inline) (hspans : q.Spans before text after) :
    '\n' ∉ text := by
  induction q generalizing before text after with
  | lineStart => exact h.elim
  | lineEnd => exact h.elim
  | char p =>
      obtain ⟨c, rfl, hc⟩ := hspans
      intro hmem
      obtain rfl := List.mem_singleton.mp hmem
      exact absurd hc (by rw [h]; decide)
  | many p =>
      intro hmem
      exact absurd (hspans _ hmem) (by rw [h]; decide)
  | optional q ih =>
      rcases hspans with hspans | rfl
      · exact ih h hspans
      · exact List.not_mem_nil
  | append q r ihq ihr =>
      obtain ⟨u, v, rfl, hq, hr⟩ := hspans
      rw [List.mem_append, not_or]
      exact ⟨ihq h.1 hq, ihr h.2 hr⟩

/-- What stands around the text does not matter. -/
theorem Inline.spans_congr (h : q.Inline) (hspans : q.Spans before text after)
    (before' : Option Char) (after' : List Char) : q.Spans before' text after' := by
  induction q generalizing before text after before' after' with
  | lineStart => exact h.elim
  | lineEnd => exact h.elim
  | char p => exact hspans
  | many p => exact hspans
  | optional q ih => exact hspans.imp (fun hq => ih h hq _ _) id
  | append q r ihq ihr =>
      obtain ⟨u, v, rfl, hq, hr⟩ := hspans
      exact ⟨u, v, rfl, ihq h.1 hq _ _, ihr h.2 hr _ _⟩

theorem Inline.spans_iff (h : q.Inline) : q.Spans before text after ↔ q.Accepts text :=
  ⟨fun hspans => h.spans_congr hspans none [], fun hspans => h.spans_congr hspans before after⟩

def wholeLine (q : Pattern) : Pattern := lineStart ++ q ++ lineEnd

theorem spans_wholeLine_iff : q.wholeLine.Spans before text after ↔
    (∀ c ∈ before, c = '\n') ∧ q.Spans before text after ∧ ∀ c ∈ after.head?, c = '\n' := by
  constructor
  · rintro ⟨_, _, rfl, ⟨_, _, rfl, ⟨rfl, hstart⟩, hq⟩, rfl, hend⟩
    refine ⟨hstart, ?_, hend⟩
    simpa using hq
  · rintro ⟨hstart, hq, hend⟩
    refine ⟨text, [], by simp, ⟨[], text, rfl, ⟨rfl, hstart⟩, ?_⟩, rfl, hend⟩
    simpa using hq

/-! ### Where a whole line matches -/

theorem eq_nil_or_newline_of_head? {tail : List Char} (h : ∀ c ∈ tail.head?, c = '\n') :
    tail = [] ∨ ∃ rest, tail = '\n' :: rest := by
  cases tail with
  | nil => exact .inl rfl
  | cons c rest => exact .inr ⟨rest, by rw [h c rfl]⟩

/-- A line is what stands before the first line feed. -/
theorem takeWhile_line (hline : '\n' ∉ line) (hafter : ∀ c ∈ after.head?, c = '\n') :
    (line ++ after).takeWhile (· ≠ '\n') = line := by
  have hall : ∀ c ∈ line, decide (c ≠ '\n') = true := by
    intro c hc
    simp only [decide_eq_true_eq]
    rintro rfl
    exact hline hc
  rw [List.takeWhile_append_of_pos hall]
  rcases eq_nil_or_newline_of_head? hafter with rfl | ⟨rest, rfl⟩ <;> simp

theorem line_eq_of_append_eq (hline : '\n' ∉ line) (htext : '\n' ∉ text)
    (hafter : ∀ c ∈ after.head?, c = '\n') (hafter' : ∀ c ∈ after'.head?, c = '\n')
    (h : line ++ after = text ++ after') : line = text ∧ after = after' := by
  have heq : line = text := by
    rw [← takeWhile_line hline hafter, h, takeWhile_line htext hafter']
  subst heq
  exact ⟨rfl, List.append_cancel_left h⟩

theorem matchLength?_wholeLine_of_not_start {c : Char} (hc : c ≠ '\n') (s : List Char) :
    q.wholeLine.matchLength? ⟨some c, s⟩ = none := by
  have hnone : q.wholeLine.ends ⟨some c, s⟩ = [] := by
    rw [List.eq_nil_iff_forall_not_mem]
    intro final hfinal
    obtain ⟨text, -, hspans⟩ := mem_ends_iff.mp hfinal
    exact hc ((spans_wholeLine_iff.mp hspans).1 c rfl)
  rw [matchLength?, hnone]
  rfl

/-- At the start of a line the pattern matches the line, if it accepts it, and else nothing. -/
theorem Inline.matchLength?_wholeLine (h : q.Inline) [Decidable (q.Accepts line)]
    (hbefore : ∀ c ∈ before, c = '\n') (hline : '\n' ∉ line)
    (hafter : ∀ c ∈ after.head?, c = '\n') :
    q.wholeLine.matchLength? ⟨before, line ++ after⟩ =
      if q.Accepts line then some line.length else none := by
  -- all ends of matches are at the end of this line, whatever is tried first
  have hends {final : Place} : final ∈ q.wholeLine.ends ⟨before, line ++ after⟩ →
      final.rest = after ∧ q.Accepts line := by
    intro hfinal
    obtain ⟨text, hread, hspans⟩ := mem_ends_iff.mp hfinal
    obtain ⟨-, hq, hend⟩ := spans_wholeLine_iff.mp hspans
    obtain ⟨rfl, hrest⟩ := line_eq_of_append_eq hline (h.newline_notMem hq) hafter hend hread.1
    exact ⟨hrest.symm, h.spans_iff.mp hq⟩
  rw [matchLength?]
  split
  · next haccepts =>
      have hmem : ⟨line.getLast?.or before, after⟩ ∈ q.wholeLine.ends ⟨before, line ++ after⟩ :=
        mem_ends_iff.mpr ⟨line, ⟨rfl, rfl⟩,
          spans_wholeLine_iff.mpr ⟨hbefore, h.spans_iff.mpr haccepts, hafter⟩⟩
      obtain ⟨final, hfinal⟩ := Option.isSome_iff_exists.mp
        (List.isSome_head?.mpr (List.ne_nil_of_mem hmem))
      have hrest := (hends (List.mem_of_head? hfinal)).1
      simp [hfinal, hrest]
  · next haccepts =>
      have hnone : q.wholeLine.ends ⟨before, line ++ after⟩ = [] :=
        List.eq_nil_iff_forall_not_mem.mpr fun final hfinal => haccepts (hends hfinal).2
      rw [hnone]
      rfl

/-! ### Replacing -/

variable {new : List Char}

/-- What has been matched is passed over. -/
theorem replaceFrom_length (text after : List Char) (before : Option Char) :
    q.replaceFrom new text.length before (text ++ after) =
      q.replaceFrom new 0 (text.getLast?.or before) after := by
  induction text generalizing before with
  | nil => rfl
  | cons c text ih =>
      rw [List.length_cons, List.cons_append, replaceFrom, ih, getLast?_cons_or]

theorem replaceFrom_of_matchLength?_eq_none {c : Char} {rest : List Char}
    (h : q.matchLength? ⟨before, c :: rest⟩ = none) :
    q.replaceFrom new 0 before (c :: rest) = c :: q.replaceFrom new 0 (some c) rest := by
  rw [replaceFrom, h]

/-- Where no line starts, everything is kept up to the end of the line. -/
theorem replaceFrom_wholeLine_of_not_start {c : Char} (hc : c ≠ '\n') (htext : '\n' ∉ text)
    (after : List Char) :
    q.wholeLine.replaceFrom new 0 (some c) (text ++ after) =
      text ++ q.wholeLine.replaceFrom new 0 (text.getLast?.or (some c)) after := by
  induction text generalizing c with
  | nil => rfl
  | cons d text ih =>
      obtain ⟨hd, htext⟩ := not_or.mp (mt List.mem_cons.mpr htext)
      rw [List.cons_append,
        replaceFrom_of_matchLength?_eq_none (matchLength?_wholeLine_of_not_start hc _),
        ih (Ne.symm hd) htext, List.cons_append, getLast?_cons_or]

/-- No match starts at a line feed: the line that ends there is over, or there is none before it. -/
theorem Inline.replaceFrom_newline (h : q.Inline) (hnil : ¬q.Accepts []) (before : Option Char)
    (rest : List Char) : q.wholeLine.replaceFrom new 0 before ('\n' :: rest) =
      '\n' :: q.wholeLine.replaceFrom new 0 (some '\n') rest := by
  apply replaceFrom_of_matchLength?_eq_none
  by_cases hbefore : ∀ c ∈ before, c = '\n'
  · have hempty : Decidable (q.Accepts []) := .isFalse hnil
    have hmatch : q.wholeLine.matchLength? ⟨before, [] ++ '\n' :: rest⟩ =
        if q.Accepts [] then some 0 else none :=
      h.matchLength?_wholeLine hbefore List.not_mem_nil (by simp)
    rwa [if_neg hnil] at hmatch
  · push Not at hbefore
    obtain ⟨c, rfl, hc⟩ := hbefore
    exact matchLength?_wholeLine_of_not_start hc _

variable [DecidablePred q.Accepts]

theorem Inline.replaceFrom_line (h : q.Inline) (hnil : ¬q.Accepts [])
    (hbefore : ∀ c ∈ before, c = '\n') (hline : '\n' ∉ line)
    (hafter : ∀ c ∈ after.head?, c = '\n') :
    q.wholeLine.replaceFrom new 0 before (line ++ after) =
      (if q.Accepts line then new else line) ++
        q.wholeLine.replaceFrom new 0 (line.getLast?.or before) after := by
  cases line with
  | nil => simp [hnil]
  | cons c text =>
      obtain ⟨hc, htext⟩ := not_or.mp (mt List.mem_cons.mpr hline)
      have hmatch := h.matchLength?_wholeLine hbefore hline hafter
      rw [getLast?_cons_or]
      split
      · next haccepts =>
          rw [if_pos haccepts, List.length_cons, List.cons_append] at hmatch
          rw [List.cons_append, replaceFrom, hmatch]
          exact congrArg (new ++ ·) (replaceFrom_length text after (some c))
      · next haccepts =>
          rw [if_neg haccepts, List.cons_append] at hmatch
          rw [List.cons_append, replaceFrom_of_matchLength?_eq_none hmatch,
            replaceFrom_wholeLine_of_not_start (Ne.symm hc) htext, List.cons_append]

theorem Inline.replaceFrom_lines (h : q.Inline) (hnil : ¬q.Accepts [])
    (hbefore : ∀ c ∈ before, c = '\n') {lines : List (List Char)}
    (hlines : ∀ line ∈ lines, '\n' ∉ line) :
    q.wholeLine.replaceFrom new 0 before (joinWith '\n' lines) =
      joinWith '\n' (lines.map fun line => if q.Accepts line then new else line) := by
  induction lines generalizing before with
  | nil => rfl
  | cons line lines ih =>
      obtain ⟨hline, hlines⟩ := List.forall_mem_cons.mp hlines
      cases lines with
      | nil =>
          have hlast : q.wholeLine.replaceFrom new 0 before (line ++ []) =
              (if q.Accepts line then new else line) ++
                q.wholeLine.replaceFrom new 0 (line.getLast?.or before) [] :=
            h.replaceFrom_line hnil hbefore hline (by simp)
          simpa [replaceFrom, joinWith] using hlast
      | cons next lines =>
          have hne : (next :: lines).map (fun line => if q.Accepts line then new else line) ≠ [] :=
            List.cons_ne_nil _ _
          rw [joinWith_cons (List.cons_ne_nil next lines),
            h.replaceFrom_line hnil hbefore hline (by simp), h.replaceFrom_newline hnil,
            ih (by simp) hlines]
          exact (joinWith_cons hne _).symm

/-- Replacing the matches in a whole text is replacing the lines that the pattern accepts. -/
theorem Inline.replaceAll_wholeLine (h : q.Inline) (hnil : ¬q.Accepts []) (text : List Char) :
    q.wholeLine.replaceAll new text = joinWith '\n'
      ((splitAt '\n' text).map fun line => if q.Accepts line then new else line) := by
  have hlines : ∀ line ∈ splitAt '\n' text, '\n' ∉ line := notMem_of_splitAt rfl
  have hstart : ∀ c ∈ (none : Option Char), c = '\n' := nofun
  rw [replaceAll, ← h.replaceFrom_lines hnil hstart hlines, joinWith_splitAt]

end Pattern

end EntityMap.Text
