import EntityMap.Reading

/-!
Reading a script by trying one dialect after another. The first dialect in which the grammar reads
the script wins; what the grammar does in the dialects after it does not matter. `Script.parse_iff`
tells the four outcomes of reading apart, and says that a schema is made of a script exactly if the
script is read.
-/

namespace EntityMap.Script

variable {ε α : Type} {grammar : Grammar ε α} {text : String} {dialects : List Dialect}
  {parsed : Parsed α}

/-! ### One dialect -/

def Fails (grammar : Grammar ε α) (text : String) (d : Dialect) : Prop :=
  ∃ e, grammar d text = .error e

/-- The grammar reads the text in the dialect of the result. Empty statements aside, the result has
the statements that are read, in their order. -/
def Reads (grammar : Grammar ε α) (text : String) (parsed : Parsed α) : Prop :=
  ∃ statements, grammar parsed.dialect text = .ok statements ∧
    parsed.statements.map some = statements.filter (·.isSome)

def reading? (grammar : Grammar ε α) (text : String) (d : Dialect) : Option (Parsed α) :=
  match grammar d text with
  | .ok statements => some ⟨d, statements.filterMap id⟩
  | .error _ => none

theorem map_some_filterMap_id (as : List (Option α)) :
    (as.filterMap id).map some = as.filter (·.isSome) := by
  induction as with
  | nil => rfl
  | cons a as ih =>
      cases a with
      | none => exact ih
      | some a => exact congrArg (some a :: ·) ih

theorem reading?_eq_none_iff {d : Dialect} :
    reading? grammar text d = none ↔ Fails grammar text d := by
  rw [reading?, Fails]
  cases grammar d text <;> simp

theorem reading?_eq_some_iff {d : Dialect} :
    reading? grammar text d = some parsed ↔ d = parsed.dialect ∧ Reads grammar text parsed := by
  obtain ⟨dialect, statements⟩ := parsed
  rw [reading?, Reads]
  constructor
  · intro h
    cases hread : grammar d text with
    | error e => simp [hread] at h
    | ok read =>
        simp only [hread, Option.some.injEq, Parsed.mk.injEq] at h
        obtain ⟨rfl, rfl⟩ := h
        exact ⟨rfl, read, hread, map_some_filterMap_id read⟩
  · rintro ⟨rfl, read, hread, hstatements⟩
    have hfilter : statements = read.filterMap id :=
      (List.map_inj_right fun _ _ => Option.some.inj).mp
        (hstatements.trans (map_some_filterMap_id read).symm)
    simp only [hread, hfilter]

/-! ### One dialect after another -/

/-- The result is read in the first of the dialects in which the grammar does not fail. -/
def ReadsFirst (grammar : Grammar ε α) (text : String) (dialects : List Dialect)
    (parsed : Parsed α) : Prop :=
  ∃ before after, dialects = before ++ parsed.dialect :: after ∧
    Reads grammar text parsed ∧ ∀ d ∈ before, Fails grammar text d

theorem firstMatch_eq_findSome? (grammar : Grammar ε α) (text : String) (dialects : List Dialect) :
    firstMatch grammar text dialects = dialects.findSome? (reading? grammar text) := by
  induction dialects with
  | nil => rfl
  | cons d rest ih =>
      rw [firstMatch, List.findSome?_cons, reading?, ih]
      cases grammar d text <;> rfl

theorem firstMatch_eq_none_iff :
    firstMatch grammar text dialects = none ↔ ∀ d ∈ dialects, Fails grammar text d := by
  simp only [firstMatch_eq_findSome?, List.findSome?_eq_none_iff, reading?_eq_none_iff]

theorem firstMatch_eq_some_iff :
    firstMatch grammar text dialects = some parsed ↔
      ReadsFirst grammar text dialects parsed := by
  simp only [firstMatch_eq_findSome?, List.findSome?_eq_some_iff, reading?_eq_none_iff,
    reading?_eq_some_iff]
  constructor
  · rintro ⟨before, d, after, hdialects, ⟨rfl, hread⟩, hbefore⟩
    exact ⟨before, after, hdialects, hread, hbefore⟩
  · rintro ⟨before, after, hdialects, hread, hbefore⟩
    exact ⟨before, parsed.dialect, after, hdialects, ⟨rfl, hread⟩, hbefore⟩

/-! ### Outcomes -/

/-- There is no script, or nothing but white space in it. -/
def Blank (script : Option String) : Prop :=
  ∀ text ∈ script, ∀ c ∈ text.toList, Text.isBlank c

theorem isEmpty_iff {script : Option String} : isEmpty script = true ↔ Blank script := by
  cases script <;> simp [isEmpty, Blank, Text.isAllBlank]

/-- The script is this text, which is not blank, and these are the dialects to try. -/
structure Tried (configured : List String) (names : Option (List (Option String)))
    (script : Option String) (text : String) (dialects : List Dialect) : Prop where
  script_eq : script = some text
  notBlank : ¬Blank script
  resolve_eq : Dialect.resolve configured names = .ok dialects

variable {configured : List String} {names : Option (List (Option String))}
  {script : Option String}

theorem parse_of_blank (h : Blank script) :
    parse grammar configured script names = .error .emptyInput := by
  rw [parse, if_pos (isEmpty_iff.mpr h)]

theorem parse_of_resolve_error {cause : Dialect.NameError} (h : ¬Blank script)
    (hnames : Dialect.resolve configured names = .error cause) :
    parse grammar configured script names = .error (.dialects cause) := by
  rw [parse, if_neg (mt isEmpty_iff.mp h), hnames]

theorem parse_of_tried (h : Tried configured names script text dialects) :
    parse grammar configured script names =
      match firstMatch grammar (stripSeparators text) (order text dialects) with
      | some parsed => .ok parsed
      | none => .error .unparseable := by
  rw [parse, if_neg (mt isEmpty_iff.mp h.notBlank), h.resolve_eq, h.script_eq]
  rfl

inductive Outcome (grammar : Grammar ε α) (configured : List String)
    (names : Option (List (Option String))) (script : Option String) :
    Except ParseError (Parsed α) → Prop where
  | blank (h : Blank script) : Outcome grammar configured names script (.error .emptyInput)
  | dialects {cause : Dialect.NameError} (h : ¬Blank script)
      (hnames : Dialect.resolve configured names = .error cause) :
      Outcome grammar configured names script (.error (.dialects cause))
  | unparseable {text : String} {dialects : List Dialect}
      (h : Tried configured names script text dialects)
      (hfails : ∀ d ∈ order text dialects, Fails grammar (stripSeparators text) d) :
      Outcome grammar configured names script (.error .unparseable)
  | parsed {text : String} {dialects : List Dialect} {parsed : Parsed α}
      (h : Tried configured names script text dialects)
      (hfirst : ReadsFirst grammar (stripSeparators text) (order text dialects) parsed) :
      Outcome grammar configured names script (.ok parsed)

theorem outcome_parse (grammar : Grammar ε α) (configured : List String)
    (names : Option (List (Option String))) (script : Option String) :
    Outcome grammar configured names script (parse grammar configured script names) := by
  by_cases hblank : Blank script
  · rw [parse_of_blank hblank]
    exact .blank hblank
  · cases hnames : Dialect.resolve configured names with
    | error cause =>
        rw [parse_of_resolve_error hblank hnames]
        exact .dialects hblank hnames
    | ok dialects =>
        cases hscript : script with
        | none => exact absurd (by simp [hscript, Blank]) hblank
        | some text =>
            subst hscript
            have htried : Tried configured names (some text) text dialects := ⟨rfl, hblank, hnames⟩
            rw [parse_of_tried htried]
            cases hfirst : firstMatch grammar (stripSeparators text) (order text dialects) with
            | none => exact .unparseable htried (firstMatch_eq_none_iff.mp hfirst)
            | some parsed => exact .parsed htried (firstMatch_eq_some_iff.mp hfirst)

theorem Outcome.eq_parse {result : Except ParseError (Parsed α)}
    (h : Outcome grammar configured names script result) :
    parse grammar configured script names = result := by
  cases h with
  | blank h => exact parse_of_blank h
  | dialects h hnames => exact parse_of_resolve_error h hnames
  | unparseable h hfails => rw [parse_of_tried h, firstMatch_eq_none_iff.mpr hfails]
  | parsed h hfirst => rw [parse_of_tried h, firstMatch_eq_some_iff.mpr hfirst]

theorem parse_eq_iff_outcome {result : Except ParseError (Parsed α)} :
    parse grammar configured script names = result ↔
      Outcome grammar configured names script result :=
  ⟨fun h => h ▸ outcome_parse grammar configured names script, Outcome.eq_parse⟩

theorem ofScript_eq_error_iff {sql : SqlGrammar ε} {e : ParseError} :
    Schema.ofScript sql configured script names = .error e ↔
      parse sql configured script names = .error e := by
  rw [Schema.ofScript]
  cases parse sql configured script names <;> simp [Except.map]

/-- Reading a script fails because the script is blank, or else because the dialects to try are not
known, or else because the grammar fails in each of them; or else it gives what is read in the first
dialect in which the grammar does not fail. A schema is made unless reading fails, and no other
error can occur. -/
theorem parse_iff (grammar : Grammar ε α) (configured : List String) (script : Option String)
    (names : Option (List (Option String))) :
    (parse grammar configured script names = .error .emptyInput ↔ Blank script) ∧
    (∀ cause, parse grammar configured script names = .error (.dialects cause) ↔
      ¬Blank script ∧ Dialect.resolve configured names = .error cause) ∧
    (parse grammar configured script names = .error .unparseable ↔
      ∃ text dialects, Tried configured names script text dialects ∧
        ∀ d ∈ order text dialects, Fails grammar (stripSeparators text) d) ∧
    (∀ parsed, parse grammar configured script names = .ok parsed ↔
      ∃ text dialects, Tried configured names script text dialects ∧
        ReadsFirst grammar (stripSeparators text) (order text dialects) parsed) ∧
    ∀ (sql : SqlGrammar ε) (e : ParseError),
      Schema.ofScript sql configured script names = .error e ↔
        parse sql configured script names = .error e := by
  refine ⟨parse_eq_iff_outcome.trans ⟨?_, .blank⟩,
    fun cause => parse_eq_iff_outcome.trans ⟨?_, fun h => .dialects h.1 h.2⟩,
    parse_eq_iff_outcome.trans ⟨?_, fun ⟨_, _, h, hfails⟩ => .unparseable h hfails⟩,
    fun parsed => parse_eq_iff_outcome.trans ⟨?_, fun ⟨_, _, h, hfirst⟩ => .parsed h hfirst⟩,
    fun sql e => ofScript_eq_error_iff⟩
  · intro h
    cases h with
    | blank h => exact h
  · intro h
    cases h with
    | dialects h hnames => exact ⟨h, hnames⟩
  · intro h
    cases h with
    | unparseable h hfails => exact ⟨_, _, h, hfails⟩
  · intro h
    cases h with
    | parsed h hfirst => exact ⟨_, _, h, hfirst⟩

end EntityMap.Script
