import EntityMap.Proofs.Dialect
import EntityMap.Proofs.Script.FirstMatch

/-!
The order in which dialects are tried. A dialect that the script names goes first, so a request for
one dialect may try another one before it. Where the script has been read, that one has failed
already; `Script.parse_dialect` says that asking for the dialect in which a script was read gives
the same result.
-/

namespace EntityMap

/-- A request for one dialect by its name. The settings do not matter. -/
theorem Dialect.resolve_name (configured : List String) (d : Dialect) :
    resolve configured (some [some d.name]) = .ok [d] := by
  rw [resolve, Option.getD_some, ofNames, ofNamesFrom, Option.bind_some, ofName?_name]
  rfl

namespace Script

variable {ε α : Type} {grammar : Grammar ε α} {text script : String} {dialects : List Dialect}
  {hint : Dialect} {parsed : Parsed α}

theorem order_of_hint (h : hint? text = some hint) (dialects : List Dialect) :
    order text dialects = hint :: dialects.filter (· ≠ hint) := by
  rw [order, h]

theorem order_of_no_hint (h : hint? text = none) (dialects : List Dialect) :
    order text dialects = dialects := by
  rw [order, h]

/-- The dialect in which a script is read stays the first one if no other is given. What may be
tried before it is the one that the text names, and that has failed. -/
theorem ReadsFirst.order_dialect (h : ReadsFirst grammar script (order text dialects) parsed) :
    ReadsFirst grammar script (order text [parsed.dialect]) parsed := by
  obtain ⟨before, after, horder, hread, hfails⟩ := h
  cases hhint : hint? text with
  | none =>
      rw [order_of_no_hint hhint]
      exact ⟨[], [], rfl, hread, by simp⟩
  | some hint =>
      rw [order_of_hint hhint] at horder ⊢
      by_cases hsame : parsed.dialect = hint
      · exact ⟨[], [], by simp [hsame], hread, by simp⟩
      · cases before with
        | nil => exact absurd (List.cons.inj horder).1.symm hsame
        | cons first before =>
            have hfirst : hint = first := (List.cons.inj horder).1
            refine ⟨[hint], [], by simp [hsame], hread, ?_⟩
            simpa [hfirst] using hfails first List.mem_cons_self

/-- Asking for the dialect in which a script was read gives the same result, whatever dialect the
script names and whatever the settings are. -/
theorem parse_dialect {configured : List String} {names : Option (List (Option String))}
    {script : Option String} (h : parse grammar configured script names = .ok parsed)
    (configured' : List String) :
    parse grammar configured' script (some [some parsed.dialect.name]) = .ok parsed := by
  cases parse_eq_iff_outcome.mp h with
  | parsed htried hfirst =>
      have hresolve := Dialect.resolve_name configured' parsed.dialect
      have houtcome : Outcome grammar configured' (some [some parsed.dialect.name]) script
          (.ok parsed) :=
        .parsed ⟨htried.script_eq, htried.notBlank, hresolve⟩ hfirst.order_dialect
      exact houtcome.eq_parse

/-- A grammar that knows two dialects, and drops a statement that is empty. -/
def postgresOrTsql : Grammar Unit String := fun d script =>
  if d = .postgres ∨ d = .tsql then .ok [some script, none] else .error ()

/-- The script names a dialect that is tried first and fails, both times. -/
theorem parse_dialect_misnamed :
    parse postgresOrTsql [] (some "-- MySQL\nGO") (some [some "SQLite", some "pg", some "tsql"]) =
        .ok ⟨.postgres, ["-- MySQL\n;"]⟩ ∧
      parse postgresOrTsql ["oracle"] (some "-- MySQL\nGO") (some [some "postgres"]) =
        .ok ⟨.postgres, ["-- MySQL\n;"]⟩ := by
  have h : parse postgresOrTsql [] (some "-- MySQL\nGO")
      (some [some "SQLite", some "pg", some "tsql"]) = .ok ⟨.postgres, ["-- MySQL\n;"]⟩ := by
    rfl
  exact ⟨h, parse_dialect h ["oracle"]⟩

end Script

end EntityMap
