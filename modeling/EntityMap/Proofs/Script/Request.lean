import EntityMap.Proofs.Script.Order

/-!
Requests that name the dialects to try. `Script.requestOrder_hintFirst` says when a request is
refused, and in which order its dialects are tried: the one that the script names is the first, and
the others have the places of their first names. Nothing but the first ten lines of the script
matters.
-/

namespace EntityMap.Script

open Dialect (FirstsOf named)

variable {hint : Option Dialect} {given dialects : List Dialect} {script : String}

/-- The dialects in which a script is tried, for a request that names some or leaves them to the
settings. -/
def requestOrder (configured : List String) (script : String)
    (names : Option (List (Option String))) : Except Dialect.NameError (List Dialect) :=
  (Dialect.resolve configured names).map (order script)

/-- The dialects that are given and the one that is hinted at, each once. The hint is the first, and
the others stand in the order in which they are first given. -/
structure HintFirst (hint : Option Dialect) (given dialects : List Dialect) : Prop where
  nodup : dialects.Nodup
  mem_iff (d : Dialect) : d ∈ dialects ↔ d ∈ given ∨ hint = some d
  head (d : Dialect) : hint = some d → dialects.head? = some d
  sorted : (dialects.filter (hint ≠ some ·)).Pairwise fun d d' => given.idxOf d < given.idxOf d'

theorem hintFirst_order (h : FirstsOf given dialects) (script : String) :
    HintFirst (hint? script) given (order script dialects) := by
  cases hhint : hint? script with
  | none =>
      rw [order_of_no_hint hhint]
      refine ⟨h.nodup, fun d => by simp [h.mem_iff], nofun, ?_⟩
      simpa using h.sorted
  | some hint =>
      rw [order_of_hint hhint]
      have hothers : (hint :: dialects.filter (· ≠ hint)).filter (some hint ≠ some ·) =
          dialects.filter (· ≠ hint) := by
        simp [List.filter_filter, eq_comm]
      refine ⟨?_, fun d => ?_, ?_, ?_⟩
      · exact List.nodup_cons.mpr ⟨by simp, h.nodup.filter _⟩
      · by_cases hd : d = hint
        · simp [hd]
        · simp [hd, Ne.symm hd, h.mem_iff]
      · rintro d hd
        simpa using hd
      · rw [hothers]
        exact h.sorted.filter _

theorem order_order (script : String) (dialects : List Dialect) :
    order script (order script dialects) = order script dialects := by
  cases hhint : hint? script with
  | none => simp only [order_of_no_hint hhint]
  | some hint => simp [order_of_hint hhint, List.filter_filter]

theorem order_ne_nil (h : dialects ≠ []) (script : String) : order script dialects ≠ [] := by
  cases hhint : hint? script with
  | none => rwa [order_of_no_hint hhint]
  | some hint => simp [order_of_hint hhint]

theorem requestOrder_eq_ok_iff {configured : List String} {names : List (Option String)} :
    requestOrder configured script (some names) = .ok dialects ↔
      ∃ found, Dialect.ofNames names = .ok found ∧ order script found = dialects := by
  rw [requestOrder, Dialect.resolve, Option.getD_some]
  cases Dialect.ofNames names <;> simp [Except.map]

theorem exists_requestOrder_eq_error_iff {configured : List String}
    {names : List (Option String)} :
    (∃ cause, requestOrder configured script (some names) = .error cause) ↔
      ∃ cause, Dialect.ofNames names = .error cause := by
  rw [requestOrder, Dialect.resolve, Option.getD_some]
  cases Dialect.ofNames names <;> simp [Except.map]

/-- What reading does with a request: the dialects are tried in its order. -/
theorem parse_eq_firstMatch {ε α : Type} (grammar : Grammar ε α) (configured : List String)
    (names : Option (List (Option String))) (h : Text.isAllBlank script = false) :
    parse grammar configured (some script) names =
      match requestOrder configured script names with
      | .error cause => .error (.dialects cause)
      | .ok dialects => match firstMatch grammar (stripSeparators script) dialects with
        | some parsed => .ok parsed
        | none => .error .unparseable := by
  have hempty : isEmpty (some script) = false := h
  rw [parse, hempty, requestOrder]
  cases Dialect.resolve configured names <;> rfl

/-- A request is refused just if it names nothing, or names what is no dialect. Otherwise the
dialects that it names are tried after the one that the script hints at; they may as well be asked
for in the order in which they are tried. Of the script, the first ten lines decide. -/
theorem requestOrder_hintFirst (configured : List String) (script : String)
    (names : List (Option String)) :
    ((∃ cause, requestOrder configured script (some names) = .error cause) ↔
        names = [] ∨ ∃ name ∈ names, name.bind Dialect.ofName? = none) ∧
      (∀ dialects, requestOrder configured script (some names) = .ok dialects →
        HintFirst (hint? script) (names.filterMap (·.bind Dialect.ofName?)) dialects ∧
          requestOrder configured script (some (dialects.map (some ·.name))) = .ok dialects) ∧
      ∀ script', (Text.splitAt '\n' script'.toList).take 10 =
          (Text.splitAt '\n' script.toList).take 10 →
        requestOrder configured script' (some names) =
          requestOrder configured script (some names) := by
  refine ⟨?_, ?_, ?_⟩
  · rw [exists_requestOrder_eq_error_iff, Dialect.exists_ofNames_eq_error_iff]
  · intro dialects h
    obtain ⟨found, hfound, rfl⟩ := requestOrder_eq_ok_iff.mp h
    have hfirsts := FirstsOf.ofNames hfound
    have horder := hintFirst_order hfirsts script
    have hne := order_ne_nil (Dialect.ofNames_eq_ok_iff.mp hfound).2 script
    refine ⟨horder, requestOrder_eq_ok_iff.mpr ⟨_, ?_, order_order script found⟩⟩
    exact Dialect.ofNames_map_name hne horder.nodup
  · intro script' hlines
    have hhint : hint? script' = hint? script := by
      rw [hint?, hint?, hintLines, hlines]
    have horder : order script' = order script := by
      funext dialects
      rw [order, hhint, order]
    rw [requestOrder, horder, requestOrder]

def lateHint (last : String) : String := "-- shop 9\n\t-- MSSQL \n\n\n\n\n\n\n\n\n" ++ last

theorem requestOrder_hintFirst_lateHint :
    let names := [some "pg", some "TSQL", some " PostgreSQL ", some "mariadb"]
    let dialects : List Dialect := [.tsql, .postgres, .mysql]
    requestOrder [] (lateHint "-- sqlite") (some names) = .ok dialects ∧
      HintFirst (hint? (lateHint "-- sqlite")) [.postgres, .tsql, .postgres, .mysql] dialects ∧
      requestOrder [] (lateHint "-- sqlite") (some (dialects.map (some ·.name))) = .ok dialects ∧
      requestOrder [] (lateHint "-- oracle") (some names) = .ok dialects := by
  intro names dialects
  have h : requestOrder [] (lateHint "-- sqlite") (some names) = .ok dialects := by rfl
  obtain ⟨-, hok, hlines⟩ := requestOrder_hintFirst [] (lateHint "-- sqlite") names
  obtain ⟨hfirst, hagain⟩ := hok dialects h
  refine ⟨h, hfirst, hagain, (hlines (lateHint "-- oracle") ?_).trans h⟩
  decide +kernel

end EntityMap.Script
