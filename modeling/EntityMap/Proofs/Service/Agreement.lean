import EntityMap.Proofs.Json
import EntityMap.Proofs.ScriptFile
import EntityMap.Proofs.Service.Payload
import EntityMap.Proofs.Text.Case
import EntityMap.Service

/-!
The ways in which a script can be given: as a text, in a file, as data of a request, and in a file
of a request. They are read and fail differently, but the same script has the same schema, or fails
for the same reason, in all of them. A script with a byte order mark in front or with carriage
returns is not the same text in a file.
-/

namespace EntityMap.Service

def Request.parse (body : String) : Request := ⟨"POST", "/schema/parse", .ofText body⟩

def Request.upload (name : String) (content : ByteArray) : Request :=
  ⟨"POST", "/schema/upload", .file "file" name content⟩

theorem Route.ofTarget?_path (route : Route) : Route.ofTarget? route.path = some route := by
  cases route <;> decide +kernel

/-! ### What reaches the parser -/

section

variable {ε : Type} (grammar : SqlGrammar ε) (settings : Settings) {script name body : String}

/-- Every script can be sent as data. -/
theorem read_script (script : String) :
    Json.read (ScriptFile.withoutMark (Json.quoteField "sql" script)) =
      .ok (.record [("sql", .text script)]) := by
  have hmark : (Json.quoteField "sql" script).toList.head? ≠ some '\uFEFF' := by
    simp [Json.quoteField]
  rw [ScriptFile.withoutMark_eq_self hmark, Json.read_quoteField]

theorem ofText_of_read {value : Value} (h : Json.read (ScriptFile.withoutMark body) = .ok value) :
    Body.ofText body = .data value := by
  rw [Body.ofText, if_neg, h]
  -- nothing is read from the empty text
  rintro rfl
  cases h

theorem respond_parse
    (h : Json.read (ScriptFile.withoutMark body) = .ok (.record [("sql", .text script)])) :
    respond grammar settings (.parse body) = respondToScript grammar settings script := by
  have hroute : Route.ofTarget? "/schema/parse" = some .parse := Route.ofTarget?_path .parse
  simp only [respond, Request.parse, hroute, ofText_of_read h]
  rfl

theorem isScriptName_iff : isScriptName name ↔
    ".sql".toList <:+ (Text.lower name).toList ∨ ".txt".toList <:+ (Text.lower name).toList := by
  simp [isScriptName]

/-- The empty text does not end like the name of a script. -/
theorem ne_empty_of_isScriptName (h : isScriptName name) : name ≠ "" := by
  rintro rfl
  exact absurd h (by decide)

theorem respond_upload (hmark : script.toList.head? ≠ some '\uFEFF') (hname : isScriptName name)
    (hsize : (script.utf8ByteSize : Int) ≤ settings.maxBytes) :
    respond grammar settings (.upload name script.toUTF8) =
      respondToScript grammar settings script := by
  have hroute : Route.ofTarget? "/schema/upload" = some .upload := Route.ofTarget?_path .upload
  have hlarge : ¬(script.toUTF8.size : Int) > settings.maxBytes := Int.not_lt.mpr hsize
  have hfile : respondToFile grammar settings (.file "file" name script.toUTF8) =
      respondToScript grammar settings script := by
    rw [respondToFile, if_neg (ne_empty_of_isScriptName hname), hname, Bool.not_true,
      if_neg Bool.false_ne_true, if_neg hlarge, ScriptFile.decode?_toUTF8 hmark]
  simp only [respond, Request.upload, hroute, hfile]
  rfl

theorem ofFile_toUTF8 (configured : List String) (path : String)
    (names : Option (List (Option String))) (hmark : script.toList.head? ≠ some '\uFEFF')
    (hreturn : '\r' ∉ script.toList) :
    Schema.ofFile grammar configured path (some script.toUTF8) names =
      (Schema.ofScript grammar configured (some script) names).mapError .parse := by
  rw [Schema.ofFile, ScriptFile.read?_toUTF8 hmark hreturn]

end

/-! ### What is sent back -/

theorem reply_schema (s : Schema) : (Response.schema s).reply = ⟨200, s.toValue⟩ := by
  rw [Response.reply, SchemaPayload.ofValue?_schema]
  dsimp only
  rw [SchemaPayload.toValue_ofSchema]

/-- The status for a script without a schema. -/
def statusOf : Script.ParseError → Nat
  | .emptyInput | .unparseable => 400
  | .dialects _ => 500

section

variable {ε : Type} {grammar : SqlGrammar ε} {settings : Settings} {script : String}

theorem reply_of_ok {s : Schema}
    (h : Schema.ofScript grammar settings.dialects (some script) none = .ok s) :
    (respondToScript grammar settings script).reply = ⟨200, s.toValue⟩ := by
  rw [respondToScript, h]
  exact reply_schema s

theorem reply_of_error {e : Script.ParseError}
    (h : Schema.ofScript grammar settings.dialects (some script) none = .error e) :
    (respondToScript grammar settings script).reply = .detail (statusOf e) (.text e.message) := by
  rw [respondToScript, h]
  cases e <;> rfl

end

/-- Each way to give a script leads to its schema or to the reason for which it has none. Data is
any text that reads as a record with the script in it. -/
theorem entryPoints_agree {ε : Type} (grammar : SqlGrammar ε) (settings : Settings)
    {script name body : String} (path : String) (hmark : script.toList.head? ≠ some '\uFEFF')
    (hreturn : '\r' ∉ script.toList)
    (hname : ".sql".toList <:+ (Text.lower name).toList ∨
      ".txt".toList <:+ (Text.lower name).toList)
    (hsize : (script.utf8ByteSize : Int) ≤ settings.maxBytes)
    (hbody : Json.read (ScriptFile.withoutMark body) = .ok (.record [("sql", .text script)])) :
    (∀ s, Schema.ofScript grammar settings.dialects (some script) none = .ok s →
      Schema.ofFile grammar settings.dialects path (some script.toUTF8) none = .ok s ∧
      (respond grammar settings (.parse body)).reply = ⟨200, s.toValue⟩ ∧
      (respond grammar settings (.upload name script.toUTF8)).reply = ⟨200, s.toValue⟩) ∧
    (∀ e, e = .emptyInput ∨ e = .unparseable →
      Schema.ofScript grammar settings.dialects (some script) none = .error e →
      Schema.ofFile grammar settings.dialects path (some script.toUTF8) none =
        .error (.parse e) ∧
      (respond grammar settings (.parse body)).reply = .detail 400 (.text e.message) ∧
      (respond grammar settings (.upload name script.toUTF8)).reply =
        .detail 400 (.text e.message)) ∧
    ∀ cause, Schema.ofScript grammar settings.dialects (some script) none =
        .error (.dialects cause) →
      Schema.ofFile grammar settings.dialects path (some script.toUTF8) none =
        .error (.parse (.dialects cause)) ∧
      (respond grammar settings (.parse body)).reply = .detail 500 (.text cause.message) ∧
      (respond grammar settings (.upload name script.toUTF8)).reply =
        .detail 500 (.text cause.message) := by
  have hfile := ofFile_toUTF8 grammar settings.dialects path none hmark hreturn
  rw [respond_parse grammar settings hbody,
    respond_upload grammar settings hmark (isScriptName_iff.mpr hname) hsize, hfile]
  refine ⟨fun s h => ?_, fun e he h => ?_, fun cause h => ?_⟩
  · rw [h, reply_of_ok h]
    exact ⟨rfl, rfl, rfl⟩
  · have hstatus : statusOf e = 400 := by
      rcases he with rfl | rfl <;> rfl
    rw [h, reply_of_error h, hstatus]
    exact ⟨rfl, rfl, rfl⟩
  · rw [h, reply_of_error h]
    exact ⟨rfl, rfl, rfl⟩

def counterScript : String := "CREATE TABLE counter (n INT DEFAULT 0)"

def counterSchema : Schema where
  tables := [⟨"counter", "counter", [⟨"n", "INT", false, false, false, false, none, some "0"⟩]⟩]
  relationships := []

theorem entryPoints_agree_counter :
    Schema.ofFile Sql.commands (Settings.ofTexts default).dialects "counter.sql"
        (some counterScript.toUTF8) none = .ok counterSchema ∧
      (respond Sql.commands (.ofTexts default)
          (.parse (Json.quoteField "sql" counterScript))).reply = ⟨200, counterSchema.toValue⟩ ∧
      (respond Sql.commands (.ofTexts default)
          (.upload "Counter.SQL" counterScript.toUTF8)).reply = ⟨200, counterSchema.toValue⟩ := by
  have hschema : Schema.ofScript Sql.commands (Settings.ofTexts default).dialects
      (some counterScript) none = .ok counterSchema := by
    have hoption : (Schema.ofScript Sql.commands (Settings.ofTexts default).dialects
        (some counterScript) none).toOption = some counterSchema := by
      decide +kernel
    generalize Schema.ofScript _ _ _ _ = result at hoption
    cases result with
    | ok s => exact congrArg Except.ok (Option.some.inj hoption)
    | error e => cases hoption
  exact (entryPoints_agree Sql.commands (.ofTexts default) "counter.sql" (by decide) (by decide)
    (.inl (by decide)) (by decide) (read_script counterScript)).1 counterSchema hschema

end EntityMap.Service
