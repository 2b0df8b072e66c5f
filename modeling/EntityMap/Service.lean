import EntityMap.Json
import EntityMap.Reading
import EntityMap.Schema.Record
import EntityMap.Service.Payload
import EntityMap.Service.Target
import EntityMap.Settings

/-!
The service: requests for the schema of a script, and the responses to them.
-/

namespace EntityMap.Service

/-! ### Requests and responses -/

inductive Body where
  | empty
  | data (value : Value)
  /-- A text that is no structured data. -/
  | malformed
  /-- A text that has the form of structured data but is too large to be read. -/
  | oversized
  | file (field name : String) (content : ByteArray)

/-- What a request carries as a text, perhaps with a byte order mark in front. -/
def Body.ofText (text : String) : Body :=
  if text = "" then .empty
  else match Json.read (ScriptFile.withoutMark text) with
    | .ok value => .data value
    | .error .malformed => .malformed
    | .error .tooManyDigits | .error .tooDeep => .oversized

structure Request where
  method : String
  target : String
  body : Body

inductive Issue where
  | missing (place : List String)
  | notText (place : List String)
  | notRecord
  | malformed
  | unnamedFile
  deriving DecidableEq, Repr

def Issue.kind : Issue → String
  | missing _ => "missing"
  | notText _ => "string_type"
  | notRecord => "model_attributes_type"
  | malformed => "json_invalid"
  | unnamedFile => "value_error"

def Issue.place : Issue → List String
  | missing place | notText place => "body" :: place
  | notRecord | malformed => ["body"]
  | unnamedFile => ["body", "file"]

inductive Response where
  | healthy
  | schema (s : Schema)
  | failure (status : Nat) (reason : String)
  | invalid (issue : Issue)

structure Reply where
  status : Nat
  data : Value

def Reply.detail (status : Nat) (reason : Value) : Reply := ⟨status, .record [("detail", reason)]⟩

/-- The entry for an issue among the reasons of a reply, without its wording. -/
def Issue.entry (issue : Issue) : Value :=
  .record [("type", .text issue.kind), ("loc", .list (issue.place.map .text))]

/-- The reply that a response becomes. The data of a schema must have the form of what is sent. -/
def Response.reply : Response → Reply
  | healthy => ⟨200, .record [("status", .text "ok")]⟩
  | schema s =>
    match SchemaPayload.ofValue? s.toValue with
    | some payload => ⟨200, payload.toValue⟩
    | none => ⟨500, .text "Internal Server Error"⟩
  | failure status reason => .detail status (.text reason)
  | invalid issue => .detail 422 (.list [issue.entry])

/-! ### Routes -/

inductive Route where
  | health
  | parse
  | upload
  deriving DecidableEq, Repr

def Route.path : Route → String
  | health => "/health"
  | parse => "/schema/parse"
  | upload => "/schema/upload"

def Route.method : Route → String
  | health => "GET"
  | parse | upload => "POST"

def withoutSlashes (path : List Char) : List Char :=
  (path.reverse.dropWhile (· = '/')).reverse

/-- The route with a target. Slashes at the end of the path do not matter, nor does a line break in
front of them. -/
def Route.ofTarget? (target : String) : Option Route :=
  let path := withoutSlashes (targetPath target)
  [Route.health, .parse, .upload].find? fun route =>
    [route.path.toList, route.path.toList ++ ['\n']].contains path

/-! ### Answering -/

variable {ε : Type} (grammar : SqlGrammar ε) (settings : Settings)

/-- The response to a script. Only dialects that cannot be used are a fault of the service. -/
def respondToScript (script : String) : Response :=
  match Schema.ofScript grammar settings.dialects (some script) none with
  | .ok schema => .schema schema
  | .error (.dialects cause) => .failure 500 cause.message
  | .error e => .failure 400 e.message

def respondToData : Body → Response
  | .empty | .data .null => .invalid (.missing [])
  | .malformed => .invalid .malformed
  | .oversized => .failure 400 "There was an error parsing the body"
  | .file _ _ _ => .invalid .notRecord
  | .data value =>
    match value with
    | .record _ =>
      match value.field? "sql" with
      | none => .invalid (.missing ["sql"])
      | some (.text script) => respondToScript grammar settings script
      | some _ => .invalid (.notText ["sql"])
    | _ => .invalid .notRecord

def isScriptName (name : String) : Bool :=
  let name := (Text.lower name).toList
  [".sql", ".txt"].any fun ending => ending.toList.isSuffixOf name

def respondToFile : Body → Response
  | .file "file" name content =>
    if name = "" then .invalid .unnamedFile
    else if !isScriptName name then .failure 400 "Only .sql or .txt files are supported."
    else if content.size > settings.maxBytes then .failure 413 "SQL file is too large."
    else match ScriptFile.decode? content with
      | none => .failure 400 "SQL file must be UTF-8 encoded."
      | some script => respondToScript grammar settings script
  | _ => .invalid (.missing ["file"])

def respond (request : Request) : Response :=
  match Route.ofTarget? request.target with
  | none => .failure 404 "Not Found"
  | some route =>
    if request.method ≠ route.method then .failure 405 "Method Not Allowed"
    else match route with
      | .health => .healthy
      | .parse => respondToData grammar settings request.body
      | .upload => respondToFile grammar settings request.body

end EntityMap.Service
