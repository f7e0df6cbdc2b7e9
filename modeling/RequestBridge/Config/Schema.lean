import RequestBridge.Config.Basic
import RequestBridge.Config.Record
import RequestBridge.Json.Reader
import RequestBridge.Toml.Reader

/-! Configurations read from texts. -/
namespace RequestBridge

/-- The format of a name. -/
def LogFormat.ofName (name : String) : Config.Reading LogFormat :=
  match LogFormat.all.find? (·.name == name) with
  | some format => .ok format
  | none => .error (.mismatch (.unknownChoice name (LogFormat.all.map LogFormat.name)))

/-- A format in JSON: its name, or a table with its name as the only key and nothing behind
it. Anything else is a fault of the text. -/
def LogFormat.readJson : Document → Config.Reading LogFormat
  | .text name => ofName name
  | .fault f => .error (.fault f)
  | .table [] .closed => .error (.fault .syntaxError)
  | .table [] (.broken f) => .error (.fault f)
  | .table [] (.brokenAfterComma f) => .error (.fault f)
  | .table ((name, document) :: rest) tail => do
    let format ← ofName name
    match document, rest, tail with
    | .null, [], .closed => return format
    | .null, [], .broken f => throw (.fault f)
    | .null, _, _ => throw (.fault .syntaxError)
    | document, _, _ => Config.refuse .unit document
  | _ => .error (.fault .syntaxError)

/-- A format in TOML: its name, or a table with its name as the only key and an empty
table or list behind it. A list that is not empty is taken for a table, unless it is made
of tables with headings. -/
def LogFormat.readToml : Document → Config.Reading LogFormat
  | .text name => ofName name
  | .table [] _ => .error (.mismatch .noChoice)
  | .table [(name, document)] _ => do
    let format ← ofName name
    match document with
    | .table [] _ => return format
    | .list [] _ => return format
    | .tables [] => return format
    | .table _ _ => throw (.mismatch .filled)
    | .list _ _ => throw (.mismatch .filled)
    | .tables _ => throw (.mismatch .filledTables)
    | document => throw (.mismatch (.notATable document))
  | .table _ _ => .error (.mismatch .manyChoices)
  | _ => .error (.mismatch .notAChoice)

def LogFormat.read (format : Config.Format) (document : Document) : Config.Reading LogFormat :=
  match format with
  | .json => readJson document
  | .toml => readToml document

namespace Config

def Server.record : Record Server where
  name := "ServerConfig"
  fields := [.of "port" readWord fun s port => { s with port }]

def Workers.record : Record Workers where
  name := "RuntimeSection"
  fields := [
    .of "worker_threads" readOptionalSize fun s threads => { s with threads },
    .of "thread_name" readText fun s threadName => { s with threadName },
    .of "thread_stack_size" readOptionalSize fun s stackSize => { s with stackSize }]

def Frames.record : Record Frames where
  name := "FrameSection"
  fields := [.of "max_frame_len" readSize fun s maxLength => { s with maxLength }]

def Logging.record (format : Format) : Record Logging where
  name := "LoggingSection"
  fields := [
    .of "enabled" readBoolean fun s enabled => { s with enabled },
    .of "level" readText fun s level => { s with level },
    .of "format" (LogFormat.read format) fun s format => { s with format },
    .of "include_location" readBoolean fun s location => { s with location },
    .of "thread_ids" readBoolean fun s threadIds => { s with threadIds }]

/-- All of a configuration. A section that is given takes defaults for what it leaves out. -/
def record (format : Format) : Record Config where
  name := "KiriConfig"
  fields := [
    .of "server" (Server.record.read format {}) fun c server => { c with server },
    .of "runtime" (Workers.record.read format {}) fun c workers => { c with workers },
    .of "frame" (Frames.record.read format {}) fun c frames => { c with frames },
    .of "logging" ((Logging.record format).read format {}) fun c logging => { c with logging }]

/-- The configuration that a document gives. -/
def ofDocument (format : Format) (document : Document) : Reading Config :=
  (record format).read format {} document

/-- The configuration that a text gives. One notation is judged while it is read, so that
what does not fit goes before a fault behind it; the other is read as a whole first. -/
def ofText (format : Format) (text : String) : Reading Config :=
  match format with
  | .json => do
    let (document, finish) := Json.read (Utf8.encode text)
    let config ← ofDocument .json document
    finish.mapError .fault
    return config
  | .toml => do
    let document ← (Toml.parse text).mapError .fault
    ofDocument .toml document

end Config
end RequestBridge
