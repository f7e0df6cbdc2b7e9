import RequestBridge.Config.Schema

/-! Configurations from several sources.

Sources are taken in order, and each one replaces what the sources before it gave. The
first source that fails decides. -/
namespace RequestBridge.Config

inductive Preset where
  | defaults
  | development
  | production
deriving DecidableEq, Repr

def Preset.config : Preset → Config
  | .defaults => {}
  | .development => .development
  | .production => .production

/-- What is found where a file is looked for. -/
inductive File where
  | missing
  /-- Something that cannot be read as bytes. -/
  | unreadable
  | bytes (content : Bytes)
deriving DecidableEq, Repr

inductive Source where
  | preset (p : Preset)
  | text (content : String) (format : String)
  /-- A file by its name, which may be missing if it is optional. -/
  | file (name : String) (state : File) (optional : Bool)
deriving DecidableEq, Repr

inductive LoadError where
  | fileNotFound (name : String)
  | unreadable (name : String)
  | unsupported (name : String)
  | content (format : Format) (e : ReadError)
  | invalid (v : Violation)

def ReadError.message (format : Format) : ReadError → String
  | .fault .syntaxError => "syntax error"
  | .fault .ended => "unexpected end of text"
  | .mismatch m => m.message format

def LoadError.message : LoadError → String
  | .fileNotFound name => "configuration file not found: " ++ name
  | .unreadable name => "failed to read configuration file: " ++ name
  | .unsupported name => "unsupported configuration format: " ++ name
  | .content .toml e => "failed to parse TOML configuration: " ++ e.message .toml
  | .content .json e => "failed to parse JSON configuration: " ++ e.message .json
  | .invalid v => v.message

/-- The text with which a loading panics where it does not return the error. -/
def LoadError.panic? : LoadError → Option String
  | .invalid v => v.panic?
  | _ => none

/-- The notation of a name, in any letter case. Only plain ASCII letters have a case that
matters here. -/
def Format.ofName? (name : String) : Option Format :=
  let lower := String.ofList (name.toList.map Char.toLower)
  if lower = "toml" then some .toml
  else if lower = "json" then some .json
  else none

/-- The extension of a file: what follows the last point of its last component, unless
nothing stands in front of that point. -/
def extension? (name : String) : Option String :=
  let component := (name.toList.reverse.takeWhile (· != '/'))
  let back := component.takeWhile (· != '.')
  match component.dropWhile (· != '.') with
  | _ :: _ :: _ => some (String.ofList back.reverse)
  | _ => none

/-- The configuration that a text gives in a notation known by its name. -/
def ofNamedText (format? : Option Format) (name content : String) : Except LoadError Config :=
  match format? with
  | some format => (ofText format content).mapError (.content format)
  | none => .error (.unsupported name)

/-- The configuration after one more source. -/
def Source.apply (source : Source) (config : Config) : Except LoadError Config :=
  match source with
  | .preset p => .ok p.config
  | .text content format => ofNamedText (Format.ofName? format) format content
  | .file name .missing optional => if optional then .ok config else .error (.fileNotFound name)
  | .file name .unreadable _ => .error (.unreadable name)
  | .file name (.bytes bytes) _ =>
    match Utf8.decode? bytes with
    | none => .error (.unreadable name)
    | some content => ofNamedText ((extension? name).bind Format.ofName?) name content

/-- The configuration after some sources, from the defaults on. -/
def gather (sources : List Source) : Except LoadError Config :=
  sources.foldlM (fun config source => source.apply config) {}

/-- The configuration after some sources, if it is usable. -/
def load (sources : List Source) : Except LoadError Config := do
  let config ← gather sources
  config.check.mapError .invalid
  return config

end RequestBridge.Config
