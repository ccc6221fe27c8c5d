import TypedImport.CommandLine.Arguments
import TypedImport.CommandLine.Styled
import TypedImport.Config.File
import TypedImport.Handler.Builtin
import TypedImport.Json.Printer
import TypedImport.Loader.Rehearsal

/-!
# The program

One typed import from the command line: the asset at a path is imported, and its exports are printed as
a JSON document. Tables of comma separated values, texts and lines have default handlers; JSON has a
handler of the host, which the fallback policy may choose.

**Failure.** The configuration is made first; then the handler asked for must be one that comes with the
library; then the import may fail. The first failure is told, with its causes, and nothing is printed.
-/

namespace TypedImport.CommandLine

/-- **What a run meets**: the files, where it is, where its configuration usually is, and the variables
of its environment. -/
structure Surroundings where
  disk : Disk
  directory : String
  usualConfig : Option String
  environment : List (String × String)

/-- **What a run leaves**: its exit code, what it printed and what it told beside that. -/
structure Outcome where
  exit : UInt32
  output : List String := []
  messages : List Styled := []

/-! ## Texts -/

def programName : String := "spacey-import"

def version : String := "0.1.0"

/-- How the program is called. -/
def usage : String := "Usage: " ++ programName ++ " [OPTIONS] --type <ASSERTED_TYPE> <PATH>"

/-- What the program tells of itself. -/
def helpLines : List String :=
  ["Import an asset through the Spacey typed-import pipeline",
   "",
   usage,
   "",
   "Arguments:",
   "  <PATH>  Asset to import, relative to the current directory",
   "",
   "Options:",
   "  -t, --type <ASSERTED_TYPE>  Asserted import type",
   "      --handler <HANDLER>     Built-in handler to pass inline (csv, json, text, lines)",
   "      --encoding <ENCODING>   Text encoding, or \x60blob\x60",
   "  -p, --policy <POLICY>       Fallback policy (registry-only, native-on-registry-miss,",
   "                              prefer-native)",
   "  -c, --config <CONFIG>       Config file (default: <config dir>/spacey/loader.toml)",
   "      --verbose               Enable verbose logging",
   "  -h, --help                  Print help",
   "  -V, --version               Print version"]

/-- A failure as it is told. -/
def failureLine (f : Failure) : Styled :=
  ⟨[(.error, "Error"), (.plain, ": " ++ f.line)]⟩

/-- A record as it is told of. -/
def importedLine (r : Record) : Styled :=
  ⟨[(.success, "Imported"), (.plain, " "), (.link, r.key.url),
    (.plain, " via handler " ++ r.handler.text ++ " (" ++ r.origin.name ++ ")")]⟩

/-! ## Handlers -/

def hostHandler : Handler :=
  Builtin.json.handler (HandlerId.allocate 0)

/-- The handlers that are defaults, each of the type with its name. -/
def defaults : List Builtin := [.csv, .text, .lines]

def registry : Registry :=
  defaults.zipIdx.foldl
    (fun r (b, i) =>
      match r.define [b.name] (b.handler (HandlerId.allocate (i + 1))) with
      | .ok (_, r) => r
      | .error _ => r)
    .empty

/-- The handler that the arguments ask for. -/
def assertedHandler : Option String → Except Failure AssertedHandler
  | none => .ok .absent
  | some name =>
    match Builtin.ofName? name with
    | some b => .ok (.inline (b.handler (HandlerId.allocate (defaults.length + 1))))
    | none =>
      .error
        ⟨"unknown built-in handler '" ++ name ++ "' (expected csv, json, text or lines)", []⟩

/-! ## Running -/

/-- The configuration of a run. -/
def configuration (a : Arguments) (s : Surroundings) : Except ConfigError Config :=
  Config.load (Config.fileToRead s.disk s.directory s.usualConfig a.config) s.environment
    (a.policy.map fun value => (Setting.policy.key, value)).toList

/-- The loader of a run. -/
def loader (config : Config) (s : Surroundings) : Loader :=
  .build config (Url.ofDirectoryPath? s.directory) registry
    { host := (NativeTable.usual hostHandler).host } {} (.disk s.disk)

/-- **Makes the import**: the record, and the counters after it. -/
def importAsset (a : Arguments) (s : Surroundings) : Except Failure (Record × Stats) := do
  let config ← (configuration a s).mapError ConfigError.failure
  let handler ← assertedHandler a.handler
  let (result, stage) := ({ loader := loader config s } : Rehearsal.LoaderStage).runImport
    (.specifier a.path none ⟨a.type, handler, a.encoding⟩ .dynamic)
  match result with
  | some (.ok served) => return (served.made.record, stage.loader.stats)
  | some (.error e) => throw ⟨e.message, []⟩
  | none => throw ⟨"the import has not ended", []⟩

/-- **Runs the program** with the words after its name. -/
def run (args : List String) (s : Surroundings) : Outcome :=
  match Arguments.read args with
  | .error .help => { exit := 0, output := helpLines }
  | .error .version => { exit := 0, output := [programName ++ " " ++ version] }
  | .error .misuse => { exit := 2, messages := [⟨[(.plain, usage)]⟩] }
  | .ok a =>
    match importAsset a s with
    | .error f => { exit := 1, messages := [failureLine f] }
    | .ok (record, stats) =>
      { exit := 0
        output := Json.prettyLines record.namespaceValue
        messages :=
          if a.verbose then [importedLine record, ⟨[(.faint, stats.summary)]⟩] else [] }

/-! ## What a run reads -/

/-- **The paths of the files that a run may read**, the asset's path last. -/
def filesToRead (args : List String) (directory : String) (usualConfig : Option String) :
    List Bytes :=
  match Arguments.read args with
  | .error _ => []
  | .ok a =>
    let config := (a.config.or usualConfig).map fun path => Utf8.encode (rootedPath directory path)
    let asset :=
      match Specifier.resolve (Url.ofDirectoryPath? directory) none a.path with
      | .ok url => url.toFilePath?
      | .error _ => none
    config.toList ++ asset.toList

/-- The variables of an environment given as entries with a zero byte after each. -/
def environmentOf (bytes : Bytes) : List (String × String) :=
  match Utf8.decode bytes with
  | .error _ => []
  | .ok s =>
    (Text.splitOn '\x00' s).filterMap fun entry =>
      (Text.cutFirst '=' entry.toList).map fun (name, value) =>
        (String.ofList name, String.ofList value)

/-- **The usual place of the configuration**, below the directory for configurations. -/
def usualConfig? (environment : List (String × String)) : Option String :=
  let base :=
    match (environment.lookup "XDG_CONFIG_HOME").filter isAbsolutePath with
    | some directory => some directory
    | none =>
      ((environment.lookup "HOME").filter fun (home : String) => !home.isEmpty).map (· ++ "/.config")
  base.map (· ++ "/spacey/loader.toml")

end TypedImport.CommandLine
