import ResourceEmbedding.CommandLine.Help
import ResourceEmbedding.CommandLine.SettingsFile
import ResourceEmbedding.Files.System
import ResourceEmbedding.Generator.Catalog
import ResourceEmbedding.Json.Printer

namespace ResourceEmbedding.CommandLine

inductive Problem
  | settingsFileUnreadable (path cause : String)
  -- Nothing more is said of a text that is malformed.
  | settingsFileInvalid (path : String) (cause : Option String)
  | setting (error : SettingError)
  | invalidInclude (pattern : String)
  | rootNotDirectory (root : String)
  | request (failure : Failure)
  | reportUnwritable (path : String) (cause : StreamFailure)
  | unknownHandler (name : String) (available : List String)
  | schema (failure : Failure)

namespace Problem

-- What is wrong, and what caused it where that is something else.
def parts : Problem → String × Option String
  | settingsFileUnreadable path cause => (s!"Failed to read options file {path}", cause)
  | settingsFileInvalid path cause => (s!"Invalid options file {path}", cause)
  | setting error => (error.message, none)
  | invalidInclude pattern => (s!"Invalid include pattern \x60{pattern}\x60", none)
  | rootNotDirectory root => (s!"Resource root {root} is not a directory", none)
  | request failure => ("Failed to assemble the processing context", failure.message)
  | reportUnwritable path cause => (s!"Failed to write report to {path}", cause.message)
  | unknownHandler name available =>
    let listed := ", ".intercalate available
    (s!"Unknown handler \x60{name}\x60 (available: {listed})", none)
  | schema failure => (failure.message, none)

def indented (text : String) : String :=
  .ofList (text.toList.flatMap fun c => if c = '\n' then c :: List.replicate 4 ' ' else [c])

def message (p : Problem) : String :=
  let (text, cause) := p.parts
  s!"Error: {text}" ++ ((cause.map fun cause => s!"\n\nCaused by:\n    {indented cause}").getD "")

def ofSettingsFile (path : String) : SettingsFileError → Problem
  | .stream failure => settingsFileUnreadable path failure.message
  | .notUtf8 => settingsFileUnreadable path "stream did not contain valid UTF-8"
  | .malformed => settingsFileInvalid path none
  | .unusable key kind => settingsFileInvalid path
    s!"option \x60{key}\x60 must be a string, number or boolean, got {kind}"

end Problem

structure Report where
  outcome : Outcome
  diagnostics : List Diagnostic

namespace Report

def hasFailed (r : Report) : Bool :=
  r.diagnostics.any (·.severity == .error)

def status (r : Report) : String :=
  if r.hasFailed then "error" else "ok"

def json (r : Report) : Json :=
  .object [("status", toJson r.status), ("outcome", toJson r.outcome),
    ("diagnostics", toJson r.diagnostics)]

end Report

structure Response where
  exitCode : Nat
  output : String := ""
  errors : String := ""
deriving DecidableEq, Repr

namespace Response

def line (text : String) : Response :=
  ⟨0, text ++ "\n", ""⟩

def ofProblem (p : Problem) : Response :=
  ⟨1, "", p.message ++ "\n"⟩

def ofUsageError (e : UsageError) : Response :=
  ⟨2, "", s!"error: {e.message}\n\nFor more information, try '--help'.\n"⟩

end Response

-- The settings of a file, where one is named, and then those of the arguments.
def mergeSettings (ofFile : List Setting) (arguments : List String) :
    Except Problem (List Setting) := do
  let given ← arguments.mapM fun text =>
    match Setting.read? text with
    | some setting => .ok setting
    | none => .error (.setting (.malformed text))
  return ofFile ++ given

def readGlobs (patterns : List String) : Except Problem (List Glob) :=
  patterns.mapM fun pattern =>
    (Glob.read false pattern.toList).mapError fun _ => .invalidInclude pattern

-- Everything the arguments say of a request, but for its resources and settings.
def draftOf (arguments : GenerateArguments) : Draft where
  package := arguments.package
  site := ⟨arguments.site, arguments.annotation⟩
  output := ⟨arguments.sources, arguments.resources⟩

section

variable {m : Type → Type} [Monad m]

def loadSettings (fs : FileSystem m) (path : Option String) : m (Except Problem (List Setting)) :=
  match path with
  | none => return .ok []
  | some path => do
    return (SettingsFile.readSource (← fs.openFile path)).mapError (.ofSettingsFile path)

-- The file at a path below a root as a resource. Its path is written with slashes, and under that
-- path the file is opened.
def openResource (fs : FileSystem m) (root path : String) : m Resource := do
  let path := slashed path
  return ⟨path, ← fs.openFile (joinPath root path)⟩

def assemble (fs : FileSystem m) (arguments : GenerateArguments) : ExceptT Problem m Request := do
  let ofFile ← ExceptT.mk (loadSettings fs arguments.settingsFile)
  let settings ← ExceptT.mk (pure (mergeSettings ofFile arguments.settings))
  let globs ← ExceptT.mk (pure (readGlobs arguments.includes))
  let some survey ← fs.survey arguments.root | throw (.rootNotDirectory arguments.root)
  let resources ← ExceptT.lift <| (survey.select globs).mapM (openResource fs arguments.root)
  let draft := { draftOf arguments with resources, settings }
  ExceptT.mk (pure (draft.build.mapError .request))

def report (fs : FileSystem m) (arguments : GenerateArguments) : ExceptT Problem m Report := do
  let result := Catalog.standard.run (← assemble fs arguments) arguments.handler
  return ⟨result.value, result.diagnostics⟩

def generate (fs : FileSystem m) (arguments : GenerateArguments) : ExceptT Problem m Response := do
  let report ← report fs arguments
  let exitCode := if report.hasFailed then 1 else 0
  let text := report.json.pretty
  match arguments.out with
  | none => return { Response.line text with exitCode }
  | some path =>
    match ← fs.writeFile path text with
    | .ok () => return { exitCode }
    | .error cause => throw (.reportUnwritable path cause)

end

def describeHandler (catalog : Catalog) (name : String) : Except Problem String :=
  match catalog.get? name with
  | none => .error (.unknownHandler name catalog.keys)
  | some generator => (generator.schema.mapError .schema).map (·.usage)

def Response.ofExcept : Except Problem Response → Response
  | .ok response => response
  | .error problem => .ofProblem problem

def Command.run {m : Type → Type} [Monad m] (fs : FileSystem m) : Command → m Response
  | .generate arguments => do return .ofExcept (← (CommandLine.generate fs arguments).run)
  | .options handler => return .ofExcept ((describeHandler .standard handler).map .line)
  | .handlers => return .line ("\n".intercalate Catalog.standard.keys)
  | .help topic => return ⟨0, topic.helpText, ""⟩
  | .version => return .line "embedgen 0.1.0"

def run {m : Type → Type} [Monad m] (fs : FileSystem m) (arguments : List String) : m Response :=
  match Command.read arguments with
  | .ok command => command.run fs
  | .error e => return .ofUsageError e

end ResourceEmbedding.CommandLine
