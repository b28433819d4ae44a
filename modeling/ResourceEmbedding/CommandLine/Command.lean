import ResourceEmbedding.CommandLine.Option

namespace ResourceEmbedding.CommandLine

inductive Topic
  | program
  | generate
  | options
  | handlers
  | help
deriving DecidableEq, Repr

namespace Topic

def commands : List Topic := [.generate, .options, .handlers, .help]

def name : Topic → String
  | program => "embedgen"
  | generate => "generate"
  | options => "options"
  | handlers => "handlers"
  | help => "help"

def about : Topic → String
  | program => "Generate resource-embedding definitions"
  | generate => "Run a handler over the resources under a directory and print the result as JSON"
  | options => "Print the options a handler accepts"
  | handlers => "List the registered handlers"
  | help => "Print this message or the help of the given subcommand(s)"

def ofName? (name : String) : Option Topic :=
  commands.find? (·.name == name)

end Topic

def verboseOption : OptionSpec :=
  ⟨"verbose", some 'v', .flag, "Enable verbose logging"⟩

def quietOption : OptionSpec :=
  ⟨"quiet", none, .flag, "Quiet mode: log only warnings/errors (stdout is reserved for JSON)"⟩

def helpOption : OptionSpec :=
  ⟨"help", some 'h', .help, "Print help"⟩

def versionOption : OptionSpec :=
  ⟨"version", some 'V', .version, "Print version"⟩

def generateOptions : List OptionSpec := [
  ⟨"handler", none, .value "HANDLER" none, "Handler to run (embed, lazy, messages)"⟩,
  verboseOption,
  ⟨"package", none, .value "PACKAGE" (some ""), "Package the generated definitions belong to"⟩,
  quietOption,
  ⟨"site", none, .value "SITE" (some "embedgen"),
    "Element the request is attached to, used to locate diagnostics"⟩,
  ⟨"annotation", none, .value "ANNOTATION" none, "Annotation name shown with the site"⟩,
  ⟨"root", none, .path "ROOT" (some "."), "Directory resource paths are relative to"⟩,
  ⟨"include", none, .values "INCLUDE",
    "Glob selecting resources, relative to the root (repeatable; default: every file)"⟩,
  ⟨"option", some 'o', .values "KEY=VALUE", "Handler option as key=value (repeatable)"⟩,
  ⟨"options-file", none, .path "OPTIONS_FILE" none,
    "TOML file with an [options] table, applied before --option flags"⟩,
  ⟨"sources-dir", none, .path "SOURCES_DIR" none, "Directory the host writes generated sources to"⟩,
  ⟨"resources-dir", none, .path "RESOURCES_DIR" none, "Directory the host copies resources to"⟩,
  ⟨"out", none, .path "OUT" none, "Write the JSON report to this file instead of stdout"⟩,
  helpOption]

def Topic.specs : Topic → List OptionSpec
  | program => [verboseOption, quietOption, helpOption, versionOption]
  | generate => generateOptions
  | options =>
    [⟨"handler", none, .value "HANDLER" none, "Handler to describe"⟩, verboseOption, quietOption,
      helpOption]
  | handlers => [verboseOption, quietOption, helpOption]
  | help => []

structure GenerateArguments where
  handler : String
  package : String
  site : String
  annotation : Option String := none
  root : String
  includes : List String := []
  settings : List String := []
  settingsFile : Option String := none
  sources : Option String := none
  resources : Option String := none
  out : Option String := none
deriving DecidableEq, Repr

inductive Command
  | generate (arguments : GenerateArguments)
  | options (handler : String)
  | handlers
  | help (topic : Topic)
  | version
deriving DecidableEq, Repr

namespace Command

def required (given : Given) (long : String) : Except UsageError String :=
  match given.get? long with
  | some value => .ok value
  | none => .error (.missingOption long)

def ofGiven (topic : Topic) (given : Given) : Except UsageError Command := do
  let value (long : String) : String :=
    let fallback := (topic.specs.find? (·.long == long)).bind (·.fallback?)
    (given.get? long <|> fallback).getD ""
  match topic with
  | .program | .help => return .help topic
  | .handlers => return .handlers
  | .options => return .options (← required given "handler")
  | .generate =>
    return .generate {
      handler := ← required given "handler"
      package := value "package"
      site := value "site"
      annotation := given.get? "annotation"
      root := value "root"
      includes := given.all "include"
      settings := given.all "option"
      settingsFile := given.get? "options-file"
      sources := given.get? "sources-dir"
      resources := given.get? "resources-dir"
      out := given.get? "out"
    }

-- Help about the command that some words name, one after the other. No command has commands of its
-- own.
def helpAbout : List String → Except UsageError Command
  | [] => .ok (.help .program)
  | name :: rest =>
    match Topic.ofName? name, rest with
    | some topic, [] => .ok (.help topic)
    | some _, next :: _ => .error (.unknownCommand next)
    | none, _ => .error (.unknownCommand name)

def read (arguments : List String) : Except UsageError Command := do
  match (← readOptions Topic.program.specs arguments).2 with
  | .done => throw .missingCommand
  | .help => return .help .program
  | .version => return .version
  | .word name rest =>
    match Topic.ofName? name with
    | none => throw (.unknownCommand name)
    | some .help => helpAbout rest
    | some topic =>
      let (given, ending) ← readOptions topic.specs rest
      match ending with
      | .done => ofGiven topic given
      | .help => return .help topic
      | .version => return .version
      | .word word _ => throw (.unexpected word)

end Command

end ResourceEmbedding.CommandLine
