import ResourceEmbedding.Bundle.Grouping
import ResourceEmbedding.Bundle.Message
import ResourceEmbedding.Generator.Embed
import ResourceEmbedding.Properties.Basic
import ResourceEmbedding.Text.Utf8

namespace ResourceEmbedding.Generator.Messages

def onBadTemplate : Reporter :=
  ⟨"on_bad_template", "How to report malformed or inconsistent message templates"⟩

def ownDeclarations : List Declaration := [
  ⟨"embed_source", "Also embed the bundle files themselves (true|false)", .boolean⟩,
  onBadTemplate.declaration]

def schema : Except Failure Schema := do
  let own ← (Schema.ofDeclarations "messages" ownDeclarations).mapError .setting
  (own.extend (← Embed.schema)).mapError .setting

def readFile (resource : Resource) : Except Failure (KeyMap String) := do
  let path := resource.path
  let bytes ← resource.readAll.mapError (.ofStream path)
  let text ← (Utf8.decode bytes).mapError fun fault =>
    .bundle path 0 s!"not valid UTF-8: {fault.message}"
  (Properties.read (.ofList text)).mapError fun fault => .bundle path fault.line fault.reason

-- The templates of each key, by locale.
abbrev LocalizedMessages := KeyMap (KeyMap String)

def addEntries (messages : LocalizedMessages) (locale : String) (entries : KeyMap String) :
    LocalizedMessages :=
  entries.entries.foldl (fun messages (key, template) =>
    messages.upsert key fun templates => (templates.getD default).insert locale template) messages

def load (request : Request) (bundle : Bundle) : Logged LocalizedMessages :=
  bundle.entries.foldlM (fun messages (locale, resource) => do
    match readFile resource with
    | .ok entries => return addEntries messages locale entries
    | .error e =>
      if e.isMissing then let _ ← onMissing.report request e.message
      else request.error e.message
      return messages) default

def localeLabel (locale : String) : String :=
  if locale.isEmpty then "default locale" else locale

-- The shapes of all templates, or what is wrong with the first bad one.
def shapesOf (bundle key : String) (templates : KeyMap String) : Except String (List Shape) :=
  templates.entries.mapM fun (locale, template) =>
    (analyze template).mapError fun e =>
      s!"Key \x60{key}\x60 of bundle \x60{bundle}\x60 ({localeLabel locale}): {e.message}"

-- The function for the message of one key of a bundle of `localeCount` files, or what is wrong with
-- its templates.
def functionOf (namer : Naming) (bundle key : String) (templates : KeyMap String)
    (localeCount : Nat) : Except String MessageFunction := do
  let shapes ← shapesOf bundle key templates
  let kinds ← (Message.joinShapes shapes).mapError fun index =>
    s!"Key \x60{key}\x60 of bundle \x60{bundle}\x60 uses argument {index} " ++
      "as both number and date across locales"
  return {
    name := namer.memberName key
    bundle
    key
    params := kinds.mapIdx fun index kind => ⟨s!"arg{index}", kind⟩
    localeParam := shapes.any (·.needsLocale) || 1 < localeCount
    timeZoneParam := shapes.any (·.needsTimeZone)
    templates }

def functionsOf (request : Request) (path : String) (bundle : Bundle) :
    Logged (List Definition) := do
  if (bundle.get? "").isNone then
    request.warning (s!"Bundle \x60{path}\x60 has no default-locale file; " ++
      "lookups fall back to the first locale")
  let messages ← load request bundle
  messages.entries.filterMapM fun (key, templates) => do
    match functionOf request.namer path key templates bundle.size with
    | .ok f => return some (.messageFunction f)
    | .error problem =>
      let _ ← onBadTemplate.report request problem
      return none

def warnOfOthers (request : Request) : Logged Unit :=
  request.resources.forM fun r => do
    if (BundleFile.ofResource? r).isNone then
      request.warning
        s!"Resource \x60{r.path}\x60 is not a {bundleExtension} bundle and was ignored"

def functions (request : Request) : Logged (List Definition) := do
  warnOfOthers request
  let bundles := bundlesOf request.resources
  return (← bundles.entries.mapM fun (path, bundle) => functionsOf request path bundle).flatten

-- The request to embed the files of the bundles: their resources, and the settings that `embed`
-- declares.
def embedRequest (request : Request) : Except Failure Request := do
  let schema ← Embed.schema
  { request.toDraft with
    settings := request.settings.filter fun s => (schema.find? s.key).isSome
    resources := request.resources.filter fun r =>
      bundleExtension.toList.isSuffixOf r.path.toList }.build

-- The functions for all bundles, and behind them the constants of the files if they are asked for.
def generate (request : Request) : Processing (List Definition) := do
  let request := applyNaming request
  let functions ← functions request
  if Settings.getBool request.settings "embed_source" false then
    return functions ++ (← Embed.generate (← embedRequest request))
  else return functions

end ResourceEmbedding.Generator.Messages

namespace ResourceEmbedding.Generator

def messages : Generator :=
  ⟨"messages", Messages.schema, Messages.generate⟩

end ResourceEmbedding.Generator
