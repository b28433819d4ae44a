import ResourceEmbedding.CommandLine.Command

namespace ResourceEmbedding.CommandLine

def lineWidth : Nat := 100

def spaces (n : Nat) : String :=
  .ofList (List.replicate n ' ')

def OptionSpec.longForm (o : OptionSpec) : String :=
  s!"--{o.long}" ++ ((o.valueName?.map fun name => s!" <{name}>").getD "")

-- Both forms of an option; the place of a short form stays empty if there is none.
def OptionSpec.label (o : OptionSpec) : String :=
  ((o.short.map fun c => s!"-{c}, ").getD (spaces 4)) ++ o.longForm

def OptionSpec.description (o : OptionSpec) : String :=
  o.help ++ ((o.fallback?.map fun value => s!" [default: {value}]").getD "")

def longest (texts : List String) : Nat :=
  (texts.map (·.length)).foldl max 0

def padTo (width : Nat) (text : String) : String :=
  text ++ spaces (width - text.length)

-- Whether descriptions beside the options would get too little room: the options take more than two
-- fifths of a line, and a description does not fit into the rest.
def isCramped (specs : List OptionSpec) : Bool :=
  let taken := longest (specs.map (·.longForm)) + 12
  2 * lineWidth < 5 * taken && specs.any fun o => lineWidth - taken < o.description.length

def optionLines (specs : List OptionSpec) : List String :=
  if isCramped specs then
    specs.flatMap fun o => ["  " ++ o.label, spaces 10 ++ o.description]
  else
    let width := longest (specs.map (·.label))
    specs.map fun o => s!"  {padTo width o.label}  {o.description}"

def commandLines : List String :=
  let width := longest (Topic.commands.map (·.name))
  Topic.commands.map fun topic => s!"  {padTo width topic.name}  {topic.about}"

def Topic.usage : Topic → String
  | program => "embedgen [OPTIONS] <COMMAND>"
  | generate => "embedgen generate [OPTIONS] --handler <HANDLER>"
  | options => "embedgen options [OPTIONS] --handler <HANDLER>"
  | handlers => "embedgen handlers [OPTIONS]"
  | help => "embedgen help [COMMAND]..."

def paragraph (heading : String) (lines : List String) : String :=
  if lines.isEmpty then "" else s!"\n\n{heading}:\n" ++ "\n".intercalate lines

def Topic.helpText (topic : Topic) : String :=
  let commands := if topic = .program then commandLines else []
  let arguments :=
    if topic = .help then ["  [COMMAND]...  Print help for the subcommand(s)"] else []
  s!"{topic.about}\n\nUsage: {topic.usage}" ++ paragraph "Commands" commands ++
    paragraph "Arguments" arguments ++ paragraph "Options" (optionLines topic.specs) ++ "\n"

end ResourceEmbedding.CommandLine
