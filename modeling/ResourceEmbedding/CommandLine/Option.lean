import ResourceEmbedding.Text.Split

namespace ResourceEmbedding.CommandLine

inductive OptionKind
  | flag
  | value (name : String) (fallback : Option String)
  -- An option with a value that is a path, and not empty.
  | path (name : String) (fallback : Option String)
  | values (name : String)
  -- Asks for help, whatever else is given.
  | help
  | version
deriving DecidableEq, Repr

structure OptionSpec where
  long : String
  short : Option Char := none
  kind : OptionKind
  help : String
deriving DecidableEq, Repr

namespace OptionSpec

def valueName? (o : OptionSpec) : Option String :=
  match o.kind with
  | .value name _ | .path name _ | .values name => some name
  | .flag | .help | .version => none

def fallback? (o : OptionSpec) : Option String :=
  match o.kind with
  | .value _ fallback | .path _ fallback => fallback
  | _ => none

end OptionSpec

inductive UsageError
  | unexpected (argument : String)
  | missingValue (option : String)
  | needlessValue (option : String)
  | emptyValue (option : String)
  | repeated (option : String)
  | missingOption (option : String)
  | missingCommand
  | unknownCommand (name : String)
deriving DecidableEq, Repr

def UsageError.message : UsageError → String
  | unexpected argument => s!"unexpected argument '{argument}'"
  | missingValue option => s!"a value is required for '--{option}'"
  | needlessValue option => s!"'--{option}' takes no value"
  | emptyValue option => s!"the value of '--{option}' is empty"
  | repeated option => s!"'--{option}' is given more than once"
  | missingOption option => s!"'--{option}' is required"
  | missingCommand => "a command is required"
  | unknownCommand name => s!"unknown command '{name}'"

-- The options given, first to last, with their values; a flag has none.
abbrev Given := List (OptionSpec × Option String)

namespace Given

def has (given : Given) (long : String) : Bool :=
  given.any (·.1.long == long)

def all (given : Given) (long : String) : List String :=
  (given.filter (·.1.long == long)).filterMap (·.2)

def get? (given : Given) (long : String) : Option String :=
  (given.all long).head?

def add (given : Given) (o : OptionSpec) (value : Option String) : Except UsageError Given := do
  match o.kind with
  | .values _ => return given ++ [(o, value)]
  | .path .. => if value == some "" then throw (.emptyValue o.long)
  | _ => pure ()
  if given.has o.long then throw (.repeated o.long)
  return given ++ [(o, value)]

end Given

inductive Ending
  | done
  | help
  | version
  | word (word : String) (rest : List String)
deriving DecidableEq, Repr

structure Reading where
  given : Given := []
  -- An option whose value is the next argument.
  pending : Option OptionSpec := none
  ending : Option Ending := none

namespace Reading

def option (r : Reading) (o : OptionSpec) (value : Option String) : Except UsageError Reading := do
  match o.valueName?, value with
  | some _, none => return { r with pending := some o }
  | some _, some value => return { r with given := ← r.given.add o value }
  | none, some _ => throw (.needlessValue o.long)
  | none, none =>
    match o.kind with
    | .help => return { r with ending := some .help }
    | .version => return { r with ending := some .version }
    | _ => return { r with given := ← r.given.add o none }

def longOption (specs : List OptionSpec) (r : Reading) (argument : String) (cs : List Char) :
    Except UsageError Reading := do
  let name := String.ofList (cs.takeWhile (· != '='))
  let some o := specs.find? (·.long == name) | throw (.unexpected argument)
  r.option o <| match cs.dropWhile (· != '=') with
    | [] => none
    | _ :: value => some (.ofList value)

-- Reads options of one letter. What stands behind an option that takes a value is its value, with
-- or without an equals sign in front.
def shortOptions (specs : List OptionSpec) (r : Reading) (argument : String) :
    List Char → Except UsageError Reading
  | [] => .ok r
  | c :: rest => do
    let some o := specs.find? (·.short == some c) | throw (.unexpected argument)
    if o.valueName?.isSome then
      r.option o <| match rest with
        | [] => none
        | '=' :: value | value => some (.ofList value)
    else
      let r ← r.option o none
      if r.ending.isSome then return r
      shortOptions specs r argument rest

-- Reads arguments one after the other. A lone hyphen is no option, and behind two hyphens nothing
-- may follow.
def readAll (specs : List OptionSpec) (r : Reading) : List String → Except UsageError (Given × Ending)
  | [] =>
    match r.pending with
    | some o => .error (.missingValue o.long)
    | none => .ok (r.given, .done)
  | argument :: rest => do
    match r.pending, argument.toList with
    | some o, '-' :: _ :: _ => throw (.missingValue o.long)
    | some o, _ => readAll specs { r with given := ← r.given.add o argument, pending := none } rest
    | none, ['-', '-'] =>
      match rest with
      | [] => return (r.given, .done)
      | next :: _ => throw (.unexpected next)
    | none, '-' :: c :: cs =>
      let r ← if c = '-' then r.longOption specs argument cs
        else r.shortOptions specs argument (c :: cs)
      match r.ending with
      | some ending => return (r.given, ending)
      | none => readAll specs r rest
    | none, _ => return (r.given, .word argument rest)

end Reading

def readOptions (specs : List OptionSpec) (arguments : List String) :
    Except UsageError (Given × Ending) :=
  Reading.readAll specs {} arguments

end ResourceEmbedding.CommandLine
