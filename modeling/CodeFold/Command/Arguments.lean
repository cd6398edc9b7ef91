import CodeFold.Config.Basic

/-!
# Command lines

A command line names a command, with options before and after it. An option takes its value from the
same argument or from the next one, can be given once, and can be written in short form, several
short flags in one argument. After `--` all arguments are paths.
Specification: §11.4.
-/

namespace CodeFold

/-- The usual name of the configuration file. -/
def defaultConfigPath : String := "folding.toml"

/-- What the ranges of files are printed for. -/
structure RangesOptions where
  paths : List String := []
  config : Option String := none
  language : Option String := none
  format : Option OutputFormat := none
deriving DecidableEq, Repr

/-- What to do. -/
inductive Command where
  | ranges (options : RangesOptions)
  | validate (config : Option String)
  | init (force : Bool)
deriving DecidableEq, Repr

/-- A command and the options that all commands have. -/
structure Invocation where
  command : Command
  color : Option ColorChoice := none
  verbose : Bool := false
deriving DecidableEq, Repr

/-- What a command line asks for. -/
inductive Request where
  | run (invocation : Invocation)
  | version
  | help
  | invalid
deriving DecidableEq, Repr

namespace Arguments

/-- The names of the commands. -/
inductive CommandName where
  | ranges
  | validate
  | init
deriving DecidableEq, Repr

/-- The command of that name. -/
def CommandName.ofString? : String → Option CommandName
  | "ranges" => some ranges
  | "validate" => some validate
  | "init" => some init
  | _ => none

/-- The options. -/
inductive Flag where
  | color
  | verbose
  | config
  | language
  | format
  | force
  | help
  | version
deriving DecidableEq, Repr

namespace Flag

/-- The option with a long name. -/
def ofLong? : String → Option Flag
  | "color" => some color
  | "verbose" => some verbose
  | "config" => some config
  | "language" => some language
  | "format" => some format
  | "force" => some force
  | "help" => some help
  | "version" => some version
  | _ => none

/-- The option with a short name. -/
def ofShort? : Char → Option Flag
  | 'v' => some verbose
  | 'c' => some config
  | 'l' => some language
  | 'f' => some format
  | 'h' => some help
  | 'V' => some version
  | _ => none

/-- Whether an option has a value. -/
def hasValue : Flag → Bool
  | color | config | language | format => true
  | verbose | force | help | version => false

/-- Whether an option may stand behind a command, or in front of all. -/
def isKnown (command : Option CommandName) : Flag → Bool
  | color | verbose | help => true
  | version => command.isNone
  | config => command = some .ranges || command = some .validate
  | language | format => command = some .ranges
  | force => command = some .init

end Flag

/-- What has been read. -/
structure State where
  command : Option CommandName := none
  paths : List String := []
  config : Option String := none
  language : Option String := none
  format : Option OutputFormat := none
  color : Option ColorChoice := none
  verbose : Bool := false
  force : Bool := false
  /-- The options met since the command, or since the start. -/
  met : List Flag := []

/-- Reading ends early with a request. -/
abbrev Reading (α : Type) := Except Request α

/-- A request if there is none. -/
def required {α : Type} (a : Option α) : Reading α := a.elim (.error .invalid) .ok

/-- A path, which may not be empty. -/
def path (s : String) : Reading String := if s.isEmpty then .error .invalid else .ok s

/-- Sets an option without a value. -/
def setFlag (s : State) (flag : Flag) : Reading State :=
  if flag = .help then .error .help
  else if flag = .version then .error .version
  else if s.met.contains flag then .error .invalid
  else
    let s := { s with met := flag :: s.met }
    match flag with
    | .verbose => .ok { s with verbose := true }
    | .force => .ok { s with force := true }
    | _ => .ok s

/-- Sets an option to a value. -/
def setValue (s : State) (flag : Flag) (value : String) : Reading State :=
  if s.met.contains flag then .error .invalid
  else do
    let s := { s with met := flag :: s.met }
    match flag with
    | .color => return { s with color := some (← required (ColorChoice.ofName? value)) }
    | .config => return { s with config := some (← path value) }
    | .language => return { s with language := some value }
    | .format => return { s with format := some (← required (OutputFormat.ofName? value)) }
    | _ => return s

/-- What has been read, and the option whose value comes next. -/
abbrev Step := State × Option Flag

/-- Reads an argument that begins with two hyphens. -/
def long (s : State) (text : List Char) : Reading Step := do
  let (name, value) :=
    match text.span (· ≠ '=') with
    | (name, '=' :: value) => (name, some (String.ofList value))
    | (name, _) => (name, none)
  let flag ← required (Flag.ofLong? (String.ofList name))
  if !flag.isKnown s.command then .error .invalid
  else
    match flag.hasValue, value with
    | true, some value => return (← setValue s flag value, none)
    | true, none => return (s, some flag)
    | false, none => return (← setFlag s flag, none)
    | false, some _ => .error .invalid

/-- Reads the letters of an argument that begins with one hyphen. -/
def short (s : State) : List Char → Reading Step
  | [] => .ok (s, none)
  | c :: rest => do
    let flag ← required (Flag.ofShort? c)
    if !flag.isKnown s.command then .error .invalid
    else if flag.hasValue then
      match rest with
      | [] => return (s, some flag)
      | '=' :: value => return (← setValue s flag (String.ofList value), none)
      | value => return (← setValue s flag (String.ofList value), none)
    else short (← setFlag s flag) rest

/-- Reads an argument that is no option. -/
def positional (s : State) (arg : String) : Reading State :=
  match s.command with
  | some .ranges => do return { s with paths := s.paths ++ [← path arg] }
  | _ => .error .invalid

/-- Reads an argument in front of which no option waits for its value. -/
def argument (s : State) (arg : String) : Reading Step :=
  match s.command, CommandName.ofString? arg with
  | none, some name => .ok ({ s with command := some name, met := [] }, none)
  | none, none | some _, _ =>
    if s.command.isNone && arg = "help" then .error .help
    else
      match arg.toList with
      | '-' :: '-' :: text => long s text
      | '-' :: c :: rest => short s (c :: rest)
      | _ => do return (← positional s arg, none)

/-- Reads arguments one after the other. -/
def readAll : Step → List String → Reading State
  | (s, none), [] => .ok s
  | (_, some _), [] => .error .invalid
  | (s, some flag), arg :: rest =>
    -- An argument that looks like an option is no value.
    if arg.startsWith "-" && arg ≠ "-" then .error .invalid
    else do readAll (← setValue s flag arg, none) rest
  | (s, none), arg :: rest =>
    if arg = "--" then do
      rest.foldlM positional s
    else do readAll (← argument s arg) rest

/-- The invocation that has been read. -/
def State.invocation (s : State) : Reading Invocation := do
  let command ← match s.command with
    | none => .error .invalid
    | some .ranges => pure (.ranges ⟨s.paths, s.config, s.language, s.format⟩)
    | some .validate => pure (.validate s.config)
    | some .init => pure (.init s.force)
  return ⟨command, s.color, s.verbose⟩

end Arguments

/-- What some arguments ask for. -/
def Request.ofArguments (args : List String) : Request :=
  match (Arguments.readAll ({}, none) args >>= Arguments.State.invocation) with
  | .ok invocation => .run invocation
  | .error request => request

end CodeFold
