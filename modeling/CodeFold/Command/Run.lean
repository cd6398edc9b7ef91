import CodeFold.Command.Arguments
import CodeFold.Command.Starter
import CodeFold.Config.Decode
import CodeFold.Report.Human
import CodeFold.Report.Jsonl
import CodeFold.Report.Validation

/-!
# Commands

What each command prints, with which code it ends, and which files it leaves.
Specification: §11.4.
-/

namespace CodeFold

/-- Why a command gives up. -/
inductive Failure where
  | config (e : ConfigError)
  | validation (e : ConfigError)
  | walk (e : WalkError)
  | language (key : String)
  | path (reason : String)

namespace Failure

/-- The words for a configuration that cannot be used. -/
def configMessage (reason : String) : String := "Configuration error: " ++ reason

/-- The words for a rule that is dropped. -/
def ruleMessage (reason : String) : String := "Rule error: " ++ reason

/-- The words for a file that cannot be read. -/
def readMessage (file reason : String) : String := "Failed to read " ++ file ++ ": " ++ reason

/-- The words for a failure. -/
def message : Failure → String
  | config e => configMessage e.message
  | validation e => e.message
  | walk e => "File walker error: " ++ e.message
  | language key => "Invalid language '" ++ key ++ "'"
  | path reason => "Path error: " ++ reason

/-- The code with which a command ends: 3 for a text that is no configuration, else 2 (§11.4). -/
def exitCode : Failure → UInt32
  | config e | validation e => if e.isParse then 3 else 2
  | walk _ | language _ | path _ => 2

end Failure

/-- What a command leaves behind. -/
structure Outcome where
  exitCode : UInt32
  stdout : String
  stderr : String
  workspace : Workspace

/-- What a command runs in. -/
structure Surroundings where
  /-- Whether colours are used when nothing else decides. -/
  colorTerminal : Bool
  /-- The words for the fault of a pattern. -/
  describe : PatternError → String

namespace Command

/-- Loads the configuration of a command. -/
def loadConfig (w : Workspace) (path : Option String) : Except ConfigError Config :=
  let path := path.getD defaultConfigPath
  if w.exists? path then Config.load w path
  else .error (.missing path (Path.same path defaultConfigPath))

/-- Whether output has colours. -/
def colors (env : Surroundings) (flag : Option ColorChoice) (config : Config) : Bool :=
  match flag.getD config.output.color with
  | .always => true
  | .never => false
  | .auto => env.colorTerminal

/-- The files that some paths name. A path of a file always counts; directories are walked. -/
def discover (w : Workspace) (config : Config) (forced : Option Language) (paths : List String) :
    Except WalkError (List FileEntry) := do
  let detector ← (Detector.ofLanguages config.languages).mapError .invalidGlob
  let found ← paths.mapM fun path =>
    if w.isFile path then .ok [⟨path, forced <|> detector.detect path⟩]
    else Walk.entries w path detector config.exclude forced
  return found.flatten

/-- Reads the language that all files are taken for. -/
def forcedLanguage (key : Option String) : Except Failure (Option Language) :=
  match key with
  | none => .ok none
  | some key => (Language.ofString? key).elim (.error (.language key)) fun l => .ok (some l)

/-- What the command `ranges` prints (§11.4). -/
def printRanges (env : Surroundings) (w : Workspace) (color : Option ColorChoice)
    (o : RangesOptions) : Except Failure String := do
  let config ← (loadConfig w o.config).mapError .config
  let forced ← forcedLanguage o.language
  let (registry, _) := Registry.build config
  let paths := if o.paths.isEmpty then ["."] else o.paths
  let files ← (discover w config forced paths).mapError .walk
  let results := registry.execute w.readText files
  return match o.format.getD config.output.format with
    | .human => renderPieces (colors env color config) results.human
    | .jsonl => results.jsonl

/-- What the command `validate` prints, and whether all rules are valid (§11.4). -/
def printValidation (env : Surroundings) (w : Workspace) (color : Option ColorChoice)
    (path : Option String) : Except Failure (String × Bool) := do
  let config ← (loadConfig w path).mapError .validation
  let report := ValidationReport.ofConfig env.describe config
  return (renderPieces (colors env color config) report.pieces, report.isValid)

/-- What the command `init` prints and the files it leaves (§11.4). -/
def writeStarter (w : Workspace) (force : Bool) : Except Failure (String × Workspace) :=
  let path := Path.join "." defaultConfigPath
  if w.isDirectory path then .error (.path ("'" ++ path ++ "' exists but is a directory"))
  else if w.exists? path && !force then
    .ok (path ++ " already exists. Use --force to overwrite it.\n", w)
  else
    .ok ("Created " ++ path ++ ". Adjust the rules for your languages.\n",
      w.writeText defaultConfigPath starterConfig)

end Command

/-- The outcome of a failure. -/
def Failure.outcome (w : Workspace) (f : Failure) : Outcome :=
  ⟨f.exitCode, "", "Error: " ++ f.message ++ "\n", w⟩

/-- Runs a command. -/
def Invocation.run (env : Surroundings) (w : Workspace) (i : Invocation) : Outcome :=
  match i.command with
  | .ranges options =>
    match Command.printRanges env w i.color options with
    | .ok text => ⟨0, text, "", w⟩
    | .error f => f.outcome w
  | .validate path =>
    match Command.printValidation env w i.color path with
    | .ok (text, valid) => ⟨if valid then 0 else 1, text, "", w⟩
    | .error f => f.outcome w
  | .init force =>
    match Command.writeStarter w force with
    | .ok (text, w) => ⟨0, text, "", w⟩
    | .error f => f.outcome w

/-- The text that `--version` prints. -/
def versionText : String := "foldrules 0.1.0\n"

/-- The text that tells how commands are written. -/
def usageText : String :=
  "Compute code folding ranges from declarative rules

Usage: foldrules [OPTIONS] <COMMAND>

Commands:
  ranges    Print folding ranges for files
  validate  Compile every rule and report invalid ones
  init      Write a starter folding.toml

Options:
      --color <COLOR>  auto, always or never
  -v, --verbose        Log compile and scan details to stderr
  -h, --help           Print help
  -V, --version        Print version
"

/-- Answers a command line. -/
def Request.answer (env : Surroundings) (w : Workspace) : Request → Outcome
  | .run invocation => invocation.run env w
  | .version => ⟨0, versionText, "", w⟩
  | .help => ⟨0, usageText, "", w⟩
  | .invalid => ⟨2, "", usageText, w⟩

end CodeFold
