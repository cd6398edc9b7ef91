import CodeFold.Data.SortedMap
import CodeFold.Rule.Compile

/-!
# Configurations

A configuration has rules for languages, the globs by which the language of a file is found, the
globs of files to leave out, and what the output should look like. Several keys can name one
language; its rules are then those of all of them in the order of the keys.
Specification: §10.
-/

namespace CodeFold

/-- How ranges are written. -/
inductive OutputFormat where
  | human
  | jsonl
deriving DecidableEq, Repr

/-- When output has colours. -/
inductive ColorChoice where
  | auto
  | always
  | never
deriving DecidableEq, Repr

namespace OutputFormat

/-- The name of a format. -/
def name : OutputFormat → String
  | human => "human"
  | jsonl => "jsonl"

/-- The format of that name. -/
def ofName? : String → Option OutputFormat
  | "human" => some human
  | "jsonl" => some jsonl
  | _ => none

end OutputFormat

namespace ColorChoice

/-- The name of a choice. -/
def name : ColorChoice → String
  | auto => "auto"
  | always => "always"
  | never => "never"

/-- The choice of that name. -/
def ofName? : String → Option ColorChoice
  | "auto" => some auto
  | "always" => some always
  | "never" => some never
  | _ => none

end ColorChoice

/-- What output should look like. -/
structure OutputSettings where
  format : OutputFormat := .human
  color : ColorChoice := .auto
deriving DecidableEq, Repr

/-- A configuration (§10). -/
structure Config where
  exclude : List String := []
  /-- The rules under each key as it is written. -/
  rules : SortedMap String RuleList := []
  languages : SortedMap Language (List String) := []
  output : OutputSettings := {}

namespace Config

/-- Sets the rules under a key. -/
def setRules (c : Config) (key : String) (list : RuleList) : Config :=
  { c with rules := c.rules.insert key list }

/-- The entries under the keys that name a language. -/
def rulesFor (c : Config) (language : Language) : List RuleEntry :=
  (c.rules.filter fun (key, _) => Language.ofString? key = some language).flatMap (·.2.entries)

/-- The languages with rules of their own, in order. -/
def ruleLanguages (c : Config) : List Language :=
  let languages := c.rules.keys.filterMap Language.ofString?
  (SortedMap.ofList ((languages.filter (!·.isWildcard)).map (·, ()))).keys

/-- Compiles the rules for a language, then those for every language (§3). -/
def compile (c : Config) (language : Language) : RuleSet × List Diagnostic :=
  let specific := if language.isWildcard then [] else c.rulesFor language
  RuleSet.compile language specific (c.rulesFor .wildcard)

end Config

end CodeFold
