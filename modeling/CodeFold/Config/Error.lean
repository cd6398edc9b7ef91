import CodeFold.Files.Tree
import CodeFold.Glob.Basic
import CodeFold.Language
import CodeFold.Rule.Codec
import CodeFold.Rule.Diagnostic

/-!
# Errors of configurations

Why a configuration cannot be read or is refused.
Specification: §11.1.
-/

namespace CodeFold

/-- Why a text is no configuration. -/
inductive ParseFault where
  /-- The text does not follow its format, or a part of it has the wrong type. -/
  | malformed
  | ruleList (fault : RuleListFault)
  | languageKey (key : String)

namespace ParseFault

/-- The words for what stands where rules or language keys are expected. -/
def detail? : ParseFault → Option String
  | malformed => none
  | ruleList fault => some fault.message
  | languageKey key => some (Language.invalidMessage key)

/-- The words for a fault. -/
def message (fault : ParseFault) : String := fault.detail?.getD "malformed text"

end ParseFault

/-- Why a configuration is refused after it was read. -/
inductive ConfigFault where
  | ruleKey (key : String)
  | languageGlob (language : Language) (glob : InvalidGlob)
  | excludeGlob (glob : InvalidGlob)
deriving DecidableEq, Repr

namespace ConfigFault

/-- The words for a fault. -/
def message : ConfigFault → String
  | ruleKey key => Language.invalidMessage key ++ " in [rules]"
  | languageGlob language glob =>
    "Invalid glob pattern '" ++ glob.source ++ "' for language '" ++ language.key ++ "': " ++
      glob.error.message glob.source
  | excludeGlob glob =>
    "Invalid exclude glob pattern '" ++ glob.source ++ "': " ++ glob.error.message glob.source

end ConfigFault

/-- Why a configuration file cannot be used (§11.1). -/
inductive ConfigError where
  | file (e : FileError)
  /-- There is no such file; `isDefault` tells whether it was looked for under the usual name. -/
  | missing (path : String) (isDefault : Bool)
  | parse (fault : ParseFault)
  | invalid (fault : ConfigFault)

namespace ConfigError

/-- The words for a file that cannot be used. -/
def fileMessage (reason : String) : String := "I/O error: " ++ reason

/-- The words for a text that is no configuration. -/
def parseMessage (reason : String) : String := "Invalid configuration syntax: " ++ reason

/-- The words for a configuration that is refused. -/
def invalidMessage (reason : String) : String := "Invalid configuration: " ++ reason

/-- The words for an error. -/
def message : ConfigError → String
  | file e => fileMessage e.message
  | missing path isDefault =>
    fileMessage (path ++ " not found." ++
      if isDefault then " Run 'foldrules init' to create it." else "")
  | parse fault => parseMessage fault.message
  | invalid fault => invalidMessage fault.message

/-- Whether the text is no configuration. -/
def isParse : ConfigError → Bool
  | parse _ => true
  | _ => false

end ConfigError

end CodeFold
