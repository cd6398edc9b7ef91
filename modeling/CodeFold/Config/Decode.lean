import CodeFold.Config.Basic
import CodeFold.Config.Error
import CodeFold.Data.JsonReader
import CodeFold.Data.Toml.Reader

/-!
# Reading configurations

A configuration is written in JSON or in TOML. It is taken apart in the order of the text, and the
first fault counts. Unknown fields are ignored; settings can also be given as a list, by position.
Specification: §10, §11.3.
-/

namespace CodeFold

/-- The format of a text. -/
inductive DataFormat where
  | json
  | toml
deriving DecidableEq, Repr

/-- The result of taking data apart. -/
abbrev Decoded (α : Type) := Except ParseFault α

namespace DataTree

mutual

/-- Whether a value comes to its end. -/
def isWhole : DataTree → Bool
  | array items closed => closed && areWhole items
  | object members closed => closed && membersAreWhole members
  | broken => false
  | null | bool _ | number _ | string _ => true

/-- Whether values come to their ends. -/
def areWhole : List DataTree → Bool
  | [] => true
  | t :: ts => t.isWhole && areWhole ts

/-- Whether the values of members come to their ends. -/
def membersAreWhole : List (Option String × DataTree) → Bool
  | [] => true
  | (_, t) :: rest => t.isWhole && membersAreWhole rest

end

/-- Goes on only if a condition holds. -/
def ensure (b : Bool) : Decoded Unit := if b then .ok () else .error .malformed

/-- Reads a text. -/
def decodeString : DataTree → Decoded String
  | string (some s) => .ok s
  | _ => .error .malformed

/-- Reads a list of texts. -/
def decodeStrings : DataTree → Decoded (List String)
  | array items closed => do
    let strings ← items.mapM decodeString
    ensure closed
    return strings
  | _ => .error .malformed

/-- Whether a value says no more than that it is there. -/
def isUnit (format : DataFormat) : DataTree → Bool
  | null => format = .json
  | array [] true | object [] true => format = .toml
  | _ => false

/-- Reads a name, or an object with the name as its only key and a value that says nothing. -/
def decodeName {α : Type} (format : DataFormat) (ofName? : String → Option α) :
    DataTree → Decoded α
  | string (some s) => (ofName? s).elim (.error .malformed) .ok
  | object [(some s, value)] true => do
    ensure (value.isUnit format)
    (ofName? s).elim (.error .malformed) .ok
  | _ => .error .malformed

/-- Reads the fields of an object one after the other. `read` takes a field that has not been met and
says whether it knows it. -/
def decodeFields {α : Type} (read : α → String → DataTree → Option (Decoded α)) :
    List String → α → List (Option String × DataTree) → Decoded α
  | _, a, [] => .ok a
  | _, _, (none, _) :: _ => .error .malformed
  | met, a, (some key, value) :: rest =>
    match read a key value with
    | none => do
      ensure value.isWhole
      decodeFields read met a rest
    | some result => do
      ensure (!met.contains key)
      decodeFields read (key :: met) (← result) rest

/-- Reads fields given by position. -/
def decodePositions {α : Type} (format : DataFormat)
    (read : α → String → DataTree → Option (Decoded α)) :
    α → List String → List DataTree → Decoded α
  | a, _, [] => .ok a
  | a, [], _ :: _ => do
    -- More values than fields count as a fault in one format only.
    ensure (format = .toml)
    return a
  | a, key :: keys, value :: rest =>
    match read a key value with
    | none => .error .malformed
    | some result => do decodePositions format read (← result) keys rest

/-- Reads fields by name or by position. -/
def decodeStruct {α : Type} (format : DataFormat) (keys : List String)
    (read : α → String → DataTree → Option (Decoded α)) (start : α) : DataTree → Decoded α
  | object members closed => do
    let a ← decodeFields read [] start members
    ensure closed
    return a
  | array items closed => do
    let a ← decodePositions format read start keys items
    ensure closed
    return a
  | _ => .error .malformed

/-- Reads what is under each key of an object. `readKey` sees a key before its value is looked at. -/
def decodeMap {κ α : Type} (readKey : String → Decoded κ) (readValue : DataTree → Decoded α) :
    DataTree → Decoded (List (κ × α))
  | object members closed => do
    let pairs ← members.mapM fun (key, value) => do
      let key ← key.elim (.error .malformed) readKey
      return (key, ← readValue value)
    ensure closed
    return pairs
  | _ => .error .malformed

end DataTree

namespace OutputSettings

/-- Reads one setting. -/
def readField (format : DataFormat) (o : OutputSettings) (key : String) (value : DataTree) :
    Option (Decoded OutputSettings) :=
  match key with
  | "format" => some do
    return { o with format := ← value.decodeName format OutputFormat.ofName? }
  | "color" => some do return { o with color := ← value.decodeName format ColorChoice.ofName? }
  | _ => none

/-- Reads settings. -/
def decode (format : DataFormat) : DataTree → Decoded OutputSettings :=
  DataTree.decodeStruct format ["format", "color"] (readField format) {}

end OutputSettings

namespace Config

/-- Reads a rule list whose lists and objects stand at most `depth` deep in one another. -/
def decodeRules (depth : Nat) (t : DataTree) : Decoded RuleList :=
  match t.value? depth with
  | none => .error .malformed
  | some v => (RuleList.ofJson v).mapError .ruleList

/-- Reads the key of a language. -/
def decodeLanguage (key : String) : Decoded Language :=
  (Language.ofString? key).elim (.error (.languageKey key)) .ok

/-- Reads one part of a configuration; `depth` bounds the depth of the rules. -/
def readField (format : DataFormat) (depth : Nat) (c : Config) (key : String) (value : DataTree) :
    Option (Decoded Config) :=
  match key with
  | "exclude" => some do return { c with exclude := ← value.decodeStrings }
  | "rules" => some do
    let pairs ← value.decodeMap .ok (decodeRules depth)
    return { c with rules := .ofList pairs }
  | "languages" => some do
    let pairs ← value.decodeMap decodeLanguage DataTree.decodeStrings
    return { c with languages := .ofList pairs }
  | "output" => some do return { c with output := ← OutputSettings.decode format value }
  | _ => none

/-- Takes the data of a configuration apart. -/
def decode (format : DataFormat) (depth : Nat) : DataTree → Decoded Config :=
  DataTree.decodeStruct format ["exclude", "rules", "languages", "output"]
    (readField format depth) {}

/-- Reads a configuration in JSON. Rules stand in two objects already. -/
def ofJsonText (text : String) : Decoded Config := do
  let (tree, trailing) := JsonReader.read text
  let c ← decode .json (JsonReader.maxDepth - 2) tree
  DataTree.ensure (!trailing)
  return c

/-- Reads a configuration in TOML. No value is deeper than its text is long. -/
def ofTomlText (text : String) : Decoded Config :=
  match Toml.read? text with
  | none => .error .malformed
  | some tree => decode .toml text.length tree

/-- The first glob of a list that cannot be read. -/
def invalidGlob? (globs : List String) : Option InvalidGlob :=
  match GlobList.compile globs with
  | .ok _ => none
  | .error e => some e

/-- What is wrong with the keys of the rules, the globs of the languages or the excluded globs. -/
def fault? (c : Config) : Option ConfigFault :=
  (c.rules.keys.find? fun key => (Language.ofString? key).isNone).map .ruleKey
    <|> c.languages.findSome? (fun (language, globs) =>
      (invalidGlob? globs).map (.languageGlob language))
    <|> (invalidGlob? c.exclude).map .excludeGlob

/-- Reads a configuration and refuses it if something is wrong with it (§11.3). -/
def parse (format : DataFormat) (text : String) : Except ConfigError Config := do
  let c ←
    (match format with
      | .json => ofJsonText text
      | .toml => ofTomlText text).mapError .parse
  match c.fault? with
  | none => return c
  | some fault => .error (.invalid fault)

/-- The format of a file, by the end of its name (§10). -/
def formatOf (path : String) : DataFormat :=
  if Path.extension? path = some "json" then .json else .toml

/-- Reads a configuration file (§11.3). -/
def load (w : Workspace) (path : String) : Except ConfigError Config := do
  let text ← (w.readText path).mapError .file
  parse (formatOf path) text

end Config

end CodeFold
