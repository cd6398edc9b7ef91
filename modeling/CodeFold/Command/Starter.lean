/-!
# The starter configuration

Specification: §11.4.
-/

namespace CodeFold

/-- A configuration with rules for a few common languages. -/
def starterConfig : String :=
  "\n".intercalate [
    "# foldrules configuration",
    "#",
    "# Each key under [rules] is a language id; \"*\" applies to every language.",
    "# A key holds one rule table or an array of rule tables. Language rules are",
    "# tried before wildcard rules.",
    "",
    "exclude = [\"**/target/**\", \"**/node_modules/**\"]",
    "",
    "# File globs used to detect each language",
    "[languages]",
    "rust = [\"*.rs\"]",
    "python = [\"*.py\", \"*.pyi\"]",
    "shell = [\"*.sh\", \"*.bash\"]",
    "markdown = [\"*.md\"]",
    "",
    "[output]",
    "format = \"human\"",
    "color = \"auto\"",
    "",
    "# Editor regions in any language",
    "[[rules.\"*\"]]",
    "name = \"region-markers\"",
    "beginRegex = '^\\s*(//|#)\\s*region\\b'",
    "foldEndRegex = '^\\s*(//|#)\\s*endregion\\b'",
    "",
    "[[rules.rust]]",
    "begin = \"\x7b\"",
    "end = \"\x7d\"",
    "",
    "[[rules.rust]]",
    "beginRegex = '^\\s*//'",
    "consecutive = true",
    "",
    "[[rules.rust]]",
    "begin = \"/*\"",
    "end = \"*/\"",
    "nested = false",
    "kind = \"comment\"",
    "",
    "[[rules.python]]",
    "offSide = true",
    "",
    "[[rules.python]]",
    "beginRegex = '^\\s*#'",
    "consecutive = true",
    "",
    "# Heredocs close on the word that opened them",
    "[[rules.shell]]",
    "beginRegex = '<<-?\\s*(\\w+)'",
    "endRegex = '^\\s*\\1$'",
    "nested = false",
    "",
    "[[rules.markdown]]",
    "beginRegex = '^(?<fence>`\x7b3,\x7d|~\x7b3,\x7d)'",
    "endRegex = '^\\k<fence>\\s*$'",
    "nested = false",
    ""]

end CodeFold
