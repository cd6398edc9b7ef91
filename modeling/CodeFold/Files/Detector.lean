import CodeFold.Config.Basic
import CodeFold.Files.Path
import CodeFold.Glob.Basic

/-!
# Language detection

The language of a file is the first one, in the order of the keys, with a glob that matches its path
or its name.
Specification: §10, §11.4.
-/

namespace CodeFold

/-- The globs of each language. -/
structure Detector where
  matchers : List (Language × GlobList)

namespace Detector

/-- Reads the globs of each language. -/
def ofLanguages (languages : SortedMap Language (List String)) : Except InvalidGlob Detector := do
  let matchers ← languages.mapM fun (language, globs) => do
    return (language, ← GlobList.compile globs)
  return ⟨matchers⟩

/-- Whether there are no languages. -/
def isEmpty (d : Detector) : Bool := d.matchers.isEmpty

/-- The language of a path (§11.4). -/
def detect (d : Detector) (path : String) : Option Language :=
  let matched (set : GlobList) : Bool :=
    set.isMatch path || (Path.fileName? path).any set.isMatch
  (d.matchers.find? fun (_, set) => matched set).map (·.1)

end Detector

end CodeFold
