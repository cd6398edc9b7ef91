import CodeFold.Config.Registry

/-!
# Validation reports

What compiling all rule sets of a configuration reports, each finding once.
Specification: §11.4.
-/

namespace CodeFold

/-- A diagnostic in words. -/
inductive Finding where
  | deprecated (field : String)
  | invalid (label text : String)
deriving DecidableEq, Repr

namespace Finding

/-- Puts a diagnostic into words; `describe` words the faults of patterns. -/
def ofDiagnostic (describe : PatternError → String) : Diagnostic → Finding
  | .deprecated field => deprecated field
  | .invalid label error => invalid label (error.message describe label)

/-- Whether a rule was dropped. -/
def isInvalid : Finding → Bool
  | deprecated _ => false
  | invalid _ _ => true

end Finding

/-- The result of a validation. -/
structure ValidationReport where
  /-- The number of languages with rules of their own. -/
  languages : Nat
  /-- The findings in the order in which they first came up. -/
  findings : List Finding
deriving DecidableEq, Repr

namespace ValidationReport

/-- The members of a list without repetition, each where it comes first, those of `seen` left
out. -/
def firstsAfter (seen : List Finding) : List Finding → List Finding
  | [] => []
  | f :: rest => if f ∈ seen then firstsAfter seen rest else f :: firstsAfter (f :: seen) rest

/-- Validates a configuration (§11.4). -/
def ofConfig (describe : PatternError → String) (c : Config) : ValidationReport :=
  let (registry, diagnostics) := Registry.build c
  ⟨registry.size, firstsAfter [] (diagnostics.map (Finding.ofDiagnostic describe))⟩

/-- The number of dropped rules. -/
def invalidCount (r : ValidationReport) : Nat := r.findings.countP Finding.isInvalid

/-- Whether no rule was dropped. -/
def isValid (r : ValidationReport) : Bool := !r.findings.any Finding.isInvalid

end ValidationReport

end CodeFold
