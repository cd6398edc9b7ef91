import CodeFold.Config.Validation
import CodeFold.Report.Styled

/-!
# Validation reports in words

Specification: §11.4.
-/

namespace CodeFold

/-- The line of a finding. -/
def Finding.line : Finding → List Piece
  | .invalid label text =>
    [.styled { bold := true, color := some .red } "invalid",
      .plain (" " ++ label ++ ": " ++ text ++ "\n")]
  | .deprecated field =>
    [.styled { color := some .yellow } "deprecated",
      .plain (" field `" ++ field ++ "`, use `nested` instead\n")]

namespace ValidationReport

/-- The last line. -/
def summary (r : ValidationReport) : List Piece :=
  if r.invalidCount = 0 then
    [.styled { color := some .green } "✓",
      .plain (" all rules compiled (" ++ toString r.languages ++ " languages)\n")]
  else
    [.styled { color := some .red } "✗",
      .plain (" " ++ toString r.invalidCount ++ " invalid rules\n")]

/-- The report. -/
def pieces (r : ValidationReport) : List Piece := r.findings.flatMap Finding.line ++ r.summary

end ValidationReport

end CodeFold
