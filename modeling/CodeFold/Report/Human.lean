import CodeFold.Files.Execute
import CodeFold.Report.Styled

/-!
# Reports for readers

One line a range, with lines counted from one, then the files that could not be read and a summary.
Specification: §11.4.
-/

namespace CodeFold

namespace FoldKind

/-- The colour of a kind. -/
def color : FoldKind → Color
  | region => .cyan
  | comment => .green

end FoldKind

namespace FoldResults

/-- A number and the word for what it counts. -/
def counted (n : Nat) (one many : String) : String :=
  toString n ++ " " ++ (if n = 1 then one else many)

/-- The line of a range. -/
def rangeLine (path : String) (r : FoldRange) : List Piece :=
  [.styled { bold := true } path,
    .plain (":" ++ toString (r.start + 1) ++ "-" ++ toString (r.stop + 1) ++ " "),
    .styled { color := some r.kind.color } r.kind.name, .plain "\n"]

/-- The line of a file that could not be read. -/
def skippedLine (u : Unreadable) : List Piece :=
  [.styled { color := some .yellow } "skipped", .plain (" " ++ u.path ++ ": " ++ u.reason ++ "\n")]

/-- The last line. -/
def summary (r : FoldResults) : String :=
  counted r.rangeCount "range" "ranges" ++ " in " ++ counted r.files.length "file" "files" ++ "\n"

/-- The report (§11.4). -/
def human (r : FoldResults) : List Piece :=
  (r.files.flatMap fun f => f.ranges.flatMap (rangeLine f.path)) ++
    r.unreadable.flatMap skippedLine ++ [.plain r.summary]

end FoldResults

end CodeFold
