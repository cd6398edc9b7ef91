import CodeFold.Data.JsonText
import CodeFold.Files.Execute

/-!
# Reports for programs

One JSON object a line: the ranges, then the files that could not be read, then a summary. Lines are
counted from zero.
Specification: §11.4.
-/

namespace CodeFold.FoldResults

/-- The record of a range. -/
def rangeRecord (f : FileRanges) (r : FoldRange) : Json :=
  .object [("type", .string "range"), ("file", .string f.path),
    ("language", .ofString? (f.language.map (·.key))), ("start_line", .ofNat r.start),
    ("end_line", .ofNat r.stop), ("kind", .string r.kind.name)]

/-- The record of a file that could not be read. -/
def skippedRecord (u : Unreadable) : Json :=
  .object [("type", .string "skipped"), ("file", .string u.path), ("reason", .string u.reason)]

/-- The last record. -/
def summaryRecord (r : FoldResults) : Json :=
  .object [("type", .string "summary"), ("files", .ofNat r.files.length),
    ("ranges", .ofNat r.rangeCount), ("skipped", .ofNat r.unreadable.length)]

/-- All records. -/
def records (r : FoldResults) : List Json :=
  (r.files.flatMap fun f => f.ranges.map (rangeRecord f)) ++
    r.unreadable.map skippedRecord ++ [r.summaryRecord]

/-- The report (§11.4). -/
def jsonl (r : FoldResults) : String :=
  String.join (r.records.map fun record => record.toText ++ "\n")

end CodeFold.FoldResults
