import CodeFold.Proofs.Execution
import CodeFold.Proofs.JsonRoundTrip
import CodeFold.Proofs.LineEnds
import CodeFold.Proofs.SortedMap
import CodeFold.Report.Jsonl

/-!
# Reports can be decoded

A report for programs is one JSON object a line, whatever characters stand in paths, languages and
reasons. Its lines decode to the ranges, then to the files that could not be read, then to the
numbers of both. So a report determines the ranges and the reasons that it was written for.
Specification: §11.4.
-/

namespace CodeFold

/-- What a line of a report says. -/
inductive ReportEntry where
  | range (file : String) (language : Option String) (range : FoldRange)
  | skipped (file reason : String)
  | summary (files ranges unread : Nat)
deriving DecidableEq

namespace Json

/-- A natural number. -/
def nat? : Json → Option Nat
  | number (.int (.ofNat n)) => some n
  | _ => none

/-- A text or null. -/
def stringOrNull? : Json → Option (Option String)
  | null => some none
  | string s => some (some s)
  | _ => none

private theorem get?_ofMembers (key : String) (members : List (String × Json)) :
    (ofMembers members).get? key = members.reverse.lookup key :=
  SortedMap.lookup_ofList members key

@[simp] private theorem nat?_ofNat (n : Nat) : (ofNat n).nat? = some n := rfl

@[simp] private theorem string?_string (s : String) : (string s).string? = some s := rfl

@[simp] private theorem stringOrNull?_ofString? (s : Option String) :
    (ofString? s).stringOrNull? = some s := by
  cases s <;> rfl

end Json

@[simp] private theorem FoldKind.ofName?_name (k : FoldKind) :
    ofName? k.name = some k := by cases k <;> rfl

namespace ReportEntry

/-- The entry that an object stands for. Its type tells which other members it needs. -/
def ofJson? (v : Json) : Option ReportEntry := do
  let type ← (← v.get? "type").string?
  if type = "range" then
    return range (← (← v.get? "file").string?) (← (← v.get? "language").stringOrNull?)
      ⟨← (← v.get? "start_line").nat?, ← (← v.get? "end_line").nat?,
        ← FoldKind.ofName? (← (← v.get? "kind").string?)⟩
  else if type = "skipped" then
    return skipped (← (← v.get? "file").string?) (← (← v.get? "reason").string?)
  else if type = "summary" then
    return summary (← (← v.get? "files").nat?) (← (← v.get? "ranges").nat?)
      (← (← v.get? "skipped").nat?)
  else none

/-- The entry that a line stands for. The line has to be a JSON object and nothing else. -/
def ofLine? (line : Line) : Option ReportEntry := do
  ofJson? (← JsonReader.parse? (String.ofList line))

/-- The members of the object that is written for an entry. -/
def members : ReportEntry → List (String × Json)
  | range file language r =>
    [("type", .string "range"), ("file", .string file), ("language", .ofString? language),
      ("start_line", .ofNat r.start), ("end_line", .ofNat r.stop), ("kind", .string r.kind.name)]
  | skipped file reason =>
    [("type", .string "skipped"), ("file", .string file), ("reason", .string reason)]
  | summary files ranges unread =>
    [("type", .string "summary"), ("files", .ofNat files), ("ranges", .ofNat ranges),
      ("skipped", .ofNat unread)]

/-- The line that is written for an entry. -/
def line (e : ReportEntry) : Line := (Json.object e.members).chars

/-- The numbers of an entry. -/
def numbers : ReportEntry → List Nat
  | range _ _ r => [r.start, r.stop]
  | skipped _ _ => []
  | summary files ranges unread => [files, ranges, unread]

/-- Line numbers and counts are words of 64 bits, as they are in a machine. -/
def WordSized (e : ReportEntry) : Prop := ∀ n ∈ e.numbers, n ≤ JsonReader.maxUnsigned

/-- The members of an entry tell what it says. -/
theorem ofJson?_members (e : ReportEntry) : ofJson? (.ofMembers e.members) = some e := by
  cases e <;> simp [ofJson?, Json.get?_ofMembers, members, SortedMap.lookup_cons]

/-- What stands in an entry: null, a text or one of its numbers. -/
inductive IsField (e : ReportEntry) : Json → Prop
  | null : IsField e .null
  | text (s : String) : IsField e (.string s)
  | number {n : Nat} (hn : n ∈ e.numbers) : IsField e (.ofNat n)

private theorem isField_ofString? (e : ReportEntry) (s : Option String) :
    e.IsField (.ofString? s) := by
  cases s with
  | none => exact .null
  | some s => exact .text s

private theorem isField_of_mem (e : ReportEntry) : ∀ m ∈ e.members, e.IsField m.2 := by
  cases e with
  | range file language r =>
    simp only [members, List.forall_mem_cons]
    exact ⟨.text _, .text _, isField_ofString? _ _, .number (by simp [numbers]),
      .number (by simp [numbers]), .text _, by simp⟩
  | skipped file reason =>
    simp only [members, List.forall_mem_cons]
    exact ⟨.text _, .text _, .text _, by simp⟩
  | summary files ranges unread =>
    simp only [members, List.forall_mem_cons]
    exact ⟨.text _, .number (by simp [numbers]), .number (by simp [numbers]),
      .number (by simp [numbers]), by simp⟩

variable {e : ReportEntry} {v : Json}

private theorem IsField.noControl (h : e.IsField v) : Json.NoControl v.chars := by
  cases h with
  | null => simp [Json.NoControl, Json.chars]
  | text s => exact Json.noControl_quote s
  | number hn =>
    rw [Json.chars_ofNat]
    exact Json.noControl_toDigits _

private theorem IsField.readsAs (h : e.IsField v) (he : e.WordSized) (depth : Nat) :
    JsonReader.ReadsAs depth v v := by
  cases h with
  | null => exact JsonReader.readsAs_null depth
  | text s => exact JsonReader.readsAs_string depth s
  | number hn => exact JsonReader.readsAs_ofNat depth (he _ hn)

/-- An entry is written without line ends. -/
theorem not_mem_line (e : ReportEntry) : '\n' ∉ e.line ∧ '\r' ∉ e.line := by
  have h := Json.noControl_object fun m hm => (e.isField_of_mem m hm).noControl
  exact ⟨h.not_mem (by decide), h.not_mem (by decide)⟩

private theorem parse?_line (he : e.WordSized) :
    JsonReader.parse? (String.ofList e.line) = some (.ofMembers e.members) :=
  JsonReader.parse?_toText <| JsonReader.readsAs_object fun m hm =>
    (e.isField_of_mem m hm).readsAs he _

private theorem ofLine?_line (he : e.WordSized) : ofLine? e.line = some e := by
  rw [ofLine?, parse?_line he]
  exact e.ofJson?_members

end ReportEntry

namespace FoldResults

/-- The entries for the ranges of all files. -/
def rangeEntries (r : FoldResults) : List ReportEntry :=
  r.files.flatMap fun f => f.ranges.map (.range f.path (f.language.map (·.key)))

/-- The entries of a report: all ranges, all files that could not be read, and the numbers of files,
ranges and files that could not be read. -/
def entries (r : FoldResults) : List ReportEntry :=
  r.rangeEntries ++ r.unreadable.map (fun u => .skipped u.path u.reason) ++
    [.summary r.files.length r.rangeCount r.unreadable.length]

/-- The numbers in a report are words of 64 bits. -/
def WordSized (r : FoldResults) : Prop := ∀ e ∈ r.entries, e.WordSized

variable (r : FoldResults)

private theorem length_rangeEntries : r.rangeEntries.length = r.rangeCount := by
  rw [rangeCount_eq, rangeEntries, List.length_flatMap, List.length_flatMap]
  simp

private theorem length_entries : r.entries.length = r.rangeCount + r.unreadable.length + 1 := by
  simp [entries, length_rangeEntries, Nat.add_assoc]

private theorem records_eq : r.records = r.entries.map fun e => .object e.members := by
  simp only [records, entries, rangeEntries, List.map_append, List.map_flatMap, List.map_map]
  rfl

/-- A report is its entries, each with a line feed behind it. -/
theorem toList_jsonl : r.jsonl.toList = Line.ended ['\n'] (r.entries.map (·.line)) := by
  rw [jsonl, String.toList_join, records_eq, Line.ended]
  simp only [List.flatMap_map, String.toList_append, Json.toText, String.toList_ofList]
  rfl

private theorem not_mem_of_mem_lines : ∀ line ∈ r.entries.map (·.line), '\n' ∉ line ∧ '\r' ∉ line :=
  List.forall_mem_map.mpr fun e _ => e.not_mem_line

private theorem split_jsonl : Line.split r.jsonl = r.entries.map (·.line) := by
  rw [Line.split, toList_jsonl, ← List.append_nil (Line.ended _ _),
    Line.splitFrom_ended (by decide) r.not_mem_of_mem_lines]
  exact List.append_nil _

private theorem splitOn_jsonl : r.jsonl.toList.splitOn '\n' = Line.split r.jsonl ++ [[]] := by
  rw [toList_jsonl, split_jsonl]
  exact Line.splitOn_ended fun line hline => (r.not_mem_of_mem_lines line hline).1

variable {r}

private theorem map_ofLine?_jsonl (h : r.WordSized) :
    (Line.split r.jsonl).map ReportEntry.ofLine? = r.entries.map some := by
  rw [split_jsonl, List.map_map]
  apply List.map_congr_left
  intro e he
  exact ReportEntry.ofLine?_line (h e he)

private theorem parse?_of_mem_jsonl (h : r.WordSized) {line : Line}
    (hline : line ∈ Line.split r.jsonl) :
    ∃ members, JsonReader.parse? (String.ofList line) = some (.object members) := by
  rw [split_jsonl] at hline
  obtain ⟨e, he, rfl⟩ := List.mem_map.mp hline
  exact ⟨_, ReportEntry.parse?_line (h e he)⟩

/-- The summary tells where the ranges end. -/
theorem eq_of_entries_eq {r' : FoldResults} (h : r'.entries = r.entries) :
    r'.rangeEntries = r.rangeEntries ∧ r'.unreadable = r.unreadable := by
  obtain ⟨hrecords, hsummary⟩ := List.append_inj' h rfl
  have hcount : r'.rangeCount = r.rangeCount := by
    injection (List.cons.inj hsummary).1
  rw [← length_rangeEntries, ← length_rangeEntries] at hcount
  obtain ⟨hranges, hunreadable⟩ := List.append_inj hrecords hcount
  refine ⟨hranges, (List.map_inj_right ?_).mp hunreadable⟩
  rintro ⟨path, reason⟩ ⟨path', reason'⟩ heq
  cases heq
  rfl

end FoldResults

/-- Split at the line feeds, a report has one line for each range, one for each file that could not
be read and one more. Each is a JSON object, and in their order they decode to the entries of the
report. So results with one report have the same ranges, by file and language, and the same
reasons. -/
theorem FoldResults.jsonl_decodes {r : FoldResults} (h : r.WordSized) :
    r.jsonl.toList.splitOn '\n' = Line.split r.jsonl ++ [[]] ∧
    (Line.split r.jsonl).length = r.rangeCount + r.unreadable.length + 1 ∧
    (∀ line ∈ Line.split r.jsonl,
      ∃ members, JsonReader.parse? (String.ofList line) = some (.object members)) ∧
    (Line.split r.jsonl).map ReportEntry.ofLine? = r.entries.map some ∧
    ∀ r' : FoldResults, r'.WordSized → r'.jsonl = r.jsonl →
      r'.rangeEntries = r.rangeEntries ∧ r'.unreadable = r.unreadable := by
  refine ⟨r.splitOn_jsonl, ?_, fun line => parse?_of_mem_jsonl h, map_ofLine?_jsonl h, ?_⟩
  · rw [split_jsonl, List.length_map, length_entries]
  · intro r' h' hjsonl
    apply eq_of_entries_eq
    have hentries : r'.entries.map some = r.entries.map some := by
      rw [← map_ofLine?_jsonl h', ← map_ofLine?_jsonl h, hjsonl]
    exact (List.map_inj_right fun _ _ => Option.some.inj).mp hentries

/-- Results whose texts hold line feeds, quotes, backslashes and control characters. -/
def oddNames : FoldResults where
  files :=
    [⟨"a\n\"b\"", some ⟨"c\\d"⟩, [⟨0, 3, .region⟩, ⟨1, 2, .comment⟩]⟩, ⟨"empty", none, []⟩,
      ⟨"\x01é", none, [⟨5, 18446744073709551615, .region⟩]⟩]
  unreadable := [⟨"x\r\ny", "no\tsuch\x1ffile"⟩]

/-- Five lines that decode to three ranges, a reason and the summary. -/
theorem jsonl_decodes_of_oddNames :
    oddNames.WordSized ∧ (Line.split oddNames.jsonl).length = 5 ∧
      (Line.split oddNames.jsonl).map ReportEntry.ofLine? =
        [some (.range "a\n\"b\"" (some "c\\d") ⟨0, 3, .region⟩),
          some (.range "a\n\"b\"" (some "c\\d") ⟨1, 2, .comment⟩),
          some (.range "\x01é" none ⟨5, 18446744073709551615, .region⟩),
          some (.skipped "x\r\ny" "no\tsuch\x1ffile"), some (.summary 3 3 1)] := by
  have hmax : JsonReader.maxUnsigned = 18446744073709551615 := rfl
  have hwords : oddNames.WordSized := by
    simp [hmax, FoldResults.WordSized, FoldResults.entries, FoldResults.rangeEntries, oddNames,
      ReportEntry.WordSized, ReportEntry.numbers, FoldResults.rangeCount]
  obtain ⟨_, hlength, _, hentries, _⟩ := FoldResults.jsonl_decodes hwords
  exact ⟨hwords, hlength, hentries⟩

end CodeFold
