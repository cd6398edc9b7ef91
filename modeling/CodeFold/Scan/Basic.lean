import CodeFold.Scan.Hit
import CodeFold.Scan.LineRule

/-!
# Scanning

A document is scanned once, line by line. At the start of a line the rules on whole lines look at it;
then the hits in it are handled from left to right. When a region closes, the rules that can no
longer be reached end what they have pending, at the last line that the region folds.
Specification: §4.2, §12.
-/

namespace CodeFold

/-- What is known between two lines and between two hits. -/
structure ScanState where
  stack : Stack
  runs : SortedMap RuleId Run
  blocks : SortedMap RuleId Blocks
  /-- The events of earlier lines. -/
  past : Array Event
  /-- The events of this line. -/
  current : Array Event

namespace ScanState

/-- Before the first line. -/
def start : ScanState := ⟨#[], [], [], #[], #[]⟩

/-- All events in the order in which they came up. -/
def events (s : ScanState) : Array Event := s.past ++ s.current

/-- Adds events. -/
def emit (s : ScanState) (events : List Event) : ScanState :=
  { s with current := s.current ++ events }

/-- Ends the run of a rule, at `limit` at the latest. -/
def closeRun (limit : Option Nat) (s : ScanState) (id : RuleId) : ScanState :=
  match s.runs.lookup id with
  | none => s
  | some run => { s with runs := s.runs.erase id }.emit (run.event? id limit).toList

/-- Ends the blocks of a rule, at `limit` at the latest. -/
def flushBlocks (limit : Option Nat) (s : ScanState) (id : RuleId) : ScanState :=
  match s.blocks.lookup id with
  | none => s
  | some b => { s with blocks := s.blocks.erase id }.emit (b.flush id limit)

/-- Begins the run of a rule or makes it longer. -/
def extendRun (lineNo : Nat) (s : ScanState) (id : RuleId) : ScanState :=
  let run := ((s.runs.lookup id).map fun r => { r with last := lineNo }).getD ⟨lineNo, lineNo⟩
  { s with runs := s.runs.insert id run }

/-- Lets an indentation rule look at a line. -/
def feedBlocks (lineNo width : Nat) (s : ScanState) (id : RuleId) : ScanState :=
  let (b, ended) := ((s.blocks.lookup id).getD .empty).feed id lineNo width
  { s with blocks := s.blocks.insert id b }.emit ended

/-- Lets one rule look at a line as a whole. -/
def feedRule (rules : RuleSet) (lineNo : Nat) (line : Line) (s : ScanState) (id : RuleId) :
    ScanState :=
  match rules.rule? id with
  | none => s
  | some rule =>
    match rule.kind with
    | .consecutive p => if p.isMatch line then s.extendRun lineNo id else s
    | .indentation => (Line.indentWidth line).elim s fun width => s.feedBlocks lineNo width id
    | .delimited _ _ | .paired _ => s

/-- Lets the active rules look at a line as a whole, and ends the runs that it does not make longer
(§4.2). -/
def feedLine (rules : RuleSet) (lineNo : Nat) (line : Line) (s : ScanState) : ScanState :=
  let s := (s.stack.scope rules).active.foldl (feedRule rules lineNo line) s
  let ended := SortedMap.keys (s.runs.filter (·.2.last ≠ lineNo))
  ended.foldl (closeRun none) s

/-- The closing pattern of a region that opens with some captures. -/
def closingFor (rule : Rule) (captures : List (Option String)) : Option Pattern :=
  match rule.kind with
  | .delimited opening (.template t) => (t.resolve opening captures).toOption
  | _ => none

/-- Opens a region (§4.2). -/
def openRegion (rules : RuleSet) (lineNo : Nat) (hit : Hit) (id : RuleId)
    (captures : List (Option String)) (s : ScanState) : ScanState :=
  let closing := (rules.rule? id).bind (closingFor · captures)
  let entry : OpenEntry :=
    { rule := id, line := lineNo, column := hit.start, body := hit.stop, captures, closing
      scope := .base rules }
  { s with stack := s.stack.enter rules entry }

/-- Ends what the rules have pending that could be reached before and no longer can (§12). -/
def leaveScope (rules : RuleSet) (before : List RuleId) (last : Nat) (s : ScanState) : ScanState :=
  let reachable := (s.stack.scope rules).reachable
  let left := before.filter (!reachable.contains ·)
  let s := if left.isEmpty then s else { s with current := s.current.map (Event.cut left last) }
  left.foldl (fun s id => (s.closeRun (some last) id).flushBlocks (some last) id) s

/-- Closes the region at a position of the stack (§4.2, §12). -/
def closeRegion (rules : RuleSet) (lineNo index : Nat) (s : ScanState) : ScanState :=
  match s.stack[index]? with
  | none => s
  | some entry =>
    match rules.rule? entry.rule with
    | none => s
    | some rule =>
      let before := (s.stack.scope rules).reachable
      let stack :=
        match rule.pairing with
        | .innermost => s.stack.below index
        | .nearest => s.stack.removeAt rules index
      let last := if rule.foldLastLine then lineNo else lineNo - 1
      let s := { s with stack }.emit [⟨entry.rule, entry.line, lineNo, true⟩]
      s.leaveScope rules before last

/-- Handles a hit. -/
def handle (rules : RuleSet) (lineNo : Nat) (s : ScanState) (hit : Hit) : ScanState :=
  match hit.action with
  | .close index => s.closeRegion rules lineNo index
  | .open_ id captures => s.openRegion rules lineNo hit id captures

/-- Handles the hits of a line from a position on. Every hit moves the position, so a line has at
most one hit more than characters (§12). -/
def scanHits (rules : RuleSet) (lineNo : Nat) (line : Line) :
    Nat → Nat → ScanState → ScanState
  | 0, _, s => s
  | fuel + 1, pos, s =>
    match s.stack.nextHit rules lineNo line pos with
    | none => s
    | some hit =>
      let s := s.handle rules lineNo hit
      match nextPos? line hit.start hit.stop with
      | none => s
      | some pos => scanHits rules lineNo line fuel pos s

/-- Scans a line. -/
def scanLine (rules : RuleSet) (lineNo : Nat) (line : Line) (s : ScanState) : ScanState :=
  let s := { s with past := s.past ++ s.current, current := #[] }
  (s.feedLine rules lineNo line).scanHits rules lineNo line (line.length + 1) 0

/-- Scans lines, the first of which has number `lineNo`. -/
def scanLines (rules : RuleSet) (lineNo : Nat) (s : ScanState) : List Line → ScanState
  | [] => s
  | line :: lines => scanLines rules (lineNo + 1) (s.scanLine rules lineNo line) lines

/-- Gives up the open regions and ends what rules on whole lines have pending (§4.2, §12). -/
def finish (s : ScanState) : ScanState :=
  let s := { s with stack := #[] }
  let s := s.runs.keys.foldl (closeRun none) s
  s.blocks.keys.foldl (flushBlocks none) s

end ScanState

/-- The events of a document (§4.2). -/
def RuleSet.scan (rules : RuleSet) (lines : List Line) : List Event :=
  (ScanState.start.scanLines rules 0 lines).finish.events.toList

end CodeFold
