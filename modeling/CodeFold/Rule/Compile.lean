import CodeFold.Rule.Basic
import CodeFold.Rule.Diagnostic

/-!
# Compiling rules

Entries are compiled in their order; a rule gets its number before the rules nested in it. An entry
that makes no rule is dropped and reported, and no other entry is affected.
Specification: §4.1, §10.
-/

namespace CodeFold

namespace RuleFields

/-- The source of the pattern that opens regions. -/
def openingSource? (f : RuleFields) : Option String :=
  f.openingRegex <|> f.opening.map Pattern.escape

/-- The kinds that the fields declare (§10). -/
def declaredKinds (f : RuleFields) : List String :=
  let offSide := f.offSide.getD false
  let consecutive := f.consecutive.getD false
  (if offSide then ["offSide"] else []) ++
    (if consecutive then ["consecutive"] else []) ++
    (if f.pairRegex.isSome then ["beginEndRegex"] else []) ++
    (if f.openingSource?.isSome && !consecutive then ["begin/end"] else [])

/-- The source of the pattern that closes regions. -/
def closingSource? (f : RuleFields) : Except RuleError (Option String) :=
  match f.closingRegex, f.nearestClosingRegex, f.closing with
  | some _, some _, _ => .error (.malformed .exclusiveClosings)
  | some source, none, _ | none, some source, _ => .ok (some source)
  | none, none, some text => .ok (some (Pattern.escape text))
  | none, none, none => .ok none

end RuleFields

/-- Compiles a pattern of a rule. -/
def compilePattern (source : String) : Except RuleError Pattern :=
  if source.isEmpty then .error (.malformed .emptyPattern)
  else (Pattern.compile source).mapError (.pattern source)

/-- Compiles what closes the regions that a pattern opens. A template has to refer to groups of that
pattern and to compile with empty captures (§10). -/
def compileClosing (opening : Pattern) (source : String) : Except RuleError Closing :=
  match Template.parse? source with
  | none => (compilePattern source).map .fixed
  | some t =>
    match t.groups.find? (!·.isKnown opening) with
    | some ref => .error (.malformed (.unknownGroup ref))
    | none =>
      match t.resolve opening [] with
      | .error fault => .error (.pattern source fault)
      | .ok _ => .ok (.template t)

/-- Decides from the fields what a rule looks for (§4.1). -/
def compileKind (f : RuleFields) : Except RuleError RuleKind :=
  if 1 < f.declaredKinds.length then .error (.malformed (.conflictingKinds f.declaredKinds))
  else if f.offSide.getD false then .ok .indentation
  else if f.consecutive.getD false then
    match f.openingSource? with
    | none => .error (.malformed .consecutiveWithoutOpening)
    | some source => (compilePattern source).map .consecutive
  else
    match f.pairRegex with
    | some source =>
      match compilePattern source with
      | .error e => .error e
      | .ok p =>
        if (p.groupIndex? "begin").isSome && (p.groupIndex? "end").isSome then .ok (.paired p)
        else .error (.malformed .missingGroups)
    | none =>
      match f.closingSource? with
      | .error e => .error e
      | .ok closing =>
        match f.openingSource?, closing with
        | some opening, some closing =>
          match compilePattern opening with
          | .error e => .error e
          | .ok p => (compileClosing p closing).map (.delimited p)
        | some _, none => .error (.malformed .missingClosing)
        | none, some _ => .error (.malformed .missingOpening)
        | none, none => .error (.malformed .nothingDeclared)

/-- The kind of the ranges of a rule that names none (§10). -/
def RuleKind.defaultFoldKind : RuleKind → FoldKind
  | consecutive _ => .comment
  | _ => .region

/-- The rule of some fields, before its nested rules are known. -/
def RuleFields.rule (f : RuleFields) (id : RuleId) (label : String) (kind : RuleKind) : Rule where
  id
  label
  kind
  pairing := if f.nearestClosingRegex.isSome then .nearest else .innermost
  nesting := .inherit
  strict := f.strict.getD false
  foldLastLine := f.foldLastLine.getD true
  foldKind := f.kind.getD kind.defaultFoldKind

/-- What has been compiled so far. -/
structure Build where
  rules : Array Rule
  diagnostics : List Diagnostic
  deprecationReported : Bool

namespace Build

/-- Nothing yet. -/
def empty : Build := ⟨#[], [], false⟩

/-- Adds a report. -/
def report (b : Build) (d : Diagnostic) : Build := { b with diagnostics := b.diagnostics ++ [d] }

/-- Adds a rule. -/
def push (b : Build) (r : Rule) : Build := { b with rules := b.rules.push r }

/-- Sets the rules inside the regions of a rule. -/
def setNesting (b : Build) (nesting : Nesting) (id : RuleId) : Build :=
  { b with rules := b.rules.modify id fun r => { r with nesting } }

/-- Reports once that the field `descendants` is out of date (§10). -/
def reportDescendants (b : Build) (f : RuleFields) : Build :=
  if f.descendants.isSome && !b.deprecationReported then
    { b.report (.deprecated "descendants") with deprecationReported := true }
  else b

end Build

/-- The rules of a list that were kept, and those of them that nest in all rules of the list. -/
structure Siblings where
  ids : List RuleId
  selfNested : List RuleId

namespace Siblings

/-- No rules. -/
def none : Siblings := ⟨[], []⟩

/-- The rules of two lists. -/
def append (a b : Siblings) : Siblings := ⟨a.ids ++ b.ids, a.selfNested ++ b.selfNested⟩

/-- Lets the rules that nest in all rules of the list refer to the whole list (§10). -/
def close (s : Siblings) (b : Build) : Build :=
  s.selfNested.foldl (fun b id => b.setNesting (.rules s.ids) id) b

end Siblings

/-- The label of an entry without a name (§10). -/
def defaultLabel (stem : String) (i : Nat) : String := stem ++ "[" ++ toString i ++ "]"

/-- The label of an entry. -/
def RuleEntry.label (entry : RuleEntry) (stem : String) (i : Nat) : String :=
  entry.name?.getD (defaultLabel stem i)

mutual

/-- Compiles one entry (§4.1). -/
def compileEntry (label : String) : RuleEntry → Build → Siblings × Build
  | .malformed _ fault, b => (.none, b.report (.invalid label (.malformed (.badField fault))))
  | .rule fields nested, b =>
    match compileKind fields with
    | .error e => (.none, b.report (.invalid label e))
    | .ok kind =>
      let id := b.rules.size
      let b := (b.push (fields.rule id label kind)).reportDescendants fields
      if kind.isDelimited then
        let (nesting, selfNested, b) := compileNested label fields.descendants nested b
        (⟨[id], if selfNested then [id] else []⟩, b.setNesting nesting id)
      else (⟨[id], []⟩, b)

/-- Compiles what a rule says about nested rules. The second result tells whether it nests in all
rules of its own list (§10). -/
def compileNested (label : String) (descendants : Option Bool) :
    Nested → Build → Nesting × Bool × Build
  | .flag true, b => (.inherit, false, b)
  | .flag false, b => (.sealed, false, b)
  | .rules list, b =>
    let (siblings, b) := compileList (label ++ ".nested") list b
    (.rules siblings.ids, false, siblings.close b)
  | .unset, b =>
    match descendants with
    | some true => (.inherit, true, b)
    | some false => (.sealed, false, b)
    | none => (.inherit, false, b)

/-- Compiles a rule list (§4.1). -/
def compileList (stem : String) : RuleList → Build → Siblings × Build
  | .one entry, b => compileEntry (entry.label stem 0) entry b
  | .many entries, b => compileEntries stem 0 entries b

/-- Compiles the entries of a list from the `i`-th on. -/
def compileEntries (stem : String) (i : Nat) : List RuleEntry → Build → Siblings × Build
  | [], b => (.none, b)
  | entry :: entries, b =>
    let (first, b) := compileEntry (entry.label stem i) entry b
    let (rest, b) := compileEntries stem (i + 1) entries b
    (first.append rest, b)

end

/-- Compiles the entries for a language and those for every language into one set, with what is
reported on the way (§3). -/
def RuleSet.compile (language : Language) (specific wildcard : List RuleEntry) :
    RuleSet × List Diagnostic :=
  let (first, b) := compileEntries language.key 0 specific Build.empty
  let (second, b) := compileEntries "*" 0 wildcard b
  let siblings := first.append second
  let b := siblings.close b
  (⟨language, b.rules, siblings.ids⟩, b.diagnostics)

end CodeFold
