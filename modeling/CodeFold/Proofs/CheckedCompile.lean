import CodeFold.Proofs.Arena
import CodeFold.Proofs.CheckedTemplate

/-!
# Compiling with checked accesses

A closing pattern is read as a template by cuts at offsets in bytes. A rule is added before the
rules nested in it, and its nesting is set when these are known; the rules that nest in their whole
list are set when the list is complete. Both write to the place of a rule by its number. Here a cut
off a boundary and a write outside the set stop with a fault. Cuts stay at boundaries and rules are
only added, so none does.
Specification: §7.
-/

namespace CodeFold.Checked

/-- Compiles what closes the regions that a pattern opens. -/
def compileClosing (opening : Pattern) (source : String) :
    Except Fault (Except RuleError Closing) := do
  match ← template? source with
  | none => return (compilePattern source).map .fixed
  | some t =>
    match t.groups.find? (!·.isKnown opening) with
    | some ref => return .error (.malformed (.unknownGroup ref))
    | none =>
      match t.resolve opening [] with
      | .error fault => return .error (.pattern source fault)
      | .ok _ => return .ok (.template t)

/-- The opening pattern and the closing source of a rule that has got as far as compiling its
closing. -/
def delimiters? (f : RuleFields) : Option (Pattern × String) :=
  if 1 < f.declaredKinds.length || f.offSide.getD false || f.consecutive.getD false ||
      f.pairRegex.isSome then none
  else do
    let source? ← f.closingSource?.toOption
    let closing ← source?
    let opening ← f.openingSource?
    let p ← (compilePattern opening).toOption
    return (p, closing)

/-- Decides from the fields what a rule looks for. Only a closing is cut into parts. -/
def compileKind (f : RuleFields) : Except Fault (Except RuleError RuleKind) :=
  match delimiters? f with
  | some (p, closing) => do return (← compileClosing p closing).map (.delimited p)
  | none => .ok (CodeFold.compileKind f)

/-- Sets the rules inside the regions of a rule. -/
def setNesting (b : Build) (nesting : Nesting) (id : RuleId) : Except Fault Build :=
  if id < b.rules.size then .ok (b.setNesting nesting id) else .error (.rule id)

/-- Lets the rules that nest in all rules of the list refer to the whole list. -/
def closeSiblings (s : Siblings) (b : Build) : Except Fault Build :=
  s.selfNested.foldlM (fun b id => setNesting b (.rules s.ids) id) b

mutual

/-- Compiles one entry. -/
def compileEntry (label : String) : RuleEntry → Build → Except Fault (Siblings × Build)
  | .malformed _ fault, b => .ok (.none, b.report (.invalid label (.malformed (.badField fault))))
  | .rule fields nested, b => do
    match ← compileKind fields with
    | .error e => return (.none, b.report (.invalid label e))
    | .ok kind =>
      let id := b.rules.size
      let b := (b.push (fields.rule id label kind)).reportDescendants fields
      if kind.isDelimited then
        let (nesting, selfNested, b) ← compileNested label fields.descendants nested b
        return (⟨[id], if selfNested then [id] else []⟩, ← setNesting b nesting id)
      else return (⟨[id], []⟩, b)

/-- Compiles what a rule says about nested rules. -/
def compileNested (label : String) (descendants : Option Bool) :
    Nested → Build → Except Fault (Nesting × Bool × Build)
  | .flag true, b => .ok (.inherit, false, b)
  | .flag false, b => .ok (.sealed, false, b)
  | .rules list, b => do
    let (siblings, b) ← compileList (label ++ ".nested") list b
    return (.rules siblings.ids, false, ← closeSiblings siblings b)
  | .unset, b =>
    match descendants with
    | some true => .ok (.inherit, true, b)
    | some false => .ok (.sealed, false, b)
    | none => .ok (.inherit, false, b)

/-- Compiles a rule list. -/
def compileList (stem : String) : RuleList → Build → Except Fault (Siblings × Build)
  | .one entry, b => compileEntry (entry.label stem 0) entry b
  | .many entries, b => compileEntries stem 0 entries b

/-- Compiles the entries of a list from the `i`-th on. -/
def compileEntries (stem : String) (i : Nat) :
    List RuleEntry → Build → Except Fault (Siblings × Build)
  | [], b => .ok (.none, b)
  | entry :: entries, b => do
    let (first, b) ← compileEntry (entry.label stem i) entry b
    let (rest, b) ← compileEntries stem (i + 1) entries b
    return (first.append rest, b)

end

/-- Compiles the entries for a language and those for every language into one set. -/
def compile (language : Language) (specific wildcard : List RuleEntry) :
    Except Fault (RuleSet × List Diagnostic) := do
  let (first, b) ← compileEntries language.key 0 specific Build.empty
  let (second, b) ← compileEntries "*" 0 wildcard b
  let siblings := first.append second
  let b ← closeSiblings siblings b
  return (⟨language, b.rules, siblings.ids⟩, b.diagnostics)

/-! ### Cuts and writes stay in range -/

private theorem compileClosing_eq_ok (opening : Pattern) (source : String) :
    compileClosing opening source = .ok (CodeFold.compileClosing opening source) := by
  rw [compileClosing, template?_eq_ok, CodeFold.compileClosing]
  dsimp only [bind, Except.bind]
  cases Template.parse? source with
  | none => rfl
  | some t =>
    dsimp only
    cases t.groups.find? (!·.isKnown opening) with
    | some ref => rfl
    | none =>
      dsimp only
      cases t.resolve opening [] <;> rfl

/-- A rule with delimiters is decided by its closing. -/
private theorem compileKind_of_delimiters {f : RuleFields} {p : Pattern} {closing : String}
    (h : delimiters? f = some (p, closing)) :
    CodeFold.compileKind f = (CodeFold.compileClosing p closing).map (.delimited p) := by
  have hok {ε α : Type} {x : Except ε α} {a : α} (hx : x.toOption = some a) : x = .ok a := by
    cases x with
    | error e => cases hx
    | ok b => cases hx; rfl
  unfold delimiters? at h
  split at h
  · cases h
  · next hkind =>
    simp only [bind, pure, Option.bind_eq_some_iff, Option.some.injEq, Prod.mk.injEq] at h
    obtain ⟨_, hsource, _, rfl, opening, hopening, _, hp, rfl, rfl⟩ := h
    simp only [Bool.or_eq_true, decide_eq_true_eq, not_or, Bool.not_eq_true,
      Option.isSome_eq_false_iff, Option.isNone_iff_eq_none] at hkind
    obtain ⟨⟨⟨hone, hoff⟩, hrun⟩, hpair⟩ := hkind
    simp only [CodeFold.compileKind, if_neg hone, hoff, hrun, hpair, hok hsource, hopening, hok hp,
      Bool.false_eq_true, if_false]

private theorem compileKind_eq_ok (f : RuleFields) :
    compileKind f = .ok (CodeFold.compileKind f) := by
  unfold compileKind
  cases hd : delimiters? f with
  | none => rfl
  | some found =>
    obtain ⟨p, closing⟩ := found
    dsimp only
    rw [compileClosing_eq_ok, compileKind_of_delimiters hd]
    rfl

/-- The rules that nest in their whole list are rules of the set. -/
private theorem closeSiblings_eq_ok {b b' : Build} {s : Siblings} (h : Extends b s b') :
    closeSiblings s b' = .ok (s.close b') := by
  refine foldlM_eq_ok id _ _ _ (fun c => c.rules.size = b'.rules.size) ?_ rfl
  intro c id hid hc
  have hlt : id < c.rules.size := by
    rw [hc]
    exact h.ascending.lt id (h.self id hid)
  exact ⟨if_pos hlt, by rw [Build.size_setNesting, hc]⟩

mutual

private theorem compileEntry_eq_ok (label : String) (entry : RuleEntry) (b : Build) :
    compileEntry label entry b = .ok (CodeFold.compileEntry label entry b) := by
  cases entry with
  | malformed value fault => rw [compileEntry, CodeFold.compileEntry]
  | rule fields nested =>
    rw [compileEntry, CodeFold.compileEntry, compileKind_eq_ok]
    dsimp only [bind, Except.bind]
    cases CodeFold.compileKind fields with
    | error e => rfl
    | ok kind =>
      dsimp only
      split
      · have hn := within_compileNested label fields.descendants nested
          ((b.push (fields.rule b.rules.size label kind)).reportDescendants fields)
        rw [Build.rules_reportDescendants, Build.rules_push, Array.size_push] at hn
        rw [compileNested_eq_ok]
        dsimp only [bind, Except.bind]
        rw [setNesting, if_pos (Nat.lt_of_succ_le hn.1)]
        rfl
      · rfl

private theorem compileNested_eq_ok (label : String) (descendants : Option Bool) (nested : Nested)
    (b : Build) : compileNested label descendants nested b =
      .ok (CodeFold.compileNested label descendants nested b) := by
  cases nested with
  | unset =>
    cases descendants with
    | none => rw [compileNested, CodeFold.compileNested]
    | some flag => cases flag <;> rw [compileNested, CodeFold.compileNested]
  | flag inherits => cases inherits <;> rw [compileNested, CodeFold.compileNested]
  | rules list =>
    rw [compileNested, CodeFold.compileNested, compileList_eq_ok]
    dsimp only [bind, Except.bind]
    rw [closeSiblings_eq_ok (extends_compileList (label ++ ".nested") list b)]
    rfl

private theorem compileList_eq_ok (stem : String) (list : RuleList) (b : Build) :
    compileList stem list b = .ok (CodeFold.compileList stem list b) := by
  cases list with
  | one entry =>
    rw [compileList, CodeFold.compileList]
    exact compileEntry_eq_ok (entry.label stem 0) entry b
  | many entries =>
    rw [compileList, CodeFold.compileList]
    exact compileEntries_eq_ok stem 0 entries b

private theorem compileEntries_eq_ok (stem : String) (i : Nat) (entries : List RuleEntry)
    (b : Build) :
    compileEntries stem i entries b = .ok (CodeFold.compileEntries stem i entries b) := by
  cases entries with
  | nil => rw [compileEntries, CodeFold.compileEntries]
  | cons entry entries =>
    rw [compileEntries, CodeFold.compileEntries, compileEntry_eq_ok]
    dsimp only [bind, Except.bind]
    rw [compileEntries_eq_ok]
    rfl

end

/-- Compiling writes in range only. -/
theorem compile_eq_ok (language : Language) (specific wildcard : List RuleEntry) :
    compile language specific wildcard = .ok (RuleSet.compile language specific wildcard) := by
  have hf := extends_compileEntries language.key 0 specific Build.empty
  have hw := extends_compileEntries "*" 0 wildcard
    (CodeFold.compileEntries language.key 0 specific Build.empty).2
  rw [compile, compileEntries_eq_ok]
  dsimp only [bind, Except.bind]
  rw [compileEntries_eq_ok]
  dsimp only
  rw [closeSiblings_eq_ok (hf.append hw)]
  rfl

end CodeFold.Checked
