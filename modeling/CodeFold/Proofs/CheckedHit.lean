import CodeFold.Proofs.Coherence
import CodeFold.Proofs.Offsets

/-!
# Searching with checked accesses

Looking up a rule or an entry of the stack is total here: what is not there gives nothing, and
places in a line count its characters. The functions of this module do the same work with partial
accesses, and places count bytes. They stop with a fault at a number that no rule has, a position
outside the stack, a search that would start inside a character or behind the end of its line, and
a loop that has not ended when its fuel is used up. In a valid stack no access stops, and the
functions find what the total functions find, at the offsets of its characters.
Specification: §7.
-/

namespace CodeFold

/-- An access out of range. -/
inductive Fault where
  /-- No rule has that number. -/
  | rule (id : RuleId)
  /-- The stack has no such position. -/
  | entry (index : Nat)
  /-- A search would start inside a character or behind the end of its line. -/
  | position (pos : Nat)
  /-- A text would be cut inside a character or behind its end. -/
  | cut (pos : Nat)
  /-- The events of a line would begin behind the last event. -/
  | events (first : Nat)
  /-- A loop goes on for longer than its bound. -/
  | unfinished
deriving DecidableEq, Repr

namespace Checked

/-- What a search finds: its span in bytes and the texts of all groups. -/
structure Found where
  start : Nat
  stop : Nat
  groups : List (Option String)

/-- A match with its places in bytes. -/
def Found.ofMatch (p : Pattern) (line : Line) (m : Pattern.Match) : Found :=
  ⟨Text.offset line m.start, Text.offset line m.stop, p.captures line m⟩

/-- The rule with a number. -/
def rule (rules : RuleSet) (id : RuleId) : Except Fault Rule :=
  match rules.rule? id with
  | some r => .ok r
  | none => .error (.rule id)

/-- The entry at a position of the stack. -/
def entry (stack : Stack) (index : Nat) : Except Fault OpenEntry :=
  match stack[index]? with
  | some e => .ok e
  | none => .error (.entry index)

/-- The first match at or after an offset of a line. -/
def matchAt (p : Pattern) (line : Line) (pos : Nat) : Except Fault (Option Found) :=
  match Text.index? line pos with
  | some i => .ok ((p.matchAt line i).map (.ofMatch p line))
  | none => .error (.position pos)

/-- Where the search goes on after a match: behind it, or one character further if it is empty. -/
def nextPos? (line : Line) (start stop : Nat) : Option Nat :=
  if start < stop then some stop else Text.nextBoundary? line stop

/-- The first match at or after an offset in which a group took part. -/
def findGroupFrom (p : Pattern) (line : Line) (group : Nat) :
    Nat → Nat → Except Fault (Option (Nat × Nat))
  | 0, _ => .error .unfinished
  | fuel + 1, pos => do
    match ← matchAt p line pos with
    | none => return none
    | some m =>
      if m.groups[group]?.join.isSome then return some (m.start, m.stop)
      else
        match nextPos? line m.start m.stop with
        | none => return none
        | some next => findGroupFrom p line group fuel next

/-- The first match at or after an offset in which the group of that name took part. -/
def findGroup (p : Pattern) (line : Line) (name : String) (pos : Nat) :
    Except Fault (Option (Nat × Nat)) :=
  match p.groupIndex? name with
  | none => .ok none
  | some group => findGroupFrom p line group (line.length + 1) pos

/-- The first opening of a rule at or after an offset. -/
def findOpening (rule : Rule) (line : Line) (pos : Nat) : Except Fault (Option OpeningMatch) :=
  match rule.kind with
  | .delimited p (.template _) => do
    return (← matchAt p line pos).map fun m => ⟨m.start, m.stop, m.groups⟩
  | .delimited p (.fixed _) => do
    return (← matchAt p line pos).map fun m => ⟨m.start, m.stop, []⟩
  | .paired p => do
    return (← findGroup p line "begin" pos).map fun (start, stop) => ⟨start, stop, []⟩
  | .consecutive _ | .indentation => .ok none

/-- The first match of what closes an entry, at or after an offset. -/
def closingMatch (rule : Rule) (entry : OpenEntry) (line : Line) (pos : Nat) :
    Except Fault (Option (Nat × Nat)) :=
  match rule.kind with
  | .delimited _ (.fixed p) => do return (← matchAt p line pos).map fun m => (m.start, m.stop)
  | .delimited _ (.template _) =>
    match entry.closing with
    | none => .ok none
    | some p => do return (← matchAt p line pos).map fun m => (m.start, m.stop)
  | .paired p => findGroup p line "end" pos
  | .consecutive _ | .indentation => .ok none

/-- Whether only white space stands between the opening of an entry and an offset in the same
line. -/
def onlyBlankBefore (entry : OpenEntry) (lineNo : Nat) (line : Line) (start : Nat) : Bool :=
  entry.line = lineNo && (Text.sliceBytes? line entry.body start).any allBlank

/-- The first end of an entry at or after an offset. -/
def findClosingFrom (rule : Rule) (entry : OpenEntry) (lineNo : Nat) (line : Line) :
    Nat → Nat → Except Fault (Option (Nat × Nat))
  | 0, _ => .error .unfinished
  | fuel + 1, pos => do
    match ← closingMatch rule entry line pos with
    | none => return none
    | some (start, stop) =>
      if rule.strict && onlyBlankBefore entry lineNo line start then
        match nextPos? line start stop with
        | none => return none
        | some next => findClosingFrom rule entry lineNo line fuel next
      else return some (start, stop)

/-- The first end of the entry at a position of the stack. -/
def closingHit (rules : RuleSet) (stack : Stack) (lineNo : Nat) (line : Line) (pos index : Nat) :
    Except Fault (Option Hit) := do
  let entry ← entry stack index
  let rule ← rule rules entry.rule
  let span ← findClosingFrom rule entry lineNo line (line.length + 1) pos
  return span.map fun (start, stop) => ⟨start, stop, .close index⟩

/-- The first opening of a rule. -/
def openingHit (rules : RuleSet) (line : Line) (pos : Nat) (id : RuleId) :
    Except Fault (Option Hit) := do
  let rule ← rule rules id
  return (← findOpening rule line pos).map fun m => ⟨m.start, m.stop, .open_ id m.captures⟩

/-- The next hit at or after an offset. -/
def nextHit (rules : RuleSet) (stack : Stack) (lineNo : Nat) (line : Line) (pos : Nat) :
    Except Fault (Option Hit) := do
  let scope := stack.scope rules
  let closings ← scope.ends.mapM fun (_, index) => closingHit rules stack lineNo line pos index
  let openings ← scope.active.mapM (openingHit rules line pos)
  return Hit.earliest (closings.filterMap id ++ openings.filterMap id)

/-! ### Places in bytes -/

/-- A span with its places in bytes. -/
def spanBytes (line : Line) (span : Nat × Nat) : Nat × Nat :=
  (Text.offset line span.1, Text.offset line span.2)

/-- An opening with its places in bytes. -/
def openingBytes (line : Line) (m : OpeningMatch) : OpeningMatch :=
  { m with start := Text.offset line m.start, stop := Text.offset line m.stop }

/-- A hit with its places in bytes. -/
def hitBytes (line : Line) (hit : Hit) : Hit :=
  { hit with start := Text.offset line hit.start, stop := Text.offset line hit.stop }

/-- An entry with its places in bytes of the line in which it opened. -/
def entryBytes (lineAt : Nat → Line) (e : OpenEntry) : OpenEntry :=
  { e with
    column := Text.offset (lineAt e.line) e.column
    body := Text.offset (lineAt e.line) e.body }

/-- The entries opened inside their lines. -/
def Placed (lineAt : Nat → Line) (stack : Stack) : Prop :=
  ∀ e ∈ stack.toList, e.body ≤ (lineAt e.line).length

/-! ### Accesses in range -/

/-- A known rule is found. -/
theorem rule_eq_ok {rules : RuleSet} {id : RuleId} {r : Rule} (h : rules.rule? id = some r) :
    rule rules id = .ok r := by
  simp only [rule, h]

/-- An entry of the stack is found. -/
theorem entry_eq_ok {stack : Stack} {index : Nat} {e : OpenEntry} (h : stack[index]? = some e) :
    entry stack index = .ok e := by
  simp only [entry, h]

/-- If every access of a list succeeds, they succeed together. -/
theorem mapM_eq_ok {α β : Type} {f : α → Except Fault β} {g : α → β} {xs : List α}
    (h : ∀ x ∈ xs, f x = .ok (g x)) : xs.mapM f = .ok (xs.map g) := by
  induction xs with
  | nil => rfl
  | cons x xs ih =>
    rw [List.mapM_cons, h x List.mem_cons_self, ih fun y hy => h y (List.mem_cons_of_mem _ hy)]
    rfl

/-- A fold stays in range if its steps do as long as an invariant holds. The states of one fold are
seen as those of the other through `view`. -/
theorem foldlM_eq_ok {α β γ : Type} (view : γ → β) (f : β → α → Except Fault β) (g : γ → α → γ)
    (xs : List α) (I : γ → Prop)
    (h : ∀ s, ∀ x ∈ xs, I s → f (view s) x = .ok (view (g s x)) ∧ I (g s x)) {s : γ} (hs : I s) :
    xs.foldlM f (view s) = .ok (view (xs.foldl g s)) := by
  induction xs generalizing s with
  | nil => rfl
  | cons x xs ih =>
    obtain ⟨hx, hi⟩ := h s x List.mem_cons_self hs
    rw [List.foldlM_cons, hx, List.foldl_cons]
    exact ih (fun s y hy => h s y (List.mem_cons_of_mem _ hy)) hi

variable {line : Line} {pos start stop : Nat}

/-- A search from a character of the line or from its end is in range. -/
theorem matchAt_offset (p : Pattern) (h : pos ≤ line.length) :
    matchAt p line (Text.offset line pos) = .ok ((p.matchAt line pos).map (.ofMatch p line)) := by
  rw [matchAt, Text.index?_offset h]

/-- A search that would start inside a character is caught. -/
example (p : Pattern) : matchAt p ['é'] 1 = .error (.position 1) := rfl

/-- The search goes on at the same place in bytes as in characters. -/
theorem nextPos?_offset {lo : Nat} (h : Inside lo line.length start stop) :
    nextPos? line (Text.offset line start) (Text.offset line stop) =
      (CodeFold.nextPos? line start stop).map (Text.offset line) := by
  have hlt := Text.offset_lt_offset_iff (Nat.le_trans h.start_le h.le_hi) h.le_hi
  rw [nextPos?, CodeFold.nextPos?, Text.nextBoundary?_offset h.le_hi]
  simp only [hlt]
  split
  · rfl
  · split <;> rfl

/-! ### Searches -/

/-- The texts of the groups tell which groups took part. -/
private theorem isSome_captures {p : Pattern} {group : Nat} (h : group < p.groupNames.length)
    (m : Pattern.Match) :
    (p.captures line m)[group]?.join.isSome = (m.group? group).isSome := by
  rw [Pattern.captures, List.getElem?_map, List.getElem?_range h]
  simp

/-- A search for a group ends before its fuel is used up, because every match moves it on. -/
private theorem findGroupFrom_offset {p : Pattern} {group : Nat}
    (hg : group < p.groupNames.length) {fuel : Nat} (hp : pos ≤ line.length)
    (hf : line.length - pos < fuel) :
    findGroupFrom p line group fuel (Text.offset line pos) =
      .ok ((CodeFold.findGroupFrom p line group fuel pos).map (spanBytes line)) := by
  induction fuel generalizing pos with
  | zero => omega
  | succ fuel ih =>
    rw [findGroupFrom, CodeFold.findGroupFrom, matchAt_offset p hp]
    cases hm : p.matchAt line pos with
    | none => rfl
    | some m =>
      have hi := Pattern.inside_matchAt hm
      dsimp only [bind, Except.bind, Option.map_some, Found.ofMatch]
      rw [isSome_captures hg, nextPos?_offset hi]
      split
      · rfl
      · cases hn : CodeFold.nextPos? line m.start m.stop with
        | none => rfl
        | some next =>
          have hs := nextPos?_spec hi hn
          have hl := hi.lo_le
          exact ih hs.2.2 (by omega)

private theorem findGroup_offset (p : Pattern) (name : String) (hp : pos ≤ line.length) :
    findGroup p line name (Text.offset line pos) =
      .ok ((CodeFold.findGroup p line name pos).map (spanBytes line)) := by
  unfold findGroup CodeFold.findGroup
  cases hg : p.groupIndex? name with
  | none => rfl
  | some group =>
    have hlt : group < p.groupNames.length := (List.findIdx?_eq_some_iff_getElem.mp hg).1
    exact findGroupFrom_offset hlt hp (by omega)

private theorem findOpening_offset (rule : Rule) (hp : pos ≤ line.length) :
    findOpening rule line (Text.offset line pos) =
      .ok ((rule.findOpening line pos).map (openingBytes line)) := by
  unfold findOpening Rule.findOpening
  cases rule.kind with
  | delimited p closing =>
    cases closing <;> dsimp only <;> rw [matchAt_offset p hp] <;>
      cases p.matchAt line pos <;> rfl
  | paired p =>
    dsimp only
    rw [findGroup_offset p _ hp]
    cases CodeFold.findGroup p line "begin" pos <;> rfl
  | consecutive p => rfl
  | indentation => rfl

private theorem closingMatch_offset (lineAt : Nat → Line) (rule : Rule) (e : OpenEntry)
    (hp : pos ≤ line.length) :
    closingMatch rule (entryBytes lineAt e) line (Text.offset line pos) =
      .ok ((rule.closingMatch e line pos).map (spanBytes line)) := by
  unfold closingMatch Rule.closingMatch
  cases rule.kind with
  | delimited opening closing =>
    cases closing with
    | template t =>
      dsimp only [entryBytes]
      cases e.closing with
      | none => rfl
      | some p =>
        dsimp only [Option.bind]
        rw [matchAt_offset p hp]
        cases p.matchAt line pos <;> rfl
    | fixed p =>
      dsimp only
      rw [matchAt_offset p hp]
      cases p.matchAt line pos <;> rfl
  | paired p => exact findGroup_offset p _ hp
  | consecutive p => rfl
  | indentation => rfl

/-- The gap between an opening and an end is the same text in bytes as in characters. -/
private theorem onlyBlankBefore_offset {lineAt : Nat → Line} {e : OpenEntry} {lineNo : Nat}
    (he : e.body ≤ (lineAt e.line).length) (hs : start ≤ (lineAt lineNo).length) :
    onlyBlankBefore (entryBytes lineAt e) lineNo (lineAt lineNo)
      (Text.offset (lineAt lineNo) start) = e.onlyBlankBefore lineNo (lineAt lineNo) start := by
  unfold onlyBlankBefore OpenEntry.onlyBlankBefore entryBytes
  by_cases hl : e.line = lineNo
  · subst hl
    rw [Text.sliceBytes?_offset he hs]
    by_cases hle : e.body ≤ start <;> simp [hle]
  · simp [hl]

/-- A search for an end ends before its fuel is used up, because every match moves it on. -/
private theorem findClosingFrom_offset {lineAt : Nat → Line} (rule : Rule) {e : OpenEntry}
    (he : e.body ≤ (lineAt e.line).length) {lineNo : Nat} (hline : lineAt lineNo = line)
    {fuel : Nat} (hp : pos ≤ line.length) (hf : line.length - pos < fuel) :
    findClosingFrom rule (entryBytes lineAt e) lineNo line fuel (Text.offset line pos) =
      .ok ((rule.findClosingFrom e lineNo line fuel pos).map (spanBytes line)) := by
  induction fuel generalizing pos with
  | zero => omega
  | succ fuel ih =>
    rw [findClosingFrom, Rule.findClosingFrom, closingMatch_offset lineAt rule e hp]
    cases hm : rule.closingMatch e line pos with
    | none => rfl
    | some span =>
      obtain ⟨start, stop⟩ := span
      have hi := rule.inside_closingMatch hm
      subst hline
      dsimp only [bind, Except.bind, Option.map_some, spanBytes]
      rw [onlyBlankBefore_offset he (Nat.le_trans hi.start_le hi.le_hi), nextPos?_offset hi]
      split
      · cases hn : CodeFold.nextPos? (lineAt lineNo) start stop with
        | none => rfl
        | some next =>
          have hs := nextPos?_spec hi hn
          have hl := hi.lo_le
          exact ih hs.2.2 (by omega)
      · rfl

/-! ### Hits -/

/-- The hit that starts first is the same in bytes as in characters. -/
private theorem earliest_map_hitBytes {hits : List Hit} (h : ∀ x ∈ hits, x.start ≤ line.length) :
    Hit.earliest (hits.map (hitBytes line)) = (Hit.earliest hits).map (hitBytes line) := by
  suffices hfold : ∀ best : Option Hit, (∀ b ∈ best, b.start ≤ line.length) →
      (hits.map (hitBytes line)).foldl Hit.earlier (best.map (hitBytes line)) =
        (hits.foldl Hit.earlier best).map (hitBytes line) from hfold none nofun
  induction hits with
  | nil => exact fun _ _ => rfl
  | cons x hits ih =>
    intro best hbest
    have hx := h x List.mem_cons_self
    have hstep : Hit.earlier (best.map (hitBytes line)) (hitBytes line x) =
        (Hit.earlier best x).map (hitBytes line) ∧
          ∀ b ∈ Hit.earlier best x, b.start ≤ line.length := by
      cases best with
      | none => exact ⟨rfl, fun b hb => Option.some.inj hb ▸ hx⟩
      | some b =>
        have hlt := Text.offset_lt_offset_iff hx (hbest b rfl)
        simp only [Hit.earlier, Option.map_some, hitBytes, hlt]
        split
        · exact ⟨rfl, fun b hb => Option.some.inj hb ▸ hx⟩
        · exact ⟨rfl, hbest⟩
    rw [List.map_cons, List.foldl_cons, List.foldl_cons, hstep.1]
    exact ih (fun y hy => h y (List.mem_cons_of_mem _ hy)) _ hstep.2

variable {rules : RuleSet} {stack : Stack} {lineAt : Nat → Line} {lineNo : Nat}

/-- The scope inside the innermost region does not depend on places. -/
theorem scope_map_entryBytes (lineAt : Nat → Line) (stack : Stack) :
    Stack.scope rules (stack.map (entryBytes lineAt)) = stack.scope rules := by
  unfold Stack.scope
  rw [Array.back?_map]
  cases stack.back? <;> rfl

private theorem closingHit_offset {index : Nat} {e : OpenEntry} {r : Rule}
    (he : stack[index]? = some e) (hb : e.body ≤ (lineAt e.line).length)
    (hr : rules.rule? e.rule = some r) (hline : lineAt lineNo = line) (hp : pos ≤ line.length) :
    closingHit rules (stack.map (entryBytes lineAt)) lineNo line (Text.offset line pos) index =
      .ok ((stack.closingHit rules lineNo line pos index).map (hitBytes line)) := by
  have heb : (stack.map (entryBytes lineAt))[index]? = some (entryBytes lineAt e) := by
    rw [Array.getElem?_map, he]
    rfl
  rw [closingHit, entry_eq_ok heb, Stack.closingHit, he]
  dsimp only [bind, Except.bind, Option.bind, entryBytes]
  rw [rule_eq_ok hr, hr]
  dsimp only
  have hfound := findClosingFrom_offset r hb hline hp
    (show line.length - pos < line.length + 1 by omega)
  rw [entryBytes] at hfound
  rw [hfound, Rule.findClosing]
  cases r.findClosingFrom e lineNo line (line.length + 1) pos <;> rfl

private theorem openingHit_offset {id : RuleId} {r : Rule} (hr : rules.rule? id = some r)
    (hp : pos ≤ line.length) :
    openingHit rules line (Text.offset line pos) id =
      .ok ((Stack.openingHit rules line pos id).map (hitBytes line)) := by
  rw [openingHit, rule_eq_ok hr, Stack.openingHit, hr]
  dsimp only [bind, Except.bind, Option.bind]
  rw [findOpening_offset r hp]
  cases r.findOpening line pos <;> rfl

/-- In a valid stack the search for the next hit stays in range: the ends stand at positions of the
stack, and all rules that are tried are known. -/
theorem nextHit_offset (hw : rules.WF) (hv : stack.Valid rules) (hb : Placed lineAt stack)
    (hline : lineAt lineNo = line) (hp : pos ≤ line.length) :
    nextHit rules (stack.map (entryBytes lineAt)) lineNo line (Text.offset line pos) =
      .ok ((stack.nextHit rules lineNo line pos).map (hitBytes line)) := by
  have hclosings : ∀ x ∈ (stack.scope rules).ends,
      closingHit rules (stack.map (entryBytes lineAt)) lineNo line (Text.offset line pos) x.2 =
        .ok ((stack.closingHit rules lineNo line pos x.2).map (hitBytes line)) := by
    intro x hx
    have hlt : x.2 < stack.size := by simpa using (hv.highest_of_mem_ends hx).lt
    have he : stack[x.2]? = some stack[x.2] := Array.getElem?_eq_getElem hlt
    have hmem : stack[x.2] ∈ stack.toList := by simp
    obtain ⟨r, hr⟩ := (hv.proper stack[x.2] hmem).known
    exact closingHit_offset he (hb _ hmem) hr hline hp
  have hopenings : ∀ id ∈ (stack.scope rules).active,
      openingHit rules line (Text.offset line pos) id =
        .ok ((Stack.openingHit rules line pos id).map (hitBytes line)) := by
    intro id hid
    obtain ⟨r, hr⟩ :=
      hw.known_of_mem_listing (hv.mem_listing_of_mem_active hw.top.nodup hid)
    exact openingHit_offset hr hp
  rw [nextHit, scope_map_entryBytes]
  dsimp only
  rw [mapM_eq_ok hclosings, mapM_eq_ok hopenings]
  simp only [bind, Except.bind, pure, Except.pure, List.filterMap_map, Stack.nextHit]
  rw [← earliest_map_hitBytes, List.map_append, List.map_filterMap, List.map_filterMap]
  · rfl
  · intro x hx
    rcases List.mem_append.mp hx with hx | hx
    · obtain ⟨_, _, hc⟩ := List.mem_filterMap.mp hx
      obtain ⟨e, r, _, _, hf, _⟩ := Stack.closingHit_eq_some hc
      have hi := r.inside_findClosingFrom e lineNo line _ pos hf
      exact Nat.le_trans hi.start_le hi.le_hi
    · obtain ⟨_, _, ho⟩ := List.mem_filterMap.mp hx
      obtain ⟨r, m, _, hm, rfl⟩ := Stack.openingHit_eq_some ho
      have hi := r.inside_findOpening hm
      exact Nat.le_trans hi.start_le hi.le_hi

end Checked

end CodeFold
