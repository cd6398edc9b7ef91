import CodeFold.Proofs.Share

/-!
# Runs of matching lines

A rule on lines in a row that holds everywhere reports the maximal runs of two or more lines that
it hits: a line is hit if it matches and no sealed region is open at its start. A run ends above the
first line that is not hit, whichever way it is missed, and regions that open and close beside a
run neither end it nor make it shorter.
Specification: §8.
-/

namespace CodeFold

/-- Lines `a` to `b` are hit, and neither the line above them nor the line below is. -/
structure MaximalRun (hit : Nat → Bool) (a b : Nat) : Prop where
  hits : ∀ l, a ≤ l → l ≤ b → hit l = true
  above : ∀ l, l + 1 = a → hit l = false
  below : hit (b + 1) = false

private theorem maximalRun_iff {hit : Nat → Bool} {a b : Nat} :
    MaximalRun hit a b ↔ (∀ l < b + 1, a ≤ l → hit l = true) ∧
      (∀ l < a, l + 1 = a → hit l = false) ∧ hit (b + 1) = false := by
  constructor
  · intro h
    exact ⟨fun l hl ha => h.hits l ha (Nat.le_of_lt_succ hl), fun l _ => h.above l, h.below⟩
  · rintro ⟨hhits, habove, hbelow⟩
    refine ⟨fun l ha hl => hhits l (Nat.lt_succ_of_le hl) ha, fun l hl => ?_, hbelow⟩
    exact habove l (by omega) hl

instance (hit : Nat → Bool) (a b : Nat) : Decidable (MaximalRun hit a b) :=
  decidable_of_iff _ maximalRun_iff.symm

/-- A run of lines that goes on at line `n`. -/
structure Run.ReachesTo (hit : Nat → Bool) (n : Nat) (run : Run) : Prop where
  first_le : run.first ≤ run.last
  last_eq : run.last + 1 = n
  hits : ∀ l, run.first ≤ l → l ≤ run.last → hit l = true
  above : ∀ l, l + 1 = run.first → hit l = false

/-- What a rule has pending and has reported after the lines below `n`: the maximal runs above the
last line, and a run that reaches down to that line if it is hit. -/
structure Share.Follows (hit : Nat → Bool) (id : RuleId) (n : Nat) (v : Share) : Prop where
  blocks : v.blocks = none
  noRun : v.run = none → ∀ l, l + 1 = n → hit l = false
  run : ∀ run, v.run = some run → run.ReachesTo hit n
  nodup : v.events.Nodup
  events : ∀ e, e ∈ v.events ↔
    ∃ a b, a < b ∧ b + 1 < n ∧ MaximalRun hit a b ∧ e = ⟨id, a, b, false⟩

variable {hit : Nat → Bool} {id : RuleId} {n : Nat} {v : Share}

/-- A run that ends above a line that is not hit is maximal, and it is the only one there. -/
theorem Run.ReachesTo.maximal_iff {run : Run} (h : run.ReachesTo hit n) (hn : hit n = false)
    {a b : Nat} (hab : a ≤ b) :
    b + 1 = n ∧ MaximalRun hit a b ↔ a = run.first ∧ b = run.last := by
  have hlast := h.last_eq
  constructor
  · rintro ⟨hb, hmax⟩
    have hfirst := h.first_le
    refine ⟨?_, by omega⟩
    -- A line above one of the two that belongs to the other would be hit and not hit.
    rcases Nat.lt_trichotomy a run.first with hlt | heq | hlt
    · have hout := h.above (run.first - 1) (by omega)
      rw [hmax.hits (run.first - 1) (by omega) (by omega)] at hout
      cases hout
    · exact heq
    · have hout := hmax.above (a - 1) (by omega)
      rw [h.hits (a - 1) (by omega) (by omega)] at hout
      cases hout
  · rintro ⟨rfl, rfl⟩
    refine ⟨hlast, h.hits, h.above, ?_⟩
    rw [hlast]
    exact hn

namespace Share

private theorem follows_zero (hit : Nat → Bool) (id : RuleId) :
    Follows hit id 0 ⟨none, none, []⟩ where
  blocks := rfl
  noRun := by
    intro _ l hl
    omega
  run := by simp
  nodup := List.nodup_nil
  events := by simp

/-- A line that is hit makes the run longer or begins one. -/
theorem Follows.extend (h : Follows hit id n v) (hn : hit n = true) :
    Follows hit id (n + 1)
      { v with run := some ((v.run.map fun r => { r with last := n }).getD ⟨n, n⟩) } := by
  constructor
  · exact h.blocks
  · intro hnone
    cases hnone
  · intro run hrun
    cases hrun
    cases hv : v.run with
    | none =>
      refine ⟨Nat.le_refl n, rfl, ?_, ?_⟩
      · intro l hl hl'
        rw [Nat.le_antisymm hl' hl]
        exact hn
      · intro l hl
        exact h.noRun hv l hl
    | some run =>
      have hr := h.run run hv
      have hfirst := hr.first_le
      have hlast := hr.last_eq
      refine ⟨?_, rfl, ?_, hr.above⟩
      · show run.first ≤ n
        omega
      · intro l hl hl'
        by_cases hln : l = n
        · rw [hln]
          exact hn
        · exact hr.hits l hl (by change l ≤ n at hl'; omega)
  · exact h.nodup
  · intro e
    rw [h.events e]
    constructor
    · rintro ⟨a, b, hab, hb, hrest⟩
      exact ⟨a, b, hab, Nat.lt_succ_of_lt hb, hrest⟩
    · rintro ⟨a, b, hab, hb, hmax, rfl⟩
      have hbn : b + 1 ≠ n := by
        intro hbn
        have hbelow := hmax.below
        rw [hbn, hn] at hbelow
        cases hbelow
      exact ⟨a, b, hab, by omega, hmax, rfl⟩

/-- What is reported above a line that is not hit: the maximal run that ends there, unless it is a
single line. -/
theorem Follows.mem_ended (h : Follows hit id n v) (hn : hit n = false) (e : Event) :
    e ∈ (v.run.bind (·.event? id none)).toList ↔
      ∃ a b, a < b ∧ b + 1 = n ∧ MaximalRun hit a b ∧ e = ⟨id, a, b, false⟩ := by
  cases hv : v.run with
  | none =>
    constructor
    · intro he
      simp at he
    · rintro ⟨a, b, hab, hb, hmax, rfl⟩
      have hmiss := h.noRun hv b hb
      rw [hmax.hits b (Nat.le_of_lt hab) (Nat.le_refl b)] at hmiss
      cases hmiss
  | some run =>
    have hr := h.run run hv
    have hevent : run.event? id none =
        if run.first < run.last then some ⟨id, run.first, run.last, false⟩ else none := rfl
    rw [Option.bind_some, Option.mem_toList, hevent]
    constructor
    · intro he
      split at he
      · next hlt =>
        cases he
        obtain ⟨hlast, hmax⟩ := (hr.maximal_iff hn hr.first_le).mpr ⟨rfl, rfl⟩
        exact ⟨_, _, hlt, hlast, hmax, rfl⟩
      · cases he
    · rintro ⟨a, b, hab, hb, hmax, rfl⟩
      obtain ⟨rfl, rfl⟩ := (hr.maximal_iff hn (Nat.le_of_lt hab)).mp ⟨hb, hmax⟩
      rw [if_pos hab]

/-- A line that is not hit ends the run. -/
theorem Follows.endRun (h : Follows hit id n v) (hn : hit n = false) :
    Follows hit id (n + 1) (v.endRun id) := by
  constructor
  · exact h.blocks
  · intro _ l hl
    rw [Nat.succ.inj hl]
    exact hn
  · intro run hrun
    cases hrun
  · apply List.nodup_append.mpr
    refine ⟨h.nodup, ?_, ?_⟩
    · cases v.run.bind (·.event? id none) <;> simp
    · -- Earlier runs ended further up.
      rintro e he e' he' rfl
      obtain ⟨a, b, _, hb, _, rfl⟩ := (h.events e).mp he
      obtain ⟨a', b', _, hb', _, heq⟩ := (h.mem_ended hn _).mp he'
      cases heq
      omega
  · intro e
    rw [Share.endRun, List.mem_append, h.events e, h.mem_ended hn e]
    constructor
    · rintro (⟨a, b, hab, hb, hrest⟩ | ⟨a, b, hab, hb, hrest⟩)
      · exact ⟨a, b, hab, by omega, hrest⟩
      · exact ⟨a, b, hab, by omega, hrest⟩
    · rintro ⟨a, b, hab, hb, hrest⟩
      by_cases hbn : b + 1 = n
      · exact .inr ⟨a, b, hab, hbn, hrest⟩
      · exact .inl ⟨a, b, hab, by omega, hrest⟩

/-- A run that reaches down to a line goes on after it. -/
theorem Follows.settle_of_hit (h : Follows hit id (n + 1) v) : v.settle id n = v := by
  unfold settle
  cases hv : v.run with
  | none => rfl
  | some run =>
    have hlast : run.last = n := Nat.succ.inj (h.run run hv).last_eq
    simp [hlast]

/-- A run that a line has not made longer ends. -/
theorem Follows.settle_of_miss (h : Follows hit id n v) : v.settle id n = v.endRun id := by
  unfold settle
  cases hv : v.run with
  | none =>
    rw [Share.endRun, hv]
    show v = ⟨none, v.blocks, v.events ++ []⟩
    rw [List.append_nil, ← hv]
  | some run =>
    have hlast := (h.run run hv).last_eq
    rw [if_pos]
    simp only [Option.any_some, decide_eq_true_eq]
    omega

end Share

namespace RuleSet

/-- Whether a line matches and no region that is open at its start is sealed. -/
def hits (rules : RuleSet) (lines : List Line) (p : Pattern) (l : Nat) : Bool :=
  rules.sees lines l && lines[l]?.any p.isMatch

/-- After any number of lines a rule on lines in a row that holds everywhere has reported the runs
that have ended. -/
theorem follows_stateAt {rules : RuleSet} {lines : List Line} {r : RuleId} {rule : Rule}
    {p : Pattern} (ht : rules.topLevel.Nodup) (hr : r ∈ rules.topLevel)
    (hrule : rules.rule? r = some rule) (hk : rule.kind = .consecutive p) {n : Nat}
    (hn : n ≤ lines.length) :
    Share.Follows (rules.hits lines p) r n ((rules.stateAt lines n).share r) := by
  induction n with
  | zero => exact Share.follows_zero _ r
  | succ n ih =>
    have h := ih (Nat.le_of_succ_le hn)
    have hline : lines[n]? = some lines[n] := List.getElem?_eq_getElem hn
    have hhits : rules.hits lines p n = (rules.sees lines n && p.isMatch lines[n]) := by
      simp [hits, hline]
    rw [share_stateAt_succ ht hr hrule (by rw [hk]; rfl) hline, hk]
    cases hn : rules.hits lines p n with
    | true =>
      obtain ⟨hs, hm⟩ := Bool.and_eq_true_iff.mp (hhits.symm.trans hn)
      have hnext := h.extend hn
      simp only [hs, hm, if_true, Share.feed]
      rw [hnext.settle_of_hit]
      exact hnext
    | false =>
      have hsame : (if rules.sees lines n then
          ((rules.stateAt lines n).share r).feed r (.consecutive p) n lines[n]
          else (rules.stateAt lines n).share r) = (rules.stateAt lines n).share r := by
        rw [hhits] at hn
        cases hs : rules.sees lines n with
        | false => rfl
        | true =>
          have hm : p.isMatch lines[n] = false := by simpa [hs] using hn
          simp [Share.feed, hm]
      rw [hsame, h.settle_of_miss]
      exact h.endRun hn

/-- In a scan with compiled rules, whatever the other rules are, the events of a rule on lines in a
row that holds everywhere are the maximal runs of two or more lines that it hits, each once. -/
theorem runs_scan (language : Language) (specific wildcard : List RuleEntry) (lines : List Line) :
    let rules := (RuleSet.compile language specific wildcard).1
    ∀ r ∈ rules.topLevel, ∀ rule p, rules.rule? r = some rule → rule.kind = .consecutive p →
      let found := (rules.scan lines).filter (·.rule = r)
      found.Nodup ∧ ∀ e, e ∈ found ↔
        ∃ a b, a < b ∧ MaximalRun (rules.hits lines p) a b ∧ e = ⟨r, a, b, false⟩ := by
  intro rules r hr rule p hrule hk found
  have ht : rules.topLevel.Nodup := (RuleSet.wf_compile language specific wildcard).top.nodup
  have hend : rules.hits lines p lines.length = false := by simp [hits]
  -- The end of the document ends a run like a line that is not hit.
  have h := (follows_stateAt ht hr hrule hk (Nat.le_refl _)).endRun hend
  have hfound : found = (((rules.stateAt lines lines.length).share r).endRun r).events := by
    show (rules.scan lines).filter (·.rule = r) = _
    rw [filter_scan, Share.endBlocks, h.blocks, Option.elim_none, List.append_nil]
  rw [hfound]
  refine ⟨h.nodup, fun e => ?_⟩
  rw [h.events e]
  constructor
  · rintro ⟨a, b, hab, _, hrest⟩
    exact ⟨a, b, hab, hrest⟩
  · rintro ⟨a, b, hab, hmax, heq⟩
    have hb : b < lines.length := by
      apply Nat.lt_of_not_le
      intro hle
      have hhit := hmax.hits b (Nat.le_of_lt hab) (Nat.le_refl b)
      simp [hits, List.getElem?_eq_none hle] at hhit
    exact ⟨a, b, hab, by omega, hmax, heq⟩

end RuleSet

/-- Comments of whole lines, comments between delimiters, and brackets. -/
def comments : RuleSet :=
  (RuleSet.compile ⟨"test"⟩
    [.rule { openingRegex := some "^//", consecutive := some true } .unset,
      .rule { opening := some "/*", closing := some "*/" } (.flag false),
      .rule { opening := some "(", closing := some ")", foldLastLine := some false } .unset] []).1

/-- A document with three comments of whole lines, one of them of a single line. -/
def commented : List Line :=
  Line.split "// a (\n// b )\nx\n// c /*\n// d\n*/\n// e\n// f"

/-- A bracket that closes does not cut a run short, and a line inside a comment ends one. -/
theorem runs_scan_of_comments :
    0 ∈ comments.topLevel ∧
      (∃ rule p, comments.rule? 0 = some rule ∧ rule.kind = .consecutive p) ∧
      let found := (comments.scan commented).filter (·.rule = 0)
      ⟨0, 0, 1, false⟩ ∈ found ∧ ⟨0, 6, 7, false⟩ ∈ found ∧ ⟨0, 3, 4, false⟩ ∉ found := by
  have htop : 0 ∈ comments.topLevel := by decide +kernel
  obtain ⟨_, hfound⟩ := RuleSet.runs_scan ⟨"test"⟩ _ [] commented 0 htop _ _ rfl rfl
  refine ⟨htop, ⟨_, _, rfl, rfl⟩, ?_, ?_, ?_⟩
  · exact (hfound _).mpr ⟨0, 1, by decide, by decide +kernel, rfl⟩
  · exact (hfound _).mpr ⟨6, 7, by decide, by decide +kernel, rfl⟩
  · intro hmem
    obtain ⟨a, b, _, hmax, heq⟩ := (hfound _).mp hmem
    cases heq
    exact absurd hmax (by decide +kernel)

end CodeFold
