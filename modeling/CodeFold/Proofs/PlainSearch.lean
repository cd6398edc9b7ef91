import CodeFold.Proofs.Coherence

/-!
# The plain search for the next hit

The next hit is looked for with one search for each distinct end. The plain search tries the end
of every open entry on its own and the opening of every active rule, and takes the hit that is
preferred to all others. Entries with one key have one closing pattern, so as long as no rule is
strict, both find the same hit. A strict rule looks at where the single entry opened.
Specification: §12.
-/

namespace CodeFold

/-- Whether the first of two actions at one place is preferred: closing to opening, a higher
position to a lower one, and an earlier active rule to a later one. -/
def Action.outranks (active : List RuleId) : Action → Action → Bool
  | .close i, .close j => j < i
  | .close _, .open_ _ _ => true
  | .open_ _ _, .close _ => false
  | .open_ a _, .open_ b _ => active.idxOf a < active.idxOf b

/-- Whether a hit is preferred to another one: it starts earlier, or its action outranks the other
one at the same place. -/
def Hit.precedes (active : List RuleId) (a b : Hit) : Bool :=
  a.start < b.start || a.start = b.start && a.action.outranks active b.action

/-- Whether the rule of an entry passes over ends that only white space parts from the opening. -/
def OpenEntry.isStrict (rules : RuleSet) (e : OpenEntry) : Bool :=
  (rules.rule? e.rule).any (·.strict)

namespace Stack

/-- The positions whose ends are tried: the innermost one alone if it is sealed, and else all. -/
def positions (rules : RuleSet) (stack : Stack) : List Nat :=
  if stack.endsSealed rules then [stack.size - 1] else List.range stack.size

/-- The ends of all these entries and the openings of all active rules. -/
def candidates (rules : RuleSet) (stack : Stack) (lineNo : Nat) (line : Line) (pos : Nat) :
    List Hit :=
  (stack.positions rules).filterMap (stack.closingHit rules lineNo line pos) ++
    (stack.scope rules).active.filterMap (openingHit rules line pos)

/-- The candidate that is preferred to all others. -/
def plainHit (rules : RuleSet) (stack : Stack) (lineNo : Nat) (line : Line) (pos : Nat) :
    Option Hit :=
  let hits := stack.candidates rules lineNo line pos
  hits.find? fun a => hits.all fun b => a = b || a.precedes (stack.scope rules).active b

end Stack

/-! ### Preference -/

private theorem Action.outranks_asymm {active : List RuleId} {a b : Action}
    (h : a.outranks active b = true) : b.outranks active a = false := by
  cases a <;> cases b <;> simp_all [outranks] <;> omega

private theorem Hit.precedes_iff {active : List RuleId} {a b : Hit} :
    a.precedes active b = true ↔
      a.start < b.start ∨ a.start = b.start ∧ a.action.outranks active b.action = true := by
  simp [precedes]

private theorem Hit.precedes_asymm {active : List RuleId} {a b : Hit}
    (h : a.precedes active b = true) : b.precedes active a = false := by
  apply Bool.eq_false_iff.mpr
  intro hb
  rw [precedes_iff] at h hb
  rcases h with h | ⟨hs, h⟩
  · omega
  · rcases hb with hb | ⟨_, hb⟩
    · omega
    · rw [Action.outranks_asymm h] at hb
      cases hb

/-- If hits are listed in the order in which their actions outrank each other, the earliest one is
preferred to all others. -/
theorem Hit.precedes_of_earliest {active : List RuleId} {hits : List Hit} {h : Hit}
    (hp : hits.Pairwise fun a b => a.action.outranks active b.action = true)
    (he : earliest hits = some h) : ∀ x ∈ hits, h = x ∨ h.precedes active x = true := by
  obtain ⟨l₁, l₂, rfl, h₁, h₂⟩ := earliest_eq_some he
  intro x hx
  rcases List.mem_append.mp hx with hx | hx
  · exact .inr (precedes_iff.mpr (.inl (h₁ x hx)))
  · rcases List.mem_cons.mp hx with rfl | hx
    · exact .inl rfl
    · have hr := (List.pairwise_cons.mp (List.pairwise_append.mp hp).2.1).1 x hx
      have hs := h₂ x hx
      refine .inr (precedes_iff.mpr ?_)
      rcases Nat.lt_or_eq_of_le hs with hs | hs
      · exact .inl hs
      · exact .inr ⟨hs, hr⟩

/-! ### Entries with one key -/

/-- A rule that is not strict takes the first match of what closes an entry. -/
theorem Rule.findClosing_of_not_strict {rule : Rule} (hs : rule.strict = false) (entry : OpenEntry)
    (lineNo : Nat) (line : Line) (pos : Nat) :
    rule.findClosing entry lineNo line pos = rule.closingMatch entry line pos := by
  rw [findClosing, findClosingFrom]
  cases rule.closingMatch entry line pos with
  | none => rfl
  | some span => simp [hs]

namespace OpenEntry

variable {rules : RuleSet} {a b : OpenEntry}

/-- Entries with one key have one rule and are closed by the same matches. -/
theorem closingMatch_of_key (hw : rules.WF) (ha : a.Proper rules) (hb : b.Proper rules)
    {key : EndKey} (hka : a.key? rules = some key) (hkb : b.key? rules = some key) :
    a.rule = b.rule ∧ ∀ rule, rules.rule? a.rule = some rule → ∀ line pos,
      rule.closingMatch a line pos = rule.closingMatch b line pos := by
  obtain ⟨r, hra, hka⟩ := Option.bind_eq_some_iff.mp hka
  obtain ⟨r', hrb, hkb⟩ := Option.bind_eq_some_iff.mp hkb
  have hia := (hw.sound _ r hra).1
  have hib := (hw.sound _ r' hrb).1
  -- The key holds the number of the rule, which is its place in the set.
  have hid : r.id = r'.id := by
    unfold endKey? at hka hkb
    split at hka <;> split at hkb
    · obtain ⟨p, _, rfl⟩ := Option.map_eq_some_iff.mp hka
      obtain ⟨q, _, hq⟩ := Option.map_eq_some_iff.mp hkb
      exact (EndKey.resolved.inj hq).1.symm
    · obtain ⟨p, _, rfl⟩ := Option.map_eq_some_iff.mp hka
      cases hkb
    · obtain ⟨p, _, rfl⟩ := Option.map_eq_some_iff.mp hkb
      cases hka
    · cases hka
      exact (EndKey.rule.inj (Option.some.inj hkb)).symm
  have hrule : a.rule = b.rule := by rw [← hia, ← hib, hid]
  refine ⟨hrule, ?_⟩
  intro rule hr line pos
  have hrr : r = rule := Option.some.inj (hra.symm.trans hr)
  have hrr' : r' = rule := Option.some.inj (hrb.symm.trans (hrule ▸ hr))
  subst hrr
  subst hrr'
  unfold Rule.closingMatch
  cases hk : r'.kind with
  | delimited opening closing =>
    cases closing with
    | fixed p => rfl
    | template t =>
      -- The key holds the source of the closing pattern, and a source compiles to one pattern.
      simp only [endKey?, hk] at hka hkb
      obtain ⟨p, hp, rfl⟩ := Option.map_eq_some_iff.mp hka
      obtain ⟨q, hq, hpq⟩ := Option.map_eq_some_iff.mp hkb
      have hs : q.source = p.source := (EndKey.resolved.inj hpq).2
      have hcp := ha.made p hp
      have hcq := hb.made q hq
      rw [hs, hcp] at hcq
      rw [hp, hq, Except.ok.inj hcq]
  | paired p => rfl
  | consecutive p => rfl
  | indentation => rfl

/-- An entry without a key never closes. -/
theorem closingMatch_of_key_eq_none {rule : Rule} (hr : rules.rule? a.rule = some rule)
    (hk : a.key? rules = none) (line : Line) (pos : Nat) :
    rule.closingMatch a line pos = none := by
  simp only [key?, hr, Option.bind_some, endKey?] at hk
  split at hk
  · next hkind =>
    rw [Option.map_eq_none_iff] at hk
    simp only [Rule.closingMatch, hkind, hk, Option.bind_none]
  · cases hk

end OpenEntry

/-! ### The two searches -/

namespace Stack

variable {rules : RuleSet} {stack : Stack}

private theorem closingHit_of {lineNo pos index start stop : Nat} {line : Line} {entry : OpenEntry}
    {rule : Rule} (he : stack[index]? = some entry) (hr : rules.rule? entry.rule = some rule)
    (hf : rule.findClosing entry lineNo line pos = some (start, stop)) :
    stack.closingHit rules lineNo line pos index = some ⟨start, stop, .close index⟩ := by
  simp [closingHit, he, hr, hf]

private theorem not_strict_of_mem (hs : ∀ e ∈ stack.toList, e.isStrict rules = false)
    {e : OpenEntry} (he : e ∈ stack.toList) {rule : Rule} (hr : rules.rule? e.rule = some rule) :
    rule.strict = false := by
  simpa [OpenEntry.isStrict, hr] using hs e he

/-- The end of an entry is also found for the highest entry with its key. -/
theorem Valid.closingHit_shared (hv : Valid rules stack) (hw : rules.WF)
    (hs : ∀ e ∈ stack.toList, e.isStrict rules = false) {lineNo pos i : Nat} {line : Line}
    {hit : Hit} (hi : i ∈ stack.positions rules)
    (hh : stack.closingHit rules lineNo line pos i = some hit) :
    ∃ key j, (key, j) ∈ (stack.scope rules).ends ∧ i ≤ j ∧
      stack.closingHit rules lineNo line pos j = some ⟨hit.start, hit.stop, .close j⟩ := by
  obtain ⟨entry, rule, he, hr, hf, ha⟩ := closingHit_eq_some hh
  have hm : entry ∈ stack.toList := Array.mem_toList_iff.mpr (Array.mem_of_getElem? he)
  rw [Rule.findClosing_of_not_strict (not_strict_of_mem hs hm hr)] at hf
  cases hk : entry.key? rules with
  | none =>
    rw [OpenEntry.closingMatch_of_key_eq_none hr hk] at hf
    cases hf
  | some key =>
    cases hsealed : stack.endsSealed rules with
    | true =>
      -- Only the innermost entry is tried, and its key is the one that is looked for.
      obtain ⟨es, e, hes, hl, hends⟩ := hv.ends_of_endsSealed hsealed
      have hil : i = es.length := by
        simp only [positions, hsealed, if_true, List.mem_singleton] at hi
        omega
      subst hil
      have hee : e = entry := by
        rw [← Array.getElem?_toList, hes] at he
        simpa using he
      subst hee
      refine ⟨key, es.length, ?_, Nat.le_refl _, ?_⟩
      · rw [hends, hk]
        simp
      · rw [hh, ← ha]
    | false =>
      obtain ⟨j, hj⟩ := Scope.exists_highest hm hk
      have hjm := (Scope.mem_ends_ofEntries (fun e he => (hv.proper e he).known)
        (hv.not_sealed hsealed)).mpr hj
      obtain ⟨⟨top, htop, hkt⟩, habove⟩ := hj
      have hij : i ≤ j := by
        apply Nat.le_of_not_lt
        intro hji
        exact habove i entry hji (by rwa [Array.getElem?_toList]) hk
      have htm := List.mem_of_getElem? htop
      obtain ⟨hrule, hsame⟩ :=
        OpenEntry.closingMatch_of_key hw (hv.proper entry hm) (hv.proper top htm) hk hkt
      have hrt : rules.rule? top.rule = some rule := hrule ▸ hr
      refine ⟨key, j, ?_, hij, ?_⟩
      · rw [hv.coherent.scope_eq]
        exact hjm
      · refine closingHit_of (by rwa [← Array.getElem?_toList]) hrt ?_
        rw [Rule.findClosing_of_not_strict (not_strict_of_mem hs htm hrt), ← hsame rule hr]
        exact hf

/-- The hits that are compared are listed in the order in which they outrank each other. -/
theorem Valid.outranks_pairwise (hv : Valid rules stack) (hn : (stack.scope rules).active.Nodup)
    (lineNo : Nat) (line : Line) (pos : Nat) :
    ((stack.scope rules).ends.filterMap (fun (_, index) =>
        stack.closingHit rules lineNo line pos index) ++
      (stack.scope rules).active.filterMap (openingHit rules line pos)).Pairwise
      fun a b => a.action.outranks (stack.scope rules).active b.action = true := by
  refine List.pairwise_append.mpr ⟨?_, ?_, ?_⟩
  · refine List.pairwise_filterMap.mpr (hv.ends_descending.imp ?_)
    rintro ⟨_, i⟩ ⟨_, j⟩ ⟨hij, _⟩ a ha b hb
    obtain ⟨_, _, _, _, _, haa⟩ := closingHit_eq_some ha
    obtain ⟨_, _, _, _, _, hba⟩ := closingHit_eq_some hb
    rw [haa, hba]
    simpa [Action.outranks] using hij
  · have hidx : (stack.scope rules).active.Pairwise fun a b =>
        (stack.scope rules).active.idxOf a < (stack.scope rules).active.idxOf b := by
      rw [List.pairwise_iff_getElem]
      intro i j hi hj hij
      rw [hn.idxOf_getElem i hi, hn.idxOf_getElem j hj]
      exact hij
    refine List.pairwise_filterMap.mpr (hidx.imp ?_)
    intro x y hxy a ha b hb
    obtain ⟨_, _, _, _, rfl⟩ := openingHit_eq_some ha
    obtain ⟨_, _, _, _, rfl⟩ := openingHit_eq_some hb
    simpa [Action.outranks] using hxy
  · intro a ha b hb
    obtain ⟨⟨_, i⟩, _, ha⟩ := List.mem_filterMap.mp ha
    obtain ⟨id, _, hb⟩ := List.mem_filterMap.mp hb
    obtain ⟨_, _, _, _, _, haa⟩ := closingHit_eq_some ha
    obtain ⟨_, _, _, _, rfl⟩ := openingHit_eq_some hb
    rw [haa]
    rfl

/-- Every end that is looked for is tried by the plain search. -/
theorem Valid.mem_positions (hv : Valid rules stack) {key : EndKey} {i : Nat}
    (hm : (key, i) ∈ (stack.scope rules).ends) : i ∈ stack.positions rules := by
  unfold positions
  split
  · next hs =>
    obtain ⟨es, e, _, hl, hends⟩ := hv.ends_of_endsSealed hs
    rw [hends] at hm
    obtain ⟨_, _, heq⟩ := List.mem_map.mp hm
    cases heq
    rw [List.mem_singleton]
    omega
  · have hl := (hv.highest_of_mem_ends hm).lt
    exact List.mem_range.mpr (by simpa using hl)

/-- A list has one member that is preferred to all others. -/
theorem find?_preferred {active : List RuleId} {hits : List Hit} {h : Hit} (hm : h ∈ hits)
    (hp : ∀ x ∈ hits, h = x ∨ h.precedes active x = true) :
    hits.find? (fun a => hits.all fun b => a = b || a.precedes active b) = some h := by
  have hsat : (hits.all fun b => h = b || h.precedes active b) = true := by
    simpa [List.all_eq_true] using hp
  cases hf : hits.find? (fun a => hits.all fun b => a = b || a.precedes active b) with
  | none => exact absurd hsat (List.find?_eq_none.mp hf h hm)
  | some x =>
    have hx : ∀ b ∈ hits, x = b ∨ x.precedes active b = true := by
      simpa [List.all_eq_true] using List.find?_some hf
    rcases hp x (List.mem_of_find?_eq_some hf) with hhx | hhx
    · rw [hhx]
    · rcases hx h hm with hxh | hxh
      · rw [hxh]
      · rw [Hit.precedes_asymm hhx] at hxh
        cases hxh

/-- In a valid stack without strict entries both searches find the same hit. -/
theorem Valid.nextHit_eq_plainHit (hv : Valid rules stack) (hw : rules.WF)
    (hs : ∀ e ∈ stack.toList, e.isStrict rules = false) (lineNo : Nat) (line : Line) (pos : Nat) :
    stack.nextHit rules lineNo line pos = stack.plainHit rules lineNo line pos := by
  have hn : (stack.scope rules).active.Nodup := by
    rw [hv.active_eq hw.top.nodup]
    split
    · exact List.nodup_nil
    · exact Scope.nodup_listing _
  have hpair := hv.outranks_pairwise hn lineNo line pos
  cases hh : stack.nextHit rules lineNo line pos with
  | none =>
    have hnil := List.append_eq_nil_iff.mp (Hit.earliest_eq_none_iff.mp hh)
    have hcand : stack.candidates rules lineNo line pos = [] := by
      refine List.append_eq_nil_iff.mpr ⟨?_, hnil.2⟩
      apply List.filterMap_eq_nil_iff.mpr
      intro i hi
      cases hc : stack.closingHit rules lineNo line pos i with
      | none => rfl
      | some hit =>
        obtain ⟨key, j, hm, _, hj⟩ := hv.closingHit_shared hw hs hi hc
        have hnone := List.filterMap_eq_nil_iff.mp hnil.1 (key, j) hm
        exact absurd (hj.symm.trans hnone) (by simp)
    simp [plainHit, hcand]
  | some h =>
    have hbest := Hit.precedes_of_earliest hpair hh
    refine (find?_preferred ?_ ?_).symm
    · rcases nextHit_cases hh with ⟨key, i, hm, hc⟩ | ⟨id, hid, ho⟩
      · exact List.mem_append_left _ (List.mem_filterMap.mpr ⟨i, hv.mem_positions hm, hc⟩)
      · exact List.mem_append_right _ (List.mem_filterMap.mpr ⟨id, hid, ho⟩)
    · intro x hx
      rcases List.mem_append.mp hx with hx | hx
      · -- The end of an entry is judged by the end of the highest entry with its key.
        obtain ⟨i, hi, hc⟩ := List.mem_filterMap.mp hx
        obtain ⟨key, j, hm, hij, hj⟩ := hv.closingHit_shared hw hs hi hc
        obtain ⟨_, _, _, _, _, hxa⟩ := closingHit_eq_some hc
        have hrep := hbest ⟨x.start, x.stop, .close j⟩
          (List.mem_append_left _ (List.mem_filterMap.mpr ⟨(key, j), hm, hj⟩))
        rcases Nat.lt_or_eq_of_le hij with hlt | heq
        · refine .inr (Hit.precedes_iff.mpr ?_)
          rcases hrep with rfl | hrep
          · exact .inr ⟨rfl, by rw [hxa]; simpa [Action.outranks] using hlt⟩
          · rcases Hit.precedes_iff.mp hrep with hlt' | ⟨heq', hout⟩
            · exact .inl hlt'
            · refine .inr ⟨heq', ?_⟩
              rw [hxa]
              cases hact : h.action with
              | close i' =>
                rw [hact] at hout
                have hji : j < i' := by simpa [Action.outranks] using hout
                simp only [Action.outranks, decide_eq_true_eq]
                omega
              | open_ id captures =>
                rw [hact] at hout
                cases hout
        · subst heq
          have hxe : (⟨x.start, x.stop, .close i⟩ : Hit) = x := by
            cases x
            cases hxa
            rfl
          rw [hxe] at hrep
          exact hrep
      · exact hbest x (List.mem_append_right _ hx)

end Stack

/-- At every moment of a scan with compiled rules at which no open region is strict, the shared
search finds the hit that the plain search finds, in every line and from every position. -/
theorem RuleSet.nextHit_of_run (language : Language) (specific wildcard : List RuleEntry)
    (lines : List Line) (k : Nat) :
    let rules := (RuleSet.compile language specific wildcard).1
    let stack := (rules.run lines k).state.stack
    (∀ e ∈ stack.toList, e.isStrict rules = false) → ∀ (lineNo : Nat) (line : Line) (pos : Nat),
      stack.nextHit rules lineNo line pos = stack.plainHit rules lineNo line pos := by
  intro rules stack hs lineNo line pos
  have hw : rules.WF := RuleSet.wf_compile language specific wildcard
  exact (rules.valid_run lines k).nextHit_eq_plainHit hw hs lineNo line pos

/-- Brackets, and tags that are closed by their name and leave the regions inside them open. -/
def bracketsAndTags : List RuleEntry :=
  [.rule { opening := some "(", closing := some ")" } .unset,
   .rule { openingRegex := some "<(a|b)>", nearestClosingRegex := some "</\\1>" } .unset]

/-- Five open regions, among them two with one key in two places, are searched with three ends. -/
theorem nextHit_of_brackets_and_tags :
    let rules := (RuleSet.compile ⟨"markup"⟩ bracketsAndTags []).1
    let lines := [['(', '(', '<', 'a', '>', '<', 'b', '>', '<', 'a', '>']]
    let stack := (rules.run lines 6).state.stack
    stack.size = 5 ∧ (stack.scope rules).ends.length = 3 ∧
      (∀ e ∈ stack.toList, e.isStrict rules = false) ∧
      ∀ (lineNo : Nat) (line : Line) (pos : Nat),
        stack.nextHit rules lineNo line pos = stack.plainHit rules lineNo line pos :=
  ⟨by decide +kernel, by decide +kernel, by decide +kernel,
    RuleSet.nextHit_of_run ⟨"markup"⟩ bracketsAndTags [] _ 6 (by decide +kernel)⟩

end CodeFold
