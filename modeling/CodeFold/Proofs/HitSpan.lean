import CodeFold.Proofs.MatchSpan
import CodeFold.Scan.Hit

/-!
# The span of a hit

Every search in a line, for an opening or for an end, finds its match between the position of the
search and the end of the line, and the search goes on behind the start of a match. So hits move
along their line. The hit that is taken comes first in its list among those that start first.
-/

namespace CodeFold

/-- The search goes on behind the start of a match, not before its end, and inside the line. -/
theorem nextPos?_spec {line : Line} {lo start stop next : Nat}
    (h : Inside lo line.length start stop) (hn : nextPos? line start stop = some next) :
    start < next ∧ stop ≤ next ∧ next ≤ line.length := by
  have hs := h.start_le
  have hh := h.le_hi
  unfold nextPos? at hn
  split at hn
  · cases hn
    omega
  · split at hn
    · cases hn
      omega
    · cases hn

/-- A match that is found later lies inside the bounds of the earlier search. -/
theorem Inside.of_next {line : Line} {pos start stop next start' stop' : Nat}
    (h : Inside pos line.length start stop) (hn : nextPos? line start stop = some next)
    (h' : Inside next line.length start' stop') : Inside pos line.length start' stop' := by
  have hs := nextPos?_spec h hn
  have hl := h.lo_le
  exact h'.mono (by omega) (Nat.le_refl _)

private theorem inside_findGroupFrom (p : Pattern) (line : Line) (group fuel pos : Nat)
    {span : Nat × Nat} (h : findGroupFrom p line group fuel pos = some span) :
    Inside pos line.length span.1 span.2 := by
  induction fuel generalizing pos with
  | zero => cases h
  | succ fuel ih =>
    rw [findGroupFrom] at h
    cases hm : p.matchAt line pos with
    | none => simp [hm] at h
    | some m =>
      have hi := Pattern.inside_matchAt hm
      simp only [hm] at h
      split at h
      · cases h
        exact hi
      · obtain ⟨next, hn, hf⟩ := Option.bind_eq_some_iff.mp h
        exact hi.of_next hn (ih next hf)

private theorem inside_findGroup {p : Pattern} {line : Line} {name : String} {pos : Nat}
    {span : Nat × Nat} (h : findGroup p line name pos = some span) :
    Inside pos line.length span.1 span.2 := by
  obtain ⟨group, _, hf⟩ := Option.bind_eq_some_iff.mp h
  exact inside_findGroupFrom p line group _ pos hf

/-- An opening lies between the position of the search and the end of the line. -/
theorem Rule.inside_findOpening {rule : Rule} {line : Line} {pos : Nat} {m : OpeningMatch}
    (h : rule.findOpening line pos = some m) : Inside pos line.length m.start m.stop := by
  unfold findOpening at h
  split at h
  · obtain ⟨m', hm, rfl⟩ := Option.map_eq_some_iff.mp h
    exact Pattern.inside_matchAt hm
  · obtain ⟨m', hm, rfl⟩ := Option.map_eq_some_iff.mp h
    exact Pattern.inside_matchAt hm
  · obtain ⟨span, hs, rfl⟩ := Option.map_eq_some_iff.mp h
    exact inside_findGroup hs
  · cases h
  · cases h

/-- A match that closes a region lies inside the line, not before the place where the search
starts. -/
theorem Rule.inside_closingMatch {rule : Rule} {entry : OpenEntry} {line : Line} {pos : Nat}
    {span : Nat × Nat} (h : rule.closingMatch entry line pos = some span) :
    Inside pos line.length span.1 span.2 := by
  unfold closingMatch at h
  split at h
  · obtain ⟨m, hm, rfl⟩ := Option.map_eq_some_iff.mp h
    exact Pattern.inside_matchAt hm
  · obtain ⟨p, _, hp⟩ := Option.bind_eq_some_iff.mp h
    obtain ⟨m, hm, rfl⟩ := Option.map_eq_some_iff.mp hp
    exact Pattern.inside_matchAt hm
  · exact inside_findGroup h
  · cases h
  · cases h

/-- A closing that is found lies inside the line, not before the place where the search starts. -/
theorem Rule.inside_findClosingFrom (rule : Rule) (entry : OpenEntry) (lineNo : Nat) (line : Line)
    (fuel pos : Nat) {span : Nat × Nat}
    (h : rule.findClosingFrom entry lineNo line fuel pos = some span) :
    Inside pos line.length span.1 span.2 := by
  induction fuel generalizing pos with
  | zero => cases h
  | succ fuel ih =>
    rw [findClosingFrom] at h
    cases hm : rule.closingMatch entry line pos with
    | none => simp [hm] at h
    | some found =>
      have hi := rule.inside_closingMatch hm
      obtain ⟨start, stop⟩ := found
      simp only [hm] at h
      split at h
      · obtain ⟨next, hn, hf⟩ := Option.bind_eq_some_iff.mp h
        exact hi.of_next hn (ih next hf)
      · cases h
        exact hi

namespace Stack

/-- A hit on an end is a match of the closing of its entry. -/
theorem closingHit_eq_some {rules : RuleSet} {stack : Stack} {lineNo pos index : Nat} {line : Line}
    {hit : Hit} (h : stack.closingHit rules lineNo line pos index = some hit) :
    ∃ entry rule, stack[index]? = some entry ∧ rules.rule? entry.rule = some rule ∧
      rule.findClosing entry lineNo line pos = some (hit.start, hit.stop) ∧
      hit.action = .close index := by
  unfold closingHit at h
  obtain ⟨entry, he, h⟩ := Option.bind_eq_some_iff.mp h
  obtain ⟨rule, hr, h⟩ := Option.bind_eq_some_iff.mp h
  obtain ⟨⟨start, stop⟩, hs, h⟩ := Option.bind_eq_some_iff.mp h
  cases h
  exact ⟨entry, rule, he, hr, hs, rfl⟩

/-- A hit on a beginning is a match of the opening of its rule. -/
theorem openingHit_eq_some {rules : RuleSet} {line : Line} {pos : Nat} {id : RuleId} {hit : Hit}
    (h : openingHit rules line pos id = some hit) :
    ∃ rule m, rules.rule? id = some rule ∧ rule.findOpening line pos = some m ∧
      hit = ⟨m.start, m.stop, .open_ id m.captures⟩ := by
  unfold openingHit at h
  obtain ⟨rule, hr, h⟩ := Option.bind_eq_some_iff.mp h
  obtain ⟨m, hm, h⟩ := Option.bind_eq_some_iff.mp h
  cases h
  exact ⟨rule, m, hr, hm, rfl⟩

end Stack

namespace Hit

/-- The hit so far or a new one, if that starts earlier. -/
def earlier (best : Option Hit) (hit : Hit) : Option Hit :=
  match best with
  | none => some hit
  | some b => if hit.start < b.start then some hit else best

private theorem earliest_cons (hit : Hit) (hits : List Hit) :
    earliest (hit :: hits) = hits.foldl earlier (some hit) := rfl

/-- The hit that wins over a first one starts before all hits in front of it. -/
theorem foldl_earlier (best : Hit) (hits : List Hit) :
    ∃ h, hits.foldl earlier (some best) = some h ∧
      ∃ l₁ l₂, best :: hits = l₁ ++ h :: l₂ ∧ (∀ x ∈ l₁, h.start < x.start) ∧
        ∀ x ∈ l₂, h.start ≤ x.start := by
  induction hits generalizing best with
  | nil => exact ⟨best, rfl, [], [], rfl, by simp, by simp⟩
  | cons hit hits ih =>
    rw [List.foldl_cons, earlier]
    split
    · next hlt =>
      obtain ⟨h, hf, l₁, l₂, heq, h₁, h₂⟩ := ih hit
      refine ⟨h, hf, best :: l₁, l₂, by rw [heq]; rfl, ?_, h₂⟩
      intro x hx
      rcases List.mem_cons.mp hx with rfl | hx
      · -- The winner is `hit` or better, and `hit` starts before `best`.
        cases l₁ with
        | nil =>
          cases heq
          exact hlt
        | cons y l₁ =>
          have hy := h₁ y (by simp)
          cases heq
          omega
      · exact h₁ x hx
    · next hge =>
      obtain ⟨h, hf, l₁, l₂, heq, h₁, h₂⟩ := ih best
      cases l₁ with
      | nil =>
        cases heq
        refine ⟨best, hf, [], hit :: hits, rfl, by simp, ?_⟩
        intro x hx
        rcases List.mem_cons.mp hx with rfl | hx
        · omega
        · exact h₂ x hx
      | cons y l₁ =>
        have hy := h₁ y (by simp)
        cases heq
        refine ⟨h, hf, best :: hit :: l₁, l₂, rfl, ?_, h₂⟩
        intro x hx
        simp only [List.mem_cons] at hx
        rcases hx with rfl | rfl | hx
        · exact hy
        · omega
        · exact h₁ x (by simp [hx])

/-- Without hits there is no earliest one. -/
theorem earliest_eq_none_iff {hits : List Hit} : earliest hits = none ↔ hits = [] := by
  cases hits with
  | nil => simp [earliest]
  | cons hit hits =>
    obtain ⟨h, hf, _⟩ := foldl_earlier hit hits
    rw [earliest_cons, hf]
    simp

/-- All hits listed before the earliest one start behind it, and none listed after it starts before
it. -/
theorem earliest_eq_some {hits : List Hit} {h : Hit} (he : earliest hits = some h) :
    ∃ l₁ l₂, hits = l₁ ++ h :: l₂ ∧ (∀ x ∈ l₁, h.start < x.start) ∧
      ∀ x ∈ l₂, h.start ≤ x.start := by
  cases hits with
  | nil => simp [earliest] at he
  | cons hit hits =>
    obtain ⟨h', hf, hs⟩ := foldl_earlier hit hits
    rw [earliest_cons, hf] at he
    cases he
    exact hs

private theorem mem_of_earliest {hits : List Hit} {h : Hit} (he : earliest hits = some h) :
    h ∈ hits := by
  obtain ⟨l₁, l₂, rfl, _⟩ := earliest_eq_some he
  simp

end Hit

namespace Stack

/-- The next hit is the end of an entry that is looked for, or the opening of an active rule. -/
theorem nextHit_cases {rules : RuleSet} {stack : Stack} {lineNo pos : Nat} {line : Line} {hit : Hit}
    (h : stack.nextHit rules lineNo line pos = some hit) :
    (∃ key index, (key, index) ∈ (stack.scope rules).ends ∧
      stack.closingHit rules lineNo line pos index = some hit) ∨
    ∃ id ∈ (stack.scope rules).active, openingHit rules line pos id = some hit := by
  rcases List.mem_append.mp (Hit.mem_of_earliest h) with h | h
  · obtain ⟨⟨key, index⟩, hm, hc⟩ := List.mem_filterMap.mp h
    exact .inl ⟨key, index, hm, hc⟩
  · obtain ⟨id, hm, ho⟩ := List.mem_filterMap.mp h
    exact .inr ⟨id, hm, ho⟩

/-- The next hit lies between the position of the search and the end of the line. -/
theorem inside_nextHit {rules : RuleSet} {stack : Stack} {lineNo pos : Nat} {line : Line}
    {hit : Hit} (h : stack.nextHit rules lineNo line pos = some hit) :
    Inside pos line.length hit.start hit.stop := by
  rcases nextHit_cases h with ⟨key, index, _, hc⟩ | ⟨id, _, ho⟩
  · obtain ⟨entry, rule, _, _, hf, _⟩ := closingHit_eq_some hc
    exact rule.inside_findClosingFrom entry lineNo line _ pos hf
  · obtain ⟨rule, m, _, hm, rfl⟩ := openingHit_eq_some ho
    exact rule.inside_findOpening hm

end Stack

end CodeFold
