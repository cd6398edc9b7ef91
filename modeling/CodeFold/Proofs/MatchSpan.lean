import CodeFold.Pattern.Basic

/-!
# The span of a match

A search from a position finds matches at or behind that position and inside the text. All ways
through a program that start at one place or later keep where they started, so the span of what they
find lies between that place and the place where they end.
-/

namespace CodeFold

/-- A span that starts at `lo` or later and stops at `hi` or earlier. -/
structure Inside (lo hi start stop : Nat) : Prop where
  lo_le : lo ≤ start
  start_le : start ≤ stop
  le_hi : stop ≤ hi

/-- A span stays inside wider bounds. -/
theorem Inside.mono {lo lo' hi hi' start stop : Nat} (h : Inside lo hi start stop) (hl : lo' ≤ lo)
    (hh : hi ≤ hi') : Inside lo' hi' start stop :=
  ⟨Nat.le_trans hl h.lo_le, h.start_le, Nat.le_trans h.le_hi hh⟩

namespace Pattern

/-- The ways at a place all started between `lo` and that place. -/
structure Frontier.Within (f : Frontier) (lo pos : Nat) : Prop where
  threads : ∀ t ∈ f.threads, lo ≤ t.start ∧ t.start ≤ pos
  done : ∀ m, f.done = some m → Inside lo pos m.start m.stop

/-- No ways are within any bounds. -/
theorem Frontier.within_empty (prog : Array Instr) (lo pos : Nat) :
    (Frontier.empty prog).Within lo pos := by
  constructor
  · intro t ht
    simp [Frontier.empty] at ht
  · intro m hm
    simp [Frontier.empty] at hm

/-- What is followed from a start inside the bounds stays inside them. -/
theorem within_follow (prog : Array Instr) (here : Place) {lo start : Nat} (hlo : lo ≤ start)
    (hs : start ≤ here.pos) (fuel pc : Nat) (slots : Slots) (f : Frontier)
    (hf : f.Within lo here.pos) :
    (follow prog here start fuel pc slots f).Within lo here.pos := by
  induction fuel generalizing pc slots f with
  | zero => exact hf
  | succ fuel ih =>
    rw [follow]
    split
    · exact hf
    · -- Marking an instruction changes neither the ways nor the match.
      have hm : (f.mark here pc).Within lo here.pos := ⟨hf.threads, hf.done⟩
      cases prog[pc]? with
      | none => exact hm
      | some instr =>
        cases instr with
        | jump target => exact ih target slots _ hm
        | fork first second => exact ih second slots _ (ih first slots _ hm)
        | save slot => exact ih (pc + 1) _ _ hm
        | look cond =>
          dsimp only
          split
          · exact ih (pc + 1) slots _ hm
          · exact hm
        | one set =>
          dsimp only
          split
          · refine ⟨?_, hm.done⟩
            intro t ht
            rcases List.mem_cons.mp ht with rfl | ht
            · exact ⟨hlo, hs⟩
            · exact hm.threads t ht
          · exact hm
        | accept =>
          refine ⟨hm.threads, ?_⟩
          intro m h
          cases h
          exact ⟨hlo, hs, Nat.le_refl _⟩

/-- The ways at the next place are within the same lower bound. -/
theorem within_advance (prog : Array Instr) (here : Place) {lo pos : Nat} (f : Frontier)
    (hp : pos ≤ here.pos) (hf : f.Within lo pos) : (advance prog here f).Within lo here.pos := by
  have go (ts : List Thread) (g : Frontier) (hg : g.Within lo here.pos)
      (hts : ∀ t ∈ ts, lo ≤ t.start ∧ t.start ≤ pos) :
      (ts.foldl (fun f t => follow prog here t.start (followBound prog) t.pc t.slots f) g).Within
        lo here.pos := by
    induction ts generalizing g with
    | nil => exact hg
    | cons t ts ih =>
      have ht := hts t (by simp)
      apply ih
      · exact within_follow prog here ht.1 (Nat.le_trans ht.2 hp) _ _ _ _ hg
      · intro t ht
        exact hts t (by simp [ht])
  apply go
  · exact ⟨by simp, by simp⟩
  · intro t ht
    exact hf.threads t (List.mem_reverse.mp ht)

/-- Settling a place keeps the ways within their bounds and gives a match within them. -/
theorem within_settle (prog : Array Instr) (here : Place) {lo : Nat} (f : Frontier)
    (found : Option Match) (hlo : lo ≤ here.pos) (hf : f.Within lo here.pos)
    (hm : ∀ m, found = some m → Inside lo here.pos m.start m.stop) :
    (settle prog here f found).1.Within lo here.pos ∧
      ∀ m, (settle prog here f found).2 = some m → Inside lo here.pos m.start m.stop := by
  have hw : (if found.isNone then follow prog here here.pos (followBound prog) 0 [] f
      else f).Within lo here.pos := by
    split
    · exact within_follow prog here hlo (Nat.le_refl _) _ _ _ _ hf
    · exact hf
  unfold settle
  dsimp only
  generalize (if found.isNone then follow prog here here.pos (followBound prog) 0 [] f else f) = g
    at hw
  cases hd : g.done with
  | none => exact ⟨hw, hm⟩
  | some m =>
    refine ⟨hw, ?_⟩
    intro m' h
    cases h
    exact hw.done m hd

/-- A run along the rest of a text finds matches that stop inside the text. -/
theorem inside_run (prog : Array Instr) {lo : Nat} (text : List Char) (prev : Option Char)
    (pos : Nat) (f : Frontier) (found : Option Match) (hlo : lo ≤ pos) (hf : f.Within lo pos)
    (hm : ∀ m, found = some m → Inside lo pos m.start m.stop) {m : Match}
    (h : run prog prev pos f found text = some m) :
    Inside lo (pos + text.length) m.start m.stop := by
  induction text generalizing prev pos f found with
  | nil => exact (within_settle prog ⟨prev, none, pos⟩ f found hlo hf hm).2 m h
  | cons c rest ih =>
    have hs := within_settle prog ⟨prev, some c, pos⟩ f found hlo hf hm
    rw [run] at h
    dsimp only at h
    generalize settle prog ⟨prev, some c, pos⟩ f found = s at h hs
    obtain ⟨ways, found'⟩ := s
    dsimp only at h hs
    split at h
    · exact (hs.2 m h).mono (Nat.le_refl _) (Nat.le_add_right _ _)
    · have ha := within_advance prog ⟨some c, rest.head?, pos + 1⟩ ways (Nat.le_succ pos) hs.1
      have hr := ih (some c) (pos + 1) _ found' (by omega) ha
        (fun m hm => (hs.2 m hm).mono (Nat.le_refl _) (Nat.le_succ pos)) h
      exact hr.mono (Nat.le_refl _) (by simp only [List.length_cons]; omega)

/-- A search finds matches between its position and the end of the text. -/
theorem inside_search (prog : Array Instr) (text : List Char) (pos : Nat) {m : Match}
    (h : search prog text pos = some m) : Inside pos text.length m.start m.stop := by
  cases pos with
  | zero =>
    have hr := inside_run prog text none 0 (.empty prog) none (Nat.le_refl 0)
      (Frontier.within_empty prog 0 0) (by simp) h
    simpa using hr
  | succ before =>
    simp only [search] at h
    cases ht : text.drop before with
    | nil => simp [ht] at h
    | cons prev rest =>
      rw [ht] at h
      have hl : (prev :: rest).length = text.length - before := by rw [← ht, List.length_drop]
      have hr := inside_run prog rest (some prev) (before + 1) (.empty prog) none (Nat.le_refl _)
        (Frontier.within_empty prog _ _) (by simp) h
      exact hr.mono (Nat.le_refl _) (by simp only [List.length_cons] at hl; omega)

/-- A pattern matches between the position of the search and the end of the text. -/
theorem inside_matchAt {p : Pattern} {text : List Char} {pos : Nat} {m : Match}
    (h : p.matchAt text pos = some m) : Inside pos text.length m.start m.stop :=
  inside_search p.program text pos h

end Pattern

end CodeFold
