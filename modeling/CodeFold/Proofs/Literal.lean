import CodeFold.Pattern.Basic

/-!
# Patterns of one character

A character in its escaped form is read as that character and makes a program of one step. A search
with it finds the first place, at or behind the position where it starts, at which the character
stands.
-/

namespace CodeFold

private theorem CharSet.contains_single (c d : Char) : (single c).contains d = decide (d = c) := by
  have hcode : d = c ↔ d.toNat = c.toNat := Char.toNat_inj.symm
  simp only [contains, hasCode, single, hasCodeIn, Bool.or_false, hcode]
  split
  · simp only [Bool.false_eq, decide_eq_false_iff_not]
    omega
  · simp only [decide_eq_decide]
    omega

namespace Pattern

/-- The program that takes one character. -/
def charProgram (c : Char) : Array Instr := #[.one (.single c), .accept]

/-- The pattern of a character. -/
def ofChar (c : Char) : Pattern := ⟨escape (String.singleton c), charProgram c, [none]⟩

/-! ### Reading -/

/-- One character is escaped as a text of its own. -/
theorem toList_escape_singleton (c : Char) :
    (escape (String.singleton c)).toList = escapeChars [c] := by
  simp [escape, String.toList_ofList]

private theorem escapeChars_of_isMeta {c : Char} (h : Parser.isMeta c = true) :
    escapeChars [c] = ['\\', c] := by
  simp [escapeChars, h]

private theorem escapeChars_of_not_isMeta {c : Char} (h : Parser.isMeta c = false) :
    escapeChars [c] = [c] := by
  simp [escapeChars, h]

namespace Parser

/-- A character with a meaning in patterns is no digit. -/
theorem isDigit_of_isMeta {c : Char} (h : isMeta c = true) : c.isDigit = false := by
  have hall : (['\\', '.', '+', '*', '?', '(', ')', '|', '[', ']', '\x7b', '\x7d', '^', '$', '#',
      '&', '-', '~'].all fun d => !d.isDigit) = true := by decide
  simpa using List.all_eq_true.mp hall c (List.contains_iff_mem.mp h)

/-- A character that means something in a pattern stands for itself after a backslash. -/
theorem parseEscape_of_isMeta {c : Char} (h : isMeta c = true) (st : State) :
    parseEscape st [c] = .ok (.char c false, []) := by
  simp [parseEscape, isDigit_of_isMeta h, isEscapable, h]

/-- All other characters stand for themselves. -/
theorem parseItems_of_not_isMeta {c : Char} (h : isMeta c = false) (fuel : Nat) :
    parseItems (fuel + 1) .start [] [] [c] = parseItems fuel .start [] [.char c false] [] := by
  have hne : c ≠ ')' ∧ c ≠ '|' ∧ c ≠ '(' ∧ c ≠ '[' ∧ c ≠ '?' ∧ c ≠ '*' ∧ c ≠ '+' ∧ c ≠ '\x7b' ∧
      c ≠ '\\' ∧ c ≠ '.' ∧ c ≠ '^' ∧ c ≠ '$' := by
    refine ⟨?_, ?_, ?_, ?_, ?_, ?_, ?_, ?_, ?_, ?_, ?_, ?_⟩ <;> rintro rfl <;> cases h
  rw [parseItems]
  simp only [State.skip, State.start]
  split <;> simp_all

private theorem parse_escapeChars (c : Char) : parse (escapeChars [c]) = .ok (.char c false) := by
  cases h : isMeta c with
  | true =>
    rw [escapeChars_of_isMeta h, parse]
    simp only [List.length_cons, List.length_nil]
    rw [parseItems]
    simp only [State.skip, State.start, Bool.false_eq_true, if_false]
    rw [parseEscape_of_isMeta h]
    rfl
  | false =>
    rw [escapeChars_of_not_isMeta h, parse]
    simp only [List.length_cons, List.length_nil]
    rw [parseItems_of_not_isMeta h]
    rfl

end Parser

/-- The escaped form of a character compiles. -/
theorem compile_escape_singleton (c : Char) :
    compile (escape (String.singleton c)) = .ok (ofChar c) := by
  rw [compile, expr, toList_escape_singleton, Parser.parse_escapeChars]
  rfl

/-! ### Searching -/

/-- As long as nothing is found, a way starts at every place where the character comes next. -/
theorem settle_charProgram (c : Char) (here : Place) {ways : Frontier} (hd : ways.done = none)
    (hm : ways.marks.getD 0 0 ≤ here.pos) :
    settle (charProgram c) here ways none =
      (if here.next = some c then (ways.mark here 0).push ⟨1, here.pos, []⟩ else ways.mark here 0,
        none) := by
  have hopen : ways.isClosed here 0 = false := by
    simp only [Frontier.isClosed, hd, Option.isSome_none, Bool.false_or, decide_eq_false_iff_not]
    omega
  have hfollow : follow (charProgram c) here here.pos (followBound (charProgram c)) 0 [] ways =
      if here.next = some c then (ways.mark here 0).push ⟨1, here.pos, []⟩
      else ways.mark here 0 := by
    rw [followBound, follow, hopen]
    simp only [charProgram, Bool.false_eq_true, if_false, List.getElem?_toArray,
      List.getElem?_cons_zero]
    cases here.next with
    | none => simp
    | some d => simp [CharSet.contains_single]
  simp only [settle, Option.isNone_none, if_true, hfollow]
  by_cases hn : here.next = some c <;> simp [hn, Frontier.push, Frontier.mark, hd]

/-- Behind the character the program ends. -/
theorem advance_charProgram (c : Char) (here : Place) {ways : Frontier} {start : Nat}
    (ht : ways.threads = [⟨1, start, []⟩]) (hm : ways.marks.getD 1 0 ≤ here.pos) :
    (advance (charProgram c) here ways).done = some ⟨start, here.pos, []⟩ ∧
      (advance (charProgram c) here ways).threads = [] := by
  have hopen : Frontier.isClosed { ways with threads := [], done := none } here 1 = false := by
    simp only [Frontier.isClosed, Option.isSome_none, Bool.false_or, decide_eq_false_iff_not]
    omega
  have hfollow : advance (charProgram c) here ways =
      { Frontier.mark { ways with threads := [], done := none } here 1 with
        done := some ⟨start, here.pos, []⟩ } := by
    simp only [advance, ht, List.reverse_singleton, List.foldl_cons, List.foldl_nil]
    rw [followBound, follow, hopen]
    simp [charProgram]
  rw [hfollow]
  exact ⟨rfl, rfl⟩

/-- A way that has ended is what the run finds if there are no others. -/
theorem run_of_done {prog : Array Instr} {ways : Frontier} {m : Match} (hd : ways.done = some m)
    (ht : ways.threads = []) (prev : Option Char) (pos : Nat) (text : List Char) :
    run prog prev pos ways none text = some m := by
  have hsettle (here : Place) : settle prog here ways none = (ways, some m) := by
    have hclosed : ways.isClosed here 0 = true := by simp [Frontier.isClosed, hd]
    simp only [settle, Option.isNone_none, if_true, followBound, follow, hclosed, hd]
  cases text with
  | nil => simp [run, hsettle]
  | cons d text => simp [run, hsettle, ht]

private theorem getD_mark_le {ways : Frontier} (here : Place) (pc : Nat)
    (hm : ∀ pc, ways.marks.getD pc 0 ≤ here.pos) (pc' : Nat) :
    (ways.mark here pc).marks.getD pc' 0 ≤ here.pos + 1 := by
  have hle := hm pc'
  simp only [Frontier.mark, Array.getD_eq_getD_getElem?, Array.getElem?_setIfInBounds] at hle ⊢
  split
  · split <;> simp
  · omega

/-- A run along a text stops at the first place at which the character stands. -/
theorem run_charProgram (c : Char) (text : List Char) {ways : Frontier} {pos : Nat}
    (hd : ways.done = none) (ht : ways.threads = []) (hm : ∀ pc, ways.marks.getD pc 0 ≤ pos)
    (prev : Option Char) :
    run (charProgram c) prev pos ways none text =
      (text.findIdx? (· = c)).map fun i => ⟨pos + i, pos + i + 1, []⟩ := by
  induction text generalizing ways pos prev with
  | nil => simp [run, settle_charProgram c ⟨prev, none, pos⟩ hd (hm 0)]
  | cons d text ih =>
    have hmarks := getD_mark_le ⟨prev, some d, pos⟩ 0 hm
    rw [run, settle_charProgram c ⟨prev, some d, pos⟩ hd (hm 0)]
    by_cases hdc : d = c
    · subst hdc
      have hpush : ((ways.mark ⟨prev, some d, pos⟩ 0).push ⟨1, pos, []⟩).threads =
          [⟨1, pos, []⟩] := by simp [Frontier.push, Frontier.mark, ht]
      obtain ⟨hdone, hthreads⟩ :=
        advance_charProgram d ⟨some d, text.head?, pos + 1⟩ hpush (hmarks 1)
      simp only [if_true, Option.isSome_none, Bool.and_false, Bool.false_eq_true, if_false]
      rw [run_of_done hdone hthreads]
      simp [List.findIdx?_cons]
    · have hadvance : advance (charProgram c) ⟨some d, text.head?, pos + 1⟩
          (ways.mark ⟨prev, some d, pos⟩ 0) =
          { ways.mark ⟨prev, some d, pos⟩ 0 with threads := [], done := none } := by
        simp [advance, Frontier.mark, ht]
      have hnext := ih (congrArg Frontier.done hadvance) (congrArg Frontier.threads hadvance)
        (fun pc => congrArg Frontier.marks hadvance ▸ hmarks pc) (some d)
      simp only [Option.some.injEq, hdc, if_false, Option.isSome_none, Bool.and_false,
        Bool.false_eq_true, hnext, List.findIdx?_cons, decide_false, Option.map_map]
      congr 1
      funext i
      simp only [Function.comp_apply]
      congr 1 <;> omega

/-- The first place at or behind a position at which a character stands. -/
def placeOf? (c : Char) (text : List Char) (pos : Nat) : Option Nat :=
  ((text.drop pos).findIdx? (· = c)).map (pos + ·)

/-- At the end of a text a character is not found. -/
theorem placeOf?_of_nil {c : Char} {text : List Char} {pos : Nat} (h : text.drop pos = []) :
    placeOf? c text pos = none := by
  simp [placeOf?, h]

/-- A character is found where it stands. -/
theorem placeOf?_of_eq {c : Char} {text rest : List Char} {pos : Nat}
    (h : text.drop pos = c :: rest) : placeOf? c text pos = some pos := by
  simp [placeOf?, h, List.findIdx?_cons]

/-- Where another character stands, a character is looked for behind it. -/
theorem placeOf?_of_ne {c d : Char} {text rest : List Char} {pos : Nat}
    (h : text.drop pos = d :: rest) (hne : d ≠ c) :
    placeOf? c text pos = placeOf? c text (pos + 1) := by
  have hrest : text.drop (pos + 1) = rest := by rw [← List.drop_drop, h]; rfl
  simp only [placeOf?, h, hrest, List.findIdx?_cons, hne, decide_false, Bool.false_eq_true,
    if_false, Option.map_map]
  congr 1
  funext i
  simp only [Function.comp_apply]
  omega

/-- A character is found at the start of the search or behind it. -/
theorem le_of_placeOf? {c : Char} {text : List Char} {pos i : Nat}
    (h : placeOf? c text pos = some i) : pos ≤ i := by
  obtain ⟨j, _, rfl⟩ := Option.map_eq_some_iff.mp h
  exact Nat.le_add_right _ _

/-- A search for a character finds the first place at which it stands. -/
theorem matchAt_ofChar (c : Char) (text : List Char) (pos : Nat) :
    (ofChar c).matchAt text pos = (placeOf? c text pos).map fun i => ⟨i, i + 1, []⟩ := by
  have hmarks (pc pos : Nat) : (Frontier.empty (charProgram c)).marks.getD pc 0 ≤ pos := by
    simp only [Frontier.empty, Array.getD_eq_getD_getElem?, Array.getElem?_replicate]
    split <;> simp
  rw [placeOf?, Option.map_map]
  unfold matchAt search
  cases pos with
  | zero => exact run_charProgram c text rfl rfl (fun pc => hmarks pc 0) none
  | succ before =>
    dsimp only
    cases ht : text.drop before with
    | nil =>
      have hnil : text.drop (before + 1) = [] := by
        rw [← List.drop_drop, ht, List.drop_nil]
      simp [hnil]
    | cons prev rest =>
      have hrest : text.drop (before + 1) = rest := by
        rw [← List.drop_drop, ht]
        rfl
      rw [hrest]
      exact run_charProgram c rest rfl rfl (fun pc => hmarks pc _) (some prev)

end Pattern

end CodeFold
