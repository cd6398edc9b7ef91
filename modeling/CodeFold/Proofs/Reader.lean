import CodeFold.Pattern.Basic
import CodeFold.Proofs.ClassLookahead
import CodeFold.Proofs.GroupLookahead

/-!
# Patterns read step by step

A pattern is a sequence of tokens: an item, a repetition sign, a bar, the opening or the end of a
group. What a token is depends on the mode and on the text from there on, not on what has been read
before. A reader takes one token after the other and keeps the groups that it is in on a stack. It
comes to an end exactly for the texts that can be parsed, and with the same tree.
-/

namespace CodeFold.Pattern.Parser

/-! ### Tokens -/

/-- What a reader takes from a pattern at a time. -/
inductive Token where
  /-- The end of the pattern. -/
  | finish
  /-- The end of a group. -/
  | close
  | branch
  | directive (changes : FlagChanges)
  | opening (kind : GroupKind)
  | item (t : Tree)
  | repetition (least : Nat) (most : Option Nat) (greedy : Bool)

/-- The token that a text starts with, the state behind it and the text that is left. -/
def State.tokenAt (st : State) : List Char → Except PatternError (Token × State × List Char)
  | [] => .ok (.finish, st, [])
  | ')' :: rest => .ok (.close, st, rest)
  | '|' :: rest => .ok (.branch, st, rest)
  | '(' :: rest => do
    match ← parseOpening st rest with
    | (.directive changes, st, rest) => return (.directive changes, st, rest)
    | (.group kind, inside, rest) =>
      return (.opening kind,
        { inside with verbose := GroupKind.verboseInside st.verbose kind }, rest)
  | '[' :: rest => do
    let (negated, members, rest) ← parseClassStart st rest
    let (inner, rest) ← parseClass st (rest.length + 1) none members rest
    return (.item (.bracket negated inner), st, rest)
  | '?' :: rest => .ok (.repetition 0 (some 1) (parseGreed rest).1, st, (parseGreed rest).2)
  | '*' :: rest => .ok (.repetition 0 none (parseGreed rest).1, st, (parseGreed rest).2)
  | '+' :: rest => .ok (.repetition 1 none (parseGreed rest).1, st, (parseGreed rest).2)
  | '\x7b' :: rest => do
    let ((least, most, greedy), rest) ← parseCount st rest
    return (.repetition least most greedy, st, rest)
  | '\\' :: rest => do
    let (atom, rest) ← parseEscape st rest
    return (.item atom.tree, st, rest)
  | '.' :: rest => .ok (.item .dot, st, rest)
  | '^' :: rest => .ok (.item (.anchor .lineStart), st, rest)
  | '$' :: rest => .ok (.item (.anchor .lineEnd), st, rest)
  | c :: rest => .ok (.item (.char c false), st, rest)

/-- The next token of a text. -/
def State.token (st : State) (cs : List Char) : Except PatternError (Token × State × List Char) :=
  st.tokenAt (st.skip cs)

/-- How parsing goes on behind a token. -/
def proceed (fuel : Nat) (st : State) (branches items : List Tree) :
    Token → State → List Char → Except PatternError (Tree × State × List Char)
  | .finish, st', _ => .ok (closeBranches branches items, st', [])
  | .close, st', rest => .ok (closeBranches branches items, st', ')' :: rest)
  | .branch, st', rest => parseItems fuel st' (Tree.ofItems items.reverse :: branches) [] rest
  | .directive changes, st', rest => parseItems fuel st' branches (.directive changes :: items) rest
  | .opening kind, st', rest => do
    match ← parseItems fuel st' [] [] rest with
    | (body, after, ')' :: rest) =>
      parseItems fuel { after with verbose := st.verbose } branches (.group kind body :: items) rest
    | _ => .error .unclosedGroup
  | .item t, st', rest => parseItems fuel st' branches (t :: items) rest
  | .repetition least most greedy, st', rest => do
    let (body, items) ← takeRepeated items
    parseItems fuel st' branches (.loop body least most greedy :: items) rest

/-- Parsing succeeds if there is a token and it succeeds behind it. -/
theorem parseItems_eq_ok_iff {fuel : Nat} {st : State} {branches items : List Tree} {cs : List Char}
    {x : Tree × State × List Char} :
    parseItems (fuel + 1) st branches items cs = .ok x ↔ ∃ y, st.token cs = .ok y ∧
      proceed fuel st branches items y.1 y.2.1 y.2.2 = .ok x := by
  rw [← bind_eq_ok, parseItems, State.token]
  generalize st.skip cs = text
  split
  case h_4 rest =>
    cases h : parseOpening st rest with
    | error e => simp only [State.tokenAt, h]; exact Iff.rfl
    | ok y => obtain ⟨_ | _, st', rest'⟩ := y <;> simp only [State.tokenAt, h] <;> exact Iff.rfl
  case h_5 rest =>
    rw [State.tokenAt]
    cases parseClassStart st rest with
    | error e => exact Iff.rfl
    | ok y =>
      dsimp only [bind, Except.bind]
      cases parseClass st (y.2.2.length + 1) none y.2.1 y.2.2 <;> exact Iff.rfl
  case h_9 rest =>
    -- Whether there is something to repeat is asked before the numbers are read.
    rw [State.tokenAt]
    cases hc : parseCount st rest with
    | error e => cases takeRepeated items <;> simp [bind, Except.bind]
    | ok y =>
      cases hr : takeRepeated items with
      | error e => simp [bind, Except.bind, pure, Except.pure, proceed, hr]
      | ok z => simp [bind, Except.bind, pure, Except.pure, proceed, hr]
  case h_10 rest =>
    rw [State.tokenAt]
    cases parseEscape st rest <;> exact Iff.rfl
  case h_14 c rest _ _ _ _ _ _ _ _ _ _ _ _ =>
    have hchar : st.tokenAt (c :: rest) = .ok (.item (.char c false), st, rest) := by
      unfold State.tokenAt
      split <;> simp_all
    rw [hchar]
    exact Iff.rfl
  all_goals exact Iff.rfl

/-! ### Tokens and the text behind them -/

/-- `w` can stand in place of `rest` behind a token: it does not lengthen a repetition sign, an
opening parenthesis or a word boundary where `rest` does not. -/
structure State.Replaces (st : State) (rest w : List Char) : Prop where
  next : w.head? = some '?' → rest.head? = some '?'
  skipped : (st.skip w).head? = some '?' → (st.skip rest).head? = some '?'
  boundary : st.startsBoundary w = true → st.startsBoundary rest = true

/-- `tok` is the first token of `cs`, with `st'` behind it and `rest` left, and it would be the
first token if other text stood in place of `rest`. The end of a group is one character, whatever
follows. -/
def State.TakesFrom (st : State) (tok : Token) (st' : State) (cs rest : List Char) : Prop :=
  ∃ c u, cs = c :: (u ++ rest) ∧ ∀ w, (tok ≠ .close → st'.Replaces rest w) →
    ∃ w', st.tokenAt (c :: (u ++ w)) = .ok (tok, st', w') ∧ st'.skip w' = st'.skip w ∧
      (tok = .close → w' = w)

namespace State.TakesFrom

variable {st st' : State} {tok : Token} {c : Char} {cs r rest : List Char}

/-- The token is a character. -/
theorem one (h : ∀ w, st.tokenAt (c :: w) = .ok (tok, st', w)) :
    st.TakesFrom tok st' (c :: rest) rest :=
  ⟨c, [], rfl, fun w _ => ⟨w, h w, rfl, fun _ => rfl⟩⟩

/-- The token is a sign that a question mark may follow. -/
theorem sign {least : Nat} {most : Option Nat} {greedy : Bool} (h : parseGreed r = (greedy, rest))
    (hread : ∀ w, st.tokenAt (c :: w) =
      .ok (.repetition least most (parseGreed w).1, st, (parseGreed w).2)) :
    st.TakesFrom (.repetition least most greedy) st (c :: r) rest := by
  obtain ⟨rfl, rfl⟩ | ⟨rfl, rfl, hhead⟩ := parseGreed_cases h
  · exact ⟨c, ['?'], rfl, fun w _ => ⟨w, hread _, rfl, nofun⟩⟩
  · refine ⟨c, [], rfl, fun w hw => ⟨w, ?_, rfl, nofun⟩⟩
    rw [List.nil_append, hread, parseGreed_of_head? fun h => hhead ((hw nofun).next h)]

/-- The token is a number of repetitions between braces. -/
theorem count {least : Nat} {most : Option Nat} {greedy : Bool}
    (h : parseCount st r = .ok ((least, most, greedy), rest)) (hne : rest ≠ []) :
    st.TakesFrom (.repetition least most greedy) st ('\x7b' :: r) rest := by
  obtain ⟨u, r', hu, hne', hgreed, hread⟩ := parseCount_append h
  obtain ⟨t, rfl, hskip⟩ := State.skip_append_of_ne_nil hu hne'
  have hcount (w : List Char) : st.tokenAt ('\x7b' :: (t ++ (u ++ w))) =
      .ok (.repetition least most (parseGreed (st.skip w)).1, st, (parseGreed (st.skip w)).2) := by
    have hself : st.skip (u ++ w) = u ++ w := by rw [← hskip, State.skip_skip]
    exact bind_eq_ok.mpr ⟨_, (parseCount_congr ((hskip w).trans hself.symm)).trans (hread w), rfl⟩
  obtain ⟨s, hr', hskip'⟩ := State.skip_append (rfl : st.skip r' = st.skip r')
  obtain ⟨rfl, hq⟩ | ⟨rfl, hrest, hhead⟩ := parseGreed_cases hgreed
  · rw [hq] at hr' hskip'
    refine ⟨'\x7b', t ++ (u ++ (s ++ ['?'])), by simp [hr'], fun w _ => ⟨w, ?_, rfl, nofun⟩⟩
    simp only [List.append_assoc, List.singleton_append]
    rw [hcount, hskip' (by simp), State.skip_cons hq]
    rfl
  · rw [hrest] at hr' hskip'
    refine ⟨'\x7b', t ++ (u ++ s), by simp [hr'], fun w hw =>
      ⟨st.skip w, ?_, st.skip_skip w, nofun⟩⟩
    have hhead' : (st.skip w).head? ≠ some '?' := fun h => by
      have := (hw nofun).skipped h
      rw [← hrest, State.skip_skip, hrest] at this
      exact hhead this
    simp only [List.append_assoc]
    rw [hcount, hskip' hne, parseGreed_of_head? hhead']

/-- The token is an escape. -/
theorem escape {a : Atom} (h : parseEscape st r = .ok (a, rest)) (hne : rest ≠ []) :
    st.TakesFrom (.item a.tree) st ('\\' :: r) rest := by
  obtain ⟨rfl, rfl, hb⟩ | ⟨u, rfl, -, hread⟩ := parseEscape_cases h
  · refine ⟨'\\', ['b'], rfl, fun w hw => ⟨w, ?_, rfl, nofun⟩⟩
    have hb' : st.startsBoundary w = false := by
      rw [Bool.eq_false_iff]
      intro h
      rw [(hw nofun).boundary h] at hb
      cases hb
    exact bind_eq_ok.mpr ⟨_, parseBoundary_of_startsBoundary_eq_false hb', rfl⟩
  · refine ⟨'\\', u, rfl, fun w _ => ?_⟩
    obtain ⟨w', hw', hsame⟩ := hread hne w
    exact ⟨w', bind_eq_ok.mpr ⟨_, hw', rfl⟩, hsame, nofun⟩

/-- The token is a class. -/
theorem bracket {negated : Bool} {members : List ClassTree} {t : ClassTree}
    (hstart : parseClassStart st cs = .ok (negated, members, r))
    (h : parseClass st (r.length + 1) none members r = .ok (t, rest)) :
    st.TakesFrom (.item (.bracket negated t)) st ('[' :: cs) rest := by
  obtain ⟨v, rfl, -, hread⟩ := parseClassStart_append hstart
  obtain ⟨u, rfl, hu, hread'⟩ := endsClass_of_parseClass h
  refine ⟨'[', v ++ u, by simp, fun w _ => ⟨w, ?_, rfl, nofun⟩⟩
  have hhead : (u ++ w).head? = (u ++ rest).head? := by
    obtain ⟨d, u, rfl⟩ := List.exists_cons_of_ne_nil (List.ne_nil_of_mem hu)
    rfl
  rw [List.append_assoc]
  exact bind_eq_ok.mpr ⟨_, hread _ hhead, bind_eq_ok.mpr ⟨_, hread' w _ (by simp; omega), rfl⟩⟩

/-- The token switches flags. -/
theorem directive {changes : FlagChanges}
    (h : parseOpening st r = .ok (.directive changes, st', rest)) :
    st.TakesFrom (.directive changes) st' ('(' :: r) rest := by
  obtain ⟨ho, -⟩ | ⟨u, rfl, hread⟩ := parseOpening_cases h
  · cases ho
  · exact ⟨'(', u, rfl, fun w _ => ⟨w, bind_eq_ok.mpr ⟨_, hread w, rfl⟩, rfl, nofun⟩⟩

/-- The token opens a group. -/
theorem opening {kind : GroupKind} {inside : State}
    (h : parseOpening st r = .ok (.group kind, inside, rest)) (hne : rest ≠ []) :
    st.TakesFrom (.opening kind) { inside with verbose := GroupKind.verboseInside st.verbose kind }
      ('(' :: r) rest := by
  obtain ⟨ho, rfl, rfl, hhead⟩ | ⟨u, rfl, hread⟩ := parseOpening_cases h
  · cases ho
    -- The mode inside a group with a number is the mode before it.
    obtain ⟨t, ht, hskip⟩ := State.skip_append (rfl : st.skip r = st.skip r)
    refine ⟨'(', t, congrArg _ ht, fun w hw => ⟨st.skip w, ?_, st.skip_skip w, nofun⟩⟩
    have hw' : (st.skip (t ++ w)).head? ≠ some '?' := by
      rw [hskip hne]
      intro h
      have hsign : (st.skip (st.skip r)).head? = some '?' := (hw nofun).skipped h
      rw [State.skip_skip] at hsign
      exact hhead hsign
    refine bind_eq_ok.mpr ⟨_, parseOpening_capture hw', ?_⟩
    rw [hskip hne]
    rfl
  · exact ⟨'(', u, rfl, fun w _ => ⟨w, bind_eq_ok.mpr ⟨_, hread w, rfl⟩, rfl, nofun⟩⟩

end State.TakesFrom

/-- A token is read from its own text alone. -/
theorem State.takesFrom_of_tokenAt {st st' : State} {tok : Token} {cs rest : List Char}
    (h : st.tokenAt cs = .ok (tok, st', rest)) (hne : rest ≠ []) :
    st.TakesFrom tok st' cs rest := by
  unfold State.tokenAt at h
  split at h
  · cases h
    exact absurd rfl hne
  · cases h
    exact .one fun _ => rfl
  · cases h
    exact .one fun _ => rfl
  · obtain ⟨⟨_ | kind, inside, r⟩, hopen, h⟩ := bind_eq_ok.mp h
    · cases h
      exact .directive hopen
    · cases h
      exact .opening hopen hne
  · obtain ⟨⟨negated, members, r⟩, hstart, h⟩ := bind_eq_ok.mp h
    obtain ⟨⟨t, r'⟩, hclass, h⟩ := bind_eq_ok.mp h
    cases h
    exact .bracket hstart hclass
  · cases h
    exact .sign rfl fun _ => rfl
  · cases h
    exact .sign rfl fun _ => rfl
  · cases h
    exact .sign rfl fun _ => rfl
  · obtain ⟨⟨⟨least, most, greedy⟩, r⟩, hcount, h⟩ := bind_eq_ok.mp h
    cases h
    exact .count hcount hne
  · obtain ⟨⟨a, r⟩, hescape, h⟩ := bind_eq_ok.mp h
    cases h
    exact .escape hescape hne
  · cases h
    exact .one fun _ => rfl
  · cases h
    exact .one fun _ => rfl
  · cases h
    exact .one fun _ => rfl
  · next c r _ _ _ _ _ _ _ _ _ _ _ _ =>
    cases h
    exact .one fun w => by unfold State.tokenAt; split <;> simp_all

/-- The next token of a text is read from its own text and the separators before it alone. -/
theorem State.token_append {st st' : State} {tok : Token} {cs rest : List Char}
    (h : st.token cs = .ok (tok, st', rest)) (hne : rest ≠ []) :
    ∃ u, cs = u ++ rest ∧ u ≠ [] ∧ ∀ w, (tok ≠ .close → st'.Replaces rest w) →
      ∃ w', st.token (u ++ w) = .ok (tok, st', w') ∧ st'.skip w' = st'.skip w ∧
        (tok = .close → w' = w) := by
  obtain ⟨c, u, hcs, hread⟩ := State.takesFrom_of_tokenAt h hne
  obtain ⟨t, rfl, hskip⟩ := State.skip_append_cons hcs
  refine ⟨t ++ c :: u, by simp, by simp, fun w hw => ?_⟩
  rw [List.append_assoc, List.cons_append, State.token, hskip]
  exact hread w hw

/-- A token other than the last one takes characters. -/
theorem State.length_token_lt {st st' : State} {tok : Token} {cs rest : List Char}
    (h : st.token cs = .ok (tok, st', rest)) (htok : tok ≠ .finish) : rest.length < cs.length := by
  by_cases hne : rest = []
  · subst hne
    obtain _ | ⟨c, cs⟩ := cs
    · have hnil : st.skip [] = [] := by simpa using st.length_skip_le []
      rw [State.token, hnil] at h
      cases h
      exact absurd rfl htok
    · simp
  · obtain ⟨u, rfl, hu, -⟩ := State.token_append h hne
    have := List.length_pos_iff.mpr hu
    rw [List.length_append]
    omega

/-- Separators in front do not matter for the next token. -/
theorem State.token_congr {st : State} {cs cs' : List Char} (h : st.skip cs = st.skip cs') :
    st.token cs = st.token cs' := by
  rw [State.token, State.token, h]

/-! ### Readers -/

/-- A group that is being read: what is known from its opening, and what has been read in front of
it. -/
structure Level where
  kind : GroupKind
  verbose : Bool
  branches : List Tree
  items : List Tree

/-- A reader inside a pattern. -/
structure Reader where
  state : State
  levels : List Level
  branches : List Tree
  items : List Tree
  rest : List Char

namespace Reader

/-- In front of a pattern. -/
def start (cs : List Char) : Reader := ⟨.start, [], [], [], cs⟩

/-- The pattern of the group that is being read. -/
def body (r : Reader) : Tree := closeBranches r.branches r.items

/-- The reader behind a token, unless the token cannot stand here. -/
def take? (r : Reader) : Token → State → List Char → Option Reader
  | .finish, _, _ => none
  | .close, st, rest =>
    match r.levels with
    | [] => none
    | l :: levels =>
      some ⟨{ st with verbose := l.verbose }, levels, l.branches, .group l.kind r.body :: l.items,
        rest⟩
  | .branch, st, rest =>
    some ⟨st, r.levels, Tree.ofItems r.items.reverse :: r.branches, [], rest⟩
  | .directive changes, st, rest =>
    some ⟨st, r.levels, r.branches, .directive changes :: r.items, rest⟩
  | .opening kind, st, rest =>
    some ⟨st, ⟨kind, r.state.verbose, r.branches, r.items⟩ :: r.levels, [], [], rest⟩
  | .item t, st, rest => some ⟨st, r.levels, r.branches, t :: r.items, rest⟩
  | .repetition least most greedy, st, rest =>
    match takeRepeated r.items with
    | .ok (t, items) => some ⟨st, r.levels, r.branches, .loop t least most greedy :: items, rest⟩
    | .error _ => none

/-- A reader takes the next token. -/
def Step (r r' : Reader) : Prop :=
  ∃ tok st rest, r.state.token r.rest = .ok (tok, st, rest) ∧ r.take? tok st rest = some r'

/-- A reader comes to the end of the pattern outside all groups and has read a tree. -/
inductive Reads : Reader → Tree → Prop
  | finish {r : Reader} {st : State} {rest : List Char}
      (h : r.state.token r.rest = .ok (.finish, st, rest)) (hl : r.levels = []) : Reads r r.body
  | step {r r' : Reader} {t : Tree} (h : r.Step r') (hr : Reads r' t) : Reads r t

/-- A reader has one next step at most. -/
theorem Step.unique {r r₁ r₂ : Reader} (h₁ : r.Step r₁) (h₂ : r.Step r₂) : r₁ = r₂ := by
  obtain ⟨tok, st, rest, htok, htake⟩ := h₁
  obtain ⟨tok', st', rest', htok', htake'⟩ := h₂
  rw [htok] at htok'
  cases htok'
  rw [htake] at htake'
  exact Option.some.inj htake'

/-- What a reader reads does not change when it takes a token. -/
theorem reads_iff_of_step {r r' : Reader} (h : r.Step r') {t : Tree} : Reads r t ↔ Reads r' t := by
  constructor
  · intro hr
    cases hr with
    | finish hf =>
      obtain ⟨tok, st, rest, htok, htake⟩ := h
      rw [hf] at htok
      cases htok
      cases htake
    | step h' hr' => exact h.unique h' ▸ hr'
  · exact .step h

/-- Separators in front do not matter for what is read. -/
theorem Reads.congr {r : Reader} {t : Tree} (h : Reads r t) {w : List Char}
    (hw : r.state.skip w = r.state.skip r.rest) : Reads { r with rest := w } t := by
  cases h with
  | @finish r st rest h hl =>
    exact .finish (r := { r with rest := w }) ((State.token_congr hw).trans h) hl
  | step h hr =>
    obtain ⟨tok, st, rest, htok, htake⟩ := h
    refine .step ⟨tok, st, rest, (State.token_congr hw).trans htok, ?_⟩ hr
    exact htake

/-- What is left when parsing stops: the text ends outside all groups, or the innermost group is
closed and the reader goes on behind it. -/
def Leaves (levels : List Level) (t : Tree) (st : State) (rest : List Char) (tree : Tree) : Prop :=
  (rest = [] → levels = [] ∧ t = tree) ∧
    ∀ rest', rest = ')' :: rest' → ∃ l ls, levels = l :: ls ∧ Reads
      ⟨{ st with verbose := l.verbose }, ls, l.branches, .group l.kind t :: l.items, rest'⟩ tree

/-- Whatever can be parsed can be read. -/
theorem reads_of_parseItems {fuel : Nat} {st st' : State} {branches items : List Tree}
    {cs rest : List Char} {t tree : Tree} {levels : List Level}
    (h : parseItems fuel st branches items cs = .ok (t, st', rest))
    (hl : Leaves levels t st' rest tree) : Reads ⟨st, levels, branches, items, cs⟩ tree := by
  induction fuel generalizing st st' branches items cs rest t levels with
  | zero => cases h
  | succ fuel ih =>
    obtain ⟨⟨tok, st₁, rest₁⟩, htok, h⟩ := parseItems_eq_ok_iff.mp h
    dsimp only at h
    cases tok with
    | finish =>
      cases h
      obtain ⟨rfl, rfl⟩ := hl.1 rfl
      exact .finish htok rfl
    | close =>
      cases h
      obtain ⟨l, ls, rfl, hr⟩ := hl.2 _ rfl
      exact .step ⟨_, _, _, htok, rfl⟩ hr
    | branch => exact .step ⟨_, _, _, htok, rfl⟩ (ih h hl)
    | directive changes => exact .step ⟨_, _, _, htok, rfl⟩ (ih h hl)
    | item t => exact .step ⟨_, _, _, htok, rfl⟩ (ih h hl)
    | repetition least most greedy =>
      obtain ⟨⟨body, items'⟩, hrep, h⟩ := bind_eq_ok.mp h
      exact .step ⟨_, _, _, htok, by rw [take?, hrep]⟩ (ih h hl)
    | opening kind =>
      obtain ⟨⟨body, after, rest₂⟩, hbody, h⟩ := bind_eq_ok.mp h
      split at h
      · next body after rest₂ he =>
        cases he
        refine .step ⟨_, _, _, htok, rfl⟩ (ih hbody ⟨nofun, ?_⟩)
        rintro _ ⟨⟩
        exact ⟨_, _, rfl, ih h hl⟩
      · cases h

private theorem length_parseItems_le {fuel : Nat} {st st' : State} {branches items : List Tree}
    {cs rest : List Char} {t : Tree}
    (h : parseItems fuel st branches items cs = .ok (t, st', rest)) : rest.length ≤ cs.length := by
  induction fuel generalizing st st' branches items cs rest t with
  | zero => cases h
  | succ fuel ih =>
    obtain ⟨⟨tok, st₁, rest₁⟩, htok, h⟩ := parseItems_eq_ok_iff.mp h
    dsimp only at h
    cases tok with
    | finish =>
      cases h
      simp
    | close =>
      cases h
      exact State.length_token_lt htok nofun
    | branch | directive | item =>
      exact Nat.le_trans (ih h) (Nat.le_of_lt (State.length_token_lt htok nofun))
    | repetition least most greedy =>
      obtain ⟨⟨body, items'⟩, hrep, h⟩ := bind_eq_ok.mp h
      exact Nat.le_trans (ih h) (Nat.le_of_lt (State.length_token_lt htok nofun))
    | opening kind =>
      obtain ⟨⟨body, after, rest₂⟩, hbody, h⟩ := bind_eq_ok.mp h
      split at h
      · next he =>
        cases he
        have h₁ := ih h
        have h₂ := ih hbody
        have h₃ := State.length_token_lt htok nofun
        simp only [List.length_cons] at h₂
        omega
      · cases h

/-- Parsing gives `x` for every bound that the length of the text does not reach. -/
def Parses (st : State) (branches items : List Tree) (cs : List Char)
    (x : Tree × State × List Char) : Prop :=
  ∀ fuel, cs.length < fuel → parseItems fuel st branches items cs = .ok x

/-- Behind `x` all groups are closed in turn and parsing comes to the end of the text. -/
def Completes : List Level → Tree × State × List Char → Tree → Prop
  | [], (t, _, rest), tree => rest = [] ∧ t = tree
  | l :: levels, (t, st, rest), tree => ∃ rest' x, rest = ')' :: rest' ∧
      Parses { st with verbose := l.verbose } l.branches (.group l.kind t :: l.items) rest' x ∧
      Completes levels x tree

private theorem Parses.of_token {st st' : State} {tok : Token} {branches items : List Tree}
    {cs rest : List Char} {x : Tree × State × List Char} (h : st.token cs = .ok (tok, st', rest))
    (hx : ∀ fuel, cs.length ≤ fuel → proceed fuel st branches items tok st' rest = .ok x) :
    Parses st branches items cs x := by
  intro fuel hf
  obtain _ | fuel := fuel
  · cases hf
  · exact parseItems_eq_ok_iff.mpr ⟨_, h, hx fuel (Nat.lt_succ_iff.mp hf)⟩

/-- Whatever can be read can be parsed. -/
theorem Reads.completes {r : Reader} {tree : Tree} (h : Reads r tree) :
    ∃ x, Parses r.state r.branches r.items r.rest x ∧ Completes r.levels x tree := by
  induction h with
  | @finish r st rest h hl =>
    refine ⟨(r.body, st, []), .of_token h fun _ _ => rfl, ?_⟩
    rw [hl]
    exact ⟨rfl, rfl⟩
  | @step r r' tree h _ ih =>
    obtain ⟨tok, st, rest, htok, htake⟩ := h
    obtain ⟨x, hx, hc⟩ := ih
    cases tok with
    | finish => cases htake
    | close =>
      unfold take? at htake
      dsimp only at htake
      split at htake
      · cases htake
      · next l levels hl =>
        cases htake
        refine ⟨(r.body, st, ')' :: rest), .of_token htok fun _ _ => rfl, ?_⟩
        rw [hl]
        exact ⟨rest, x, rfl, hx, hc⟩
    | branch | directive | item =>
      cases htake
      have hlen := State.length_token_lt htok nofun
      exact ⟨x, .of_token htok fun fuel hf => hx fuel (by dsimp only; omega), hc⟩
    | repetition least most greedy =>
      have hlen := State.length_token_lt htok nofun
      unfold take? at htake
      dsimp only at htake
      split at htake
      · next t items hrep =>
        cases htake
        refine ⟨x, .of_token htok fun fuel hf => ?_, hc⟩
        exact bind_eq_ok.mpr ⟨_, hrep, hx fuel (by dsimp only; omega)⟩
      · cases htake
    | opening kind =>
      cases htake
      have hlen := State.length_token_lt htok nofun
      obtain ⟨t, st', rest₂⟩ := x
      obtain ⟨rest', y, rfl, hy, hc⟩ := hc
      refine ⟨y, .of_token htok fun fuel hf => ?_, hc⟩
      have hbody := hx fuel (by dsimp only; omega)
      have hle := length_parseItems_le hbody
      refine bind_eq_ok.mpr ⟨_, hbody, hy fuel ?_⟩
      simp only [List.length_cons] at hle
      omega

/-- A pattern is parsed if a reader comes to its end and the tree is not too deep. -/
theorem parse_of_reads {cs : List Char} {tree : Tree} (h : Reads (start cs) tree) :
    parse cs = if tree.depth ≤ Tree.maxDepth then .ok tree else .error .tooDeep := by
  obtain ⟨⟨t, st, rest⟩, hx, rfl, rfl⟩ := h.completes
  have hread := hx (cs.length + 1) (Nat.lt_succ_self _)
  simp only [start] at hread
  rw [parse, hread]
  rfl

/-- What a pattern is parsed to is read from its start. -/
theorem reads_of_parse {cs : List Char} {tree : Tree} (h : parse cs = .ok tree) :
    Reads (start cs) tree := by
  obtain ⟨⟨t, st, rest⟩, hx, h⟩ := bind_eq_ok.mp h
  split at h
  · next he =>
    cases he
    split at h
    · cases h
      exact reads_of_parseItems hx ⟨fun _ => ⟨rfl, rfl⟩, nofun⟩
    · cases h
  · cases h

end Reader

end CodeFold.Pattern.Parser
