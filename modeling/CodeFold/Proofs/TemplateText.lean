import CodeFold.Proofs.EscapedText
import CodeFold.Rule.Compile
import Mathlib.Data.List.TakeDrop
import Mathlib.Data.List.TakeWhile

/-!
# Templates as text

The segments of a template spell the pattern that it was read from. Text segments hold no
references: a pattern is read from left to right, a backslash together with the character after it,
and every reference that is met this way becomes a segment of its own. An escaped text has no
references, so that it closes regions as a fixed pattern.
Specification: §10.
-/

namespace CodeFold

/-! ### References -/

namespace GroupRef

/-- How a reference is written in a pattern. -/
def spelling : GroupRef → List Char
  | index n => '\\' :: (toString n).toList
  | name s => '\\' :: 'k' :: '<' :: (s.toList ++ ['>'])

/-- The references that can be written: one digit, or a name that ends at the first bracket. -/
def IsSpelled : GroupRef → Prop
  | index n => 1 ≤ n ∧ n ≤ 9
  | name s => s ≠ "" ∧ '>' ∉ s.toList

end GroupRef

namespace Template

/-- The name of a group is all that stands in front of the first bracket, and is not empty. -/
theorem groupName?_eq_some_iff {cs name rest : List Char} :
    groupName? cs = some (name, rest) ↔ name ≠ [] ∧ '>' ∉ name ∧ cs = name ++ '>' :: rest := by
  constructor
  · intro h
    unfold groupName? at h
    rw [List.span_eq_takeWhile_dropWhile] at h
    split at h
    · next name' rest' hspan =>
      obtain ⟨htake, hdrop⟩ := Prod.mk.inj hspan
      split at h
      · cases h
      · next hne =>
        cases h
        refine ⟨by simpa using hne, fun hmem => ?_, ?_⟩
        · rw [← htake] at hmem
          simpa using List.mem_takeWhile_imp hmem
        · rw [← htake, ← hdrop, List.takeWhile_append_dropWhile]
    · cases h
  · rintro ⟨hne, hmem, rfl⟩
    have hall : ∀ c ∈ name, (c != '>') = true := fun c hc =>
      bne_iff_ne.mpr fun heq => hmem (heq ▸ hc)
    rw [groupName?, List.span_eq_takeWhile_dropWhile, List.takeWhile_append_of_pos hall,
      List.dropWhile_append_of_pos hall]
    simp [hne]

/-- The digits that can follow a backslash. -/
theorem spelling_digit {c : Char} (h : ('1' ≤ c && c ≤ '9') = true) :
    1 ≤ c.toNat - 48 ∧ c.toNat - 48 ≤ 9 ∧ (toString (c.toNat - 48)).toList = [c] := by
  have hall : ∀ n < 58, ('1' ≤ Char.ofNat n && Char.ofNat n ≤ '9') = true →
      1 ≤ n - 48 ∧ n - 48 ≤ 9 ∧ (toString (n - 48)).toList = [Char.ofNat n] := by decide +kernel
  have hlt : c.toNat < 58 := by
    have hle : c ≤ '9' := by simp_all
    exact Nat.lt_succ_of_le hle
  have hc := hall c.toNat hlt
  rw [Char.ofNat_toNat] at hc
  exact hc h

private theorem digit_of_isSpelled {n : Nat} (h : (GroupRef.index n).IsSpelled) :
    ∃ c, (toString n).toList = [c] ∧ ('1' ≤ c && c ≤ '9') = true ∧ c.toNat - 48 = n := by
  have hall : ∀ n < 10, 1 ≤ n → (toString n).toList = [Char.ofNat (n + 48)] ∧
      ('1' ≤ Char.ofNat (n + 48) && Char.ofNat (n + 48) ≤ '9') = true ∧
      (Char.ofNat (n + 48)).toNat - 48 = n := by decide +kernel
  exact ⟨_, hall n (Nat.lt_succ_of_le h.2) h.1⟩

/-- A reference is recognised behind its backslash where it is spelled. -/
theorem reference?_eq_some_iff {cs rest : List Char} {ref : GroupRef} :
    reference? cs = some (ref, rest) ↔ ref.IsSpelled ∧ '\\' :: cs = ref.spelling ++ rest := by
  constructor
  · intro h
    unfold reference? at h
    split at h
    · obtain ⟨⟨name, rest'⟩, hname, heq⟩ := Option.map_eq_some_iff.mp h
      cases heq
      obtain ⟨hne, hmem, rfl⟩ := groupName?_eq_some_iff.mp hname
      simp [GroupRef.IsSpelled, GroupRef.spelling, hne, hmem]
    · split at h
      · next hc =>
        cases h
        obtain ⟨hpos, hle, hspell⟩ := spelling_digit hc
        exact ⟨⟨hpos, hle⟩, by rw [GroupRef.spelling, hspell]; rfl⟩
      · cases h
    · cases h
  · rintro ⟨hspelled, hcs⟩
    cases ref with
    | index n =>
      obtain ⟨c, hn, hc, rfl⟩ := digit_of_isSpelled hspelled
      rw [GroupRef.spelling, hn] at hcs
      cases hcs
      have hk : c ≠ 'k' := by
        rintro rfl
        revert hc
        decide
      simp [reference?, hk, hc]
    | name s =>
      obtain ⟨hne, hmem⟩ := hspelled
      rw [GroupRef.spelling] at hcs
      cases hcs
      have hname : groupName? (s.toList ++ '>' :: rest) = some (s.toList, rest) :=
        groupName?_eq_some_iff.mpr ⟨mt String.toList_eq_nil_iff.mp hne, hmem, rfl⟩
      simp [reference?, hname]

private theorem reference?_eq_none_iff {cs : List Char} :
    reference? cs = none ↔
      ∀ (ref : GroupRef) (rest : List Char), ref.IsSpelled → '\\' :: cs ≠ ref.spelling ++ rest := by
  rw [Option.eq_none_iff_forall_ne_some, Prod.forall]
  simp only [ne_eq, reference?_eq_some_iff, not_and]

/-- A reference starts with a backslash and another character. -/
theorem exists_spelling (ref : GroupRef) : ∃ cs, ref.spelling = '\\' :: cs := by
  cases ref with
  | index n => exact ⟨_, rfl⟩
  | name s => exact ⟨_, rfl⟩

/-! ### Reading in escape pairs -/

/-- Reading a pattern from left to right, a backslash together with the character after it, comes to
a reference. -/
inductive Refers : List Char → Prop where
  | here {ref : GroupRef} (h : ref.IsSpelled) (rest : List Char) : Refers (ref.spelling ++ rest)
  | pair (c : Char) {cs : List Char} (h : Refers cs) : Refers ('\\' :: c :: cs)
  | single {c : Char} (hc : c ≠ '\\') {cs : List Char} (h : Refers cs) : Refers (c :: cs)

private theorem not_refers_nil : ¬ Refers [] := by
  generalize hnil : ([] : List Char) = cs
  intro h
  cases h with
  | @here ref h rest =>
    obtain ⟨cs, hspell⟩ := exists_spelling ref
    rw [hspell] at hnil
    cases hnil
  | pair | single => cases hnil

private theorem refers_single_iff {c : Char} (hc : c ≠ '\\') {cs : List Char} :
    Refers (c :: cs) ↔ Refers cs := by
  refine ⟨?_, .single hc⟩
  generalize hcs : c :: cs = text
  intro h
  cases h with
  | @here ref h rest =>
    obtain ⟨cs, hspell⟩ := exists_spelling ref
    rw [hspell] at hcs
    exact absurd (List.cons.inj hcs).1 hc
  | pair => exact absurd (List.cons.inj hcs).1 hc
  | single _ h => exact (List.cons.inj hcs).2 ▸ h

private theorem refers_pair_iff {c : Char} {cs : List Char} :
    Refers ('\\' :: c :: cs) ↔ (reference? (c :: cs)).isSome = true ∨ Refers cs := by
  constructor
  · generalize hcs : '\\' :: c :: cs = text
    intro h
    cases h with
    | @here ref h rest =>
      left
      rw [reference?_eq_some_iff.mpr ⟨h, hcs⟩]
      rfl
    | pair _ h => cases hcs; exact .inr h
    | single hc => exact absurd (List.cons.inj hcs).1.symm hc
  · rintro (h | h)
    · obtain ⟨⟨ref, rest⟩, href⟩ := Option.isSome_iff_exists.mp h
      obtain ⟨hspelled, hcs⟩ := reference?_eq_some_iff.mp href
      rw [hcs]
      exact .here hspelled rest
    · exact .pair c h

private theorem not_refers_backslash : ¬ Refers ['\\'] := by
  generalize hcs : ['\\'] = cs
  intro h
  cases h with
  | @here ref h rest =>
    have hsome := reference?_eq_some_iff.mpr ⟨h, hcs⟩
    cases hsome
  | pair => cases hcs
  | single hc => exact hc (List.cons.inj hcs).1.symm

/-- Reading a text in escape pairs comes to no reference, also if it continues in what follows. -/
inductive Passes (rest : List Char) : List Char → Prop where
  | nil : Passes rest []
  | pair {c : Char} {text : List Char} (hnone : reference? (c :: text ++ rest) = none)
    (h : Passes rest text) : Passes rest ('\\' :: c :: text)
  | single {c : Char} {text : List Char} (hc : c ≠ '\\') (h : Passes rest text) :
    Passes rest (c :: text)

namespace Passes

variable {text more rest : List Char}

private theorem append (h : Passes (more ++ rest) text) (h' : Passes rest more) :
    Passes rest (text ++ more) := by
  induction h with
  | nil => exact h'
  | pair hnone _ ih => exact .pair (by simpa using hnone) ih
  | single hc _ ih => exact .single hc ih

/-- No reference starts in the text. -/
theorem refers_append (more rest : List Char) (h : Passes (more ++ rest) text)
    (href : Refers (text ++ more)) : Refers more := by
  induction h with
  | nil => exact href
  | @pair c text hnone _ ih =>
    rw [List.cons_append, List.cons_append] at href
    obtain hsome | href := refers_pair_iff.mp href
    · obtain ⟨⟨ref, after⟩, hsome⟩ := Option.isSome_iff_exists.mp hsome
      obtain ⟨hspelled, heq⟩ := reference?_eq_some_iff.mp hsome
      refine absurd ?_ (reference?_eq_none_iff.mp hnone ref (after ++ rest) hspelled)
      rw [← List.append_assoc ref.spelling, ← heq]
      simp
    · exact ih href
  | single hc _ ih => exact ih ((refers_single_iff hc).mp href)

private theorem not_refers (h : Passes rest text) : ¬ Refers text := fun href =>
  not_refers_nil (refers_append [] rest h ((List.append_nil text).symm ▸ href))

end Passes

/-! ### Segments -/

/-- Segments with something in place of the references. -/
def written (put : GroupRef → List Char) (segments : List Segment) : List Char :=
  segments.flatMap fun
    | .source text => text
    | .group ref => put ref

/-- Segments of which no two could be one, and that leave no reference out. -/
structure Tidy (segments : List Segment) : Prop where
  nonempty : ∀ text, .source text ∈ segments → text ≠ []
  apart : segments.IsChain fun a b => isGroup a = true ∨ isGroup b = true
  spelled : ∀ ref, .group ref ∈ segments → ref.IsSpelled
  plain : ∀ text, .source text ∈ segments → ¬ Refers text

private theorem written_group (put : GroupRef → List Char) (ref : GroupRef)
    (segments : List Segment) :
    written put (.group ref :: segments) = put ref ++ written put segments := rfl

@[simp]
private theorem written_flush (put : GroupRef → List Char) (acc : List Char)
    (segments : List Segment) :
    written put (flush acc segments) = acc.reverse ++ written put segments := by
  cases acc with
  | nil => rfl
  | cons c acc => rfl

private theorem any_isGroup_flush (acc : List Char) (segments : List Segment) :
    (flush acc segments).any isGroup = segments.any isGroup := by
  cases acc with
  | nil => rfl
  | cons c acc => rfl

private theorem Tidy.nil : Tidy [] := ⟨nofun, .nil, nofun, nofun⟩

private theorem Tidy.group {segments : List Segment} (h : Tidy segments) {ref : GroupRef}
    (href : ref.IsSpelled) : Tidy (.group ref :: segments) where
  nonempty text hmem := h.nonempty text (by simpa using hmem)
  apart := by
    cases segments with
    | nil => exact .singleton _
    | cons s segments => exact .cons_cons (.inl rfl) h.apart
  spelled ref' hmem := by
    obtain heq | hmem := List.mem_cons.mp hmem
    · cases heq
      exact href
    · exact h.spelled ref' hmem
  plain text hmem := h.plain text (by simpa using hmem)

private theorem Tidy.flush {segments : List Segment} (h : Tidy segments)
    (hhead : ∀ s ∈ segments.head?, isGroup s = true) {acc : List Char}
    (hacc : ¬ Refers acc.reverse) : Tidy (flush acc segments) := by
  cases acc with
  | nil => exact h
  | cons c acc =>
    refine ⟨fun text hmem => ?_, ?_, fun ref hmem => ?_, fun text hmem => ?_⟩
    · obtain heq | hmem := List.mem_cons.mp hmem
      · cases heq
        simp
      · exact h.nonempty text hmem
    · cases segments with
      | nil => exact .singleton _
      | cons s segments => exact .cons_cons (.inr (hhead s rfl)) h.apart
    · exact h.spelled ref (by simpa [Template.flush] using hmem)
    · obtain heq | hmem := List.mem_cons.mp hmem
      · cases heq
        exact hacc
      · exact h.plain text hmem

/-- Splitting a pattern loses nothing. -/
theorem written_segmentsFrom (fuel : Nat) (acc cs : List Char) :
    written GroupRef.spelling (segmentsFrom fuel acc cs) = acc.reverse ++ cs := by
  have hnil : written GroupRef.spelling [] = [] := rfl
  fun_induction segmentsFrom fuel acc cs with
  | case1 acc cs => simp [hnil]
  | case2 fuel acc => simp [hnil]
  | case3 fuel acc rest ref rest' href ih =>
    obtain ⟨-, heq⟩ := reference?_eq_some_iff.mp href
    rw [written_flush, written_group, ih, heq]
    rfl
  | case4 fuel acc => simp [hnil]
  | case5 fuel acc c rest _ ih => simp [ih]
  | case6 fuel acc c rest _ ih => simp [ih]

/-- Splitting a pattern finds a reference if there is one. -/
theorem any_isGroup_segmentsFrom {fuel : Nat} {cs : List Char} (hfuel : cs.length < fuel)
    (acc : List Char) : (segmentsFrom fuel acc cs).any isGroup = true ↔ Refers cs := by
  fun_induction segmentsFrom fuel acc cs with
  | case1 acc cs => exact absurd hfuel (Nat.not_lt_zero _)
  | case2 fuel acc => simp [any_isGroup_flush, not_refers_nil]
  | case3 fuel acc rest ref rest' href ih =>
    obtain ⟨hspelled, heq⟩ := reference?_eq_some_iff.mp href
    rw [any_isGroup_flush, heq]
    exact ⟨fun _ => .here hspelled rest', fun _ => rfl⟩
  | case4 fuel acc => simp [any_isGroup_flush, not_refers_backslash]
  | case5 fuel acc c rest hnone ih =>
    rw [ih (by simp at hfuel; omega), refers_pair_iff, hnone]
    simp
  | case6 fuel acc c rest hc ih =>
    rw [ih (by simpa using hfuel), refers_single_iff hc]

private theorem tidy_segmentsFrom {fuel : Nat} {acc cs : List Char} (hfuel : cs.length < fuel)
    (hacc : Passes cs acc.reverse) : Tidy (segmentsFrom fuel acc cs) := by
  fun_induction segmentsFrom fuel acc cs with
  | case1 acc cs => exact absurd hfuel (Nat.not_lt_zero _)
  | case2 fuel acc => exact Tidy.nil.flush nofun hacc.not_refers
  | case3 fuel acc rest ref rest' href ih =>
    obtain ⟨hspelled, heq⟩ := reference?_eq_some_iff.mp href
    have hlen := congrArg List.length heq
    obtain ⟨cs, hspell⟩ := exists_spelling ref
    rw [hspell] at hlen
    simp only [List.length_cons, List.length_append] at hlen hfuel
    have htidy := ih (by omega) .nil
    exact (htidy.group hspelled).flush (by simp [isGroup]) hacc.not_refers
  | case4 fuel acc =>
    refine Tidy.nil.flush nofun fun href => not_refers_backslash ?_
    exact Passes.refers_append ['\\'] [] hacc (by simpa using href)
  | case5 fuel acc c rest hnone ih =>
    refine ih (by simp at hfuel; omega) ?_
    rw [List.reverse_cons, List.reverse_cons, List.append_assoc]
    exact hacc.append (.pair hnone .nil)
  | case6 fuel acc c rest hc ih =>
    refine ih (by simpa using hfuel) ?_
    rw [List.reverse_cons]
    exact hacc.append (.single hc .nil)

/-! ### Escaped text -/

/-- Characters that are escaped start no reference behind a backslash. -/
theorem reference?_of_isMeta {c : Char} (h : Pattern.Parser.isMeta c = true) (cs : List Char) :
    reference? (c :: cs) = none := by
  have hk : c ≠ 'k' := by
    rintro rfl
    cases h
  have hdigit : ('1' ≤ c && c ≤ '9') = false := by
    have hnot := Pattern.Parser.isDigit_of_isMeta h
    simp only [Char.isDigit, Bool.and_eq_false_iff, decide_eq_false_iff_not] at hnot ⊢
    exact hnot.imp (fun h h' => h (Nat.le_trans (by decide) h')) id
  simp [reference?, hk, hdigit]

private theorem not_refers_escapeChars (cs : List Char) : ¬ Refers (Pattern.escapeChars cs) := by
  induction cs with
  | nil => exact not_refers_nil
  | cons c cs ih =>
    rw [Pattern.escapeChars]
    split
    · next hmeta =>
      rw [refers_pair_iff, reference?_of_isMeta hmeta]
      simpa using ih
    · next hmeta =>
      rwa [refers_single_iff]
      rintro rfl
      exact hmeta rfl

/-! ### Reading templates -/

private theorem parse?_eq_none_iff {p : String} : parse? p = none ↔ ¬ Refers p.toList := by
  rw [← any_isGroup_segmentsFrom (Nat.lt_succ_self p.toList.length) []]
  simp [parse?]

/-- An escaped text refers to no group. -/
theorem parse?_escape (s : String) : parse? (Pattern.escape s) = none := by
  rw [parse?_eq_none_iff, Pattern.escape, String.toList_ofList]
  exact not_refers_escapeChars s.toList

/-- A template keeps its source, and its segments spell it. -/
theorem written_of_parse? {p : String} {t : Template} (h : parse? p = some t) :
    t.source = p ∧ written GroupRef.spelling t.segments = p.toList := by
  rw [parse?] at h
  split at h
  · cases h
    exact ⟨rfl, written_segmentsFrom _ _ _⟩
  · cases h

private theorem tidy_of_parse? {p : String} {t : Template} (h : parse? p = some t) :
    Tidy t.segments := by
  rw [parse?] at h
  split at h
  · cases h
    exact tidy_segmentsFrom (Nat.lt_succ_self _) .nil
  · cases h

private theorem escape_eq_empty_iff {s : String} : Pattern.escape s = "" ↔ s = "" := by
  rw [← String.toList_eq_nil_iff, Pattern.escape, String.toList_ofList, ← String.toList_eq_nil_iff]
  cases s.toList with
  | nil => simp [Pattern.escapeChars]
  | cons c cs =>
    rw [Pattern.escapeChars]
    split <;> simp

/-- A text closes regions as the pattern that matches it, if that compiles. -/
private theorem compileClosing_escape (opening : Pattern) (s : String) :
    compileClosing opening (Pattern.escape s) = (compilePattern (Pattern.escape s)).map .fixed := by
  rw [compileClosing, parse?_escape]

/-- Only the empty text is refused as an empty pattern. -/
private theorem compilePattern_escape_eq_empty_iff (s : String) :
    compilePattern (Pattern.escape s) = .error (.malformed .emptyPattern) ↔ s = "" := by
  rw [← escape_eq_empty_iff, compilePattern]
  split
  · next hempty => simpa using hempty
  · next hempty =>
    cases Pattern.compile (Pattern.escape s) with
    | error fault => simpa [Except.mapError] using hempty
    | ok q => simpa [Except.mapError] using hempty

/-- A pattern is kept as a template with all its references if it has some, and an escaped text has
none. So what closes a region by its text is never a template: it is the fixed pattern of the text
whenever that compiles, and it is refused as empty exactly if it is empty. -/
theorem segments_of_pattern (p s : String) (opening : Pattern) :
    (∀ t, parse? p = some t →
      t.source = p ∧ written GroupRef.spelling t.segments = p.toList ∧ Tidy t.segments) ∧
    (parse? p = none ↔ ¬ Refers p.toList) ∧
    parse? (Pattern.escape s) = none ∧
    (∀ t, compileClosing opening (Pattern.escape s) ≠ .ok (.template t)) ∧
    (∀ q, compileClosing opening (Pattern.escape s) = .ok (.fixed q) ↔
      compilePattern (Pattern.escape s) = .ok q) ∧
    (compileClosing opening (Pattern.escape s) = .error (.malformed .emptyPattern) ↔ s = "") := by
  refine ⟨fun t ht => ?_, parse?_eq_none_iff, parse?_escape s, ?_⟩
  · obtain ⟨hsource, hwritten⟩ := written_of_parse? ht
    exact ⟨hsource, hwritten, tidy_of_parse? ht⟩
  · rw [compileClosing_escape, ← compilePattern_escape_eq_empty_iff]
    cases compilePattern (Pattern.escape s) with
    | error e => simp [Except.map]
    | ok q => simp [Except.map]

/-- Behind two backslashes a digit is text, and behind three it is a reference. -/
theorem segments_of_backslashes :
    ∃ t opening q, parse? "\\\\1\\\\\\2\\k<a>\\k<\\" = some t ∧
      Pattern.compile "x" = .ok opening ∧
      written GroupRef.spelling t.segments = "\\\\1\\\\\\2\\k<a>\\k<\\".toList ∧
      Tidy t.segments ∧ t.groups = [.index 2, .name "a"] ∧
      Refers "\\\\1\\\\\\2\\k<a>\\k<\\".toList ∧
      compilePattern (Pattern.escape "\\1\\k<a>") = .ok q ∧
      compileClosing opening (Pattern.escape "\\1\\k<a>") = .ok (.fixed q) := by
  obtain ⟨opening, hopening⟩ : ∃ opening, Pattern.compile "x" = .ok opening := ⟨_, rfl⟩
  have ht : parse? "\\\\1\\\\\\2\\k<a>\\k<\\" = some ⟨"\\\\1\\\\\\2\\k<a>\\k<\\",
      [.source ['\\', '\\', '1', '\\', '\\'], .group (.index 2), .group (.name "a"),
        .source ['\\', 'k', '<', '\\']]⟩ := by decide +kernel
  obtain ⟨q, hq⟩ : ∃ q, compilePattern (Pattern.escape "\\1\\k<a>") = .ok q := ⟨_, rfl⟩
  obtain ⟨hread, hnone, -, -, hfixed, -⟩ :=
    segments_of_pattern "\\\\1\\\\\\2\\k<a>\\k<\\" "\\1\\k<a>" opening
  obtain ⟨-, hwritten, htidy⟩ := hread _ ht
  refine ⟨_, opening, q, ht, hopening, hwritten, htidy, rfl, ?_, hq, (hfixed q).mpr hq⟩
  exact Classical.not_not.mp (mt hnone.mpr (by simp [ht]))

/-- An empty text makes no pattern. -/
theorem compileClosing_of_emptyText :
    ∃ opening, Pattern.compile "x" = .ok opening ∧ parse? (Pattern.escape "") = none ∧
      compileClosing opening (Pattern.escape "") = .error (.malformed .emptyPattern) :=
  ⟨_, rfl, rfl, rfl⟩

end Template

end CodeFold
