import CodeFold.Proofs.Substitution
import CodeFold.Proofs.TemplateText

/-!
# References as items of a pattern

A closing template puts the escaped captures in place of its references. Where the references stand
like items of a pattern, the result finds the same matches as the pattern with every capture in a
group of its own. A repetition sign behind a reference is the exception: it binds to the last
character of the capture only, and to what stands before the reference if the capture is empty.
Specification: §10.
-/

namespace CodeFold

open Pattern.Parser

namespace Template

/-- The text that a reference stands for, before it is escaped. -/
def capturedText (opening : Pattern) (captures : List (Option String)) (ref : GroupRef) :
    List Char :=
  ((ref.resolve? opening).bind (captures[·]?)).join.elim [] String.toList

private theorem captured_eq (opening : Pattern) (captures : List (Option String)) (ref : GroupRef) :
    captured opening captures ref = Pattern.escapeChars (capturedText opening captures ref) := by
  unfold captured capturedText
  generalize (ref.resolve? opening).bind (captures[·]?) = found
  obtain _ | _ | text := found
  · rfl
  · rfl
  · rfl

/-- Segments with an empty group in place of every reference. -/
def outline (segments : List Segment) : List Char := written (fun _ => emptyGroup []) segments

/-- The source of the closing pattern with every capture in a group of its own. -/
def groupedSource (t : Template) (opening : Pattern) (captures : List (Option String)) : String :=
  String.ofList (written (fun ref => inGroup (capturedText opening captures ref)) t.segments)

/-- A reader of the outline stands in front of the reference behind `pre` and before `post`, and
takes its group as the next item. -/
structure ComesTo (t : Template) (pre : List Segment) (ref : GroupRef) (post : List Segment)
    (r : Reader) : Prop where
  segments : t.segments = pre ++ .group ref :: post
  reaches : Reader.Reaches (.start (outline t.segments)) r
  rest : r.state.skip r.rest = outline (.group ref :: post)

/-- Every reference stands where an item of a pattern can stand. -/
def RefersByItems (t : Template) : Prop :=
  ∀ pre ref post, t.segments = pre ++ .group ref :: post → ∃ r, t.ComesTo pre ref post r

/-- Every reference that a repetition sign follows has captured one character. White space does not
count where the mode drops it. -/
def RepeatsCharacters (t : Template) (opening : Pattern) (captures : List (Option String)) : Prop :=
  ∀ pre ref post r, t.ComesTo pre ref post r →
    (r.state.skip (outline post)).head?.any isRepetition = true →
    (r.state.visible (capturedText opening captures ref)).length = 1

/-! ### References as holes -/

/-- The text before the first reference, and the references with the texts behind them. -/
def holes (text : GroupRef → List Char) : List Segment → List Char × List Hole
  | [] => ([], [])
  | .source cs :: segments => (cs ++ (holes text segments).1, (holes text segments).2)
  | .group ref :: segments => ([], ⟨text ref, (holes text segments).1⟩ :: (holes text segments).2)

private theorem fill_holes (text : GroupRef → List Char) (put : List Char → List Char)
    (segments : List Segment) :
    fill put (holes text segments).1 (holes text segments).2 =
      written (fun ref => put (text ref)) segments := by
  induction segments with
  | nil => rfl
  | cons s segments ih =>
    cases s with
    | source cs => rw [holes, fill_append, ih]; rfl
    | group ref => rw [holes, fill_cons, ih]; rfl

/-- Every hole is a reference with the segments behind it. -/
theorem exists_reference {text : GroupRef → List Char} {segments : List Segment}
    {pre : List Hole} {h : Hole} {post : List Hole}
    (hs : (holes text segments).2 = pre ++ h :: post) :
    ∃ pre' ref post', segments = pre' ++ .group ref :: post' ∧ h.text = text ref ∧
      holes text post' = (h.after, post) := by
  induction segments generalizing pre with
  | nil => simp [holes] at hs
  | cons s segments ih =>
    cases s with
    | source cs =>
      obtain ⟨pre', ref, post', hsegs, htext, hpost⟩ := ih hs
      exact ⟨.source cs :: pre', ref, post', by rw [hsegs]; rfl, htext, hpost⟩
    | group ref =>
      rw [holes] at hs
      obtain _ | ⟨x, pre⟩ := pre
      · cases hs
        exact ⟨[], ref, segments, rfl, rfl, rfl⟩
      · obtain ⟨pre', ref', post', hsegs, htext, hpost⟩ := ih (List.cons.inj hs).2
        exact ⟨.group ref :: pre', ref', post', by rw [hsegs]; rfl, htext, hpost⟩

/-- A reader of the outline visits all references. -/
theorem visits_outline {t : Template} {opening : Pattern} {captures : List (Option String)}
    (ha : t.RefersByItems) (hs : t.RepeatsCharacters opening captures) :
    Reader.Visits (.start (outline t.segments))
      (holes (capturedText opening captures) t.segments).2 := by
  intro pre h post hholes
  obtain ⟨pre', ref, post', hsegments, htext, hpost⟩ := exists_reference hholes
  obtain ⟨r, hr⟩ := ha pre' ref post' hsegments
  have hbehind : fill emptyGroup h.after post = outline post' := by
    have hfill := fill_holes (capturedText opening captures) emptyGroup post'
    rw [hpost] at hfill
    exact hfill
  refine ⟨r, hr.reaches, ?_, ?_⟩
  · rw [hr.rest, fill_cons, hbehind]
    rfl
  · rw [hbehind, htext]
    exact hs pre' ref post' r hr

private theorem toList_resolvedSource (t : Template) (opening : Pattern)
    (captures : List (Option String)) : (t.resolvedSource opening captures).toList =
      written (fun ref => Pattern.escapeChars (capturedText opening captures ref)) t.segments := by
  rw [resolvedSource, String.toList_ofList]
  simp only [captured_eq]
  rfl

variable {t : Template} {opening : Pattern} {captures : List (Option String)}

/-- A reader of the source with escaped captures and a reader of the source with the captures in
groups start together. -/
theorem parallel_start (ha : t.RefersByItems) (hs : t.RepeatsCharacters opening captures) :
    Reader.Parallel (.start (outline t.segments))
      (.start (t.resolvedSource opening captures).toList)
      (.start (t.groupedSource opening captures).toList)
      (holes (capturedText opening captures) t.segments).1
      (holes (capturedText opening captures) t.segments).2 where
  visits := visits_outline ha hs
  outline := (fill_holes (capturedText opening captures) emptyGroup t.segments).symm
  modes := ⟨rfl, rfl⟩
  mirrors := ⟨rfl, .nil, .nil, .nil⟩
  plain := (toList_resolvedSource t opening captures).trans (fill_holes _ _ _).symm
  grouped := String.toList_ofList.trans (fill_holes _ _ _).symm
  aligned := .inl (aligned_nil _)

/-- Patterns that are parsed alike compile alike. -/
theorem exists_compile_of_alike {source source' : String} {q : Pattern} {k : Nat}
    {tree tree' : Pattern.Tree} (hq : Pattern.compile source = .ok q)
    (h : parse source.toList = .ok tree) (h' : parse source'.toList = .ok tree')
    (halike : Pattern.Tree.Alike k tree tree') :
    ∃ g, Pattern.compile source' = .ok g ∧ q.program = g.program ∧ q.groupNames = g.groupNames := by
  rw [Pattern.compile, Pattern.expr, h] at hq
  obtain ⟨e, he, hq⟩ := bind_eq_ok.mp hq
  cases hq
  refine ⟨⟨source', e.program, e.groupNames⟩, ?_, rfl, rfl⟩
  rw [Pattern.compile, Pattern.expr, h']
  change ((tree'.meaning {} >>= _) >>= _) = _
  rw [← halike.meaning]
  exact bind_eq_ok.mpr ⟨e, he, rfl⟩

/-- A closing is a template if its source refers to known groups and compiles without captures. -/
theorem compileClosing_eq_template_iff {source : String} :
    compileClosing opening source = .ok (.template t) ↔
      parse? source = some t ∧ t.groups.find? (!·.isKnown opening) = none ∧
        ∃ q, t.resolve opening [] = .ok q := by
  constructor
  · intro h
    unfold compileClosing at h
    split at h
    · cases hp : compilePattern source <;> rw [hp] at h <;> cases h
    · next t' ht =>
      split at h
      · cases h
      · next hknown =>
        split at h
        · cases h
        · next q hq =>
          cases h
          exact ⟨ht, hknown, q, hq⟩
  · rintro ⟨ht, hknown, q, hq⟩
    simp only [compileClosing, ht, hknown, hq]

/-- Escaped captures find the same matches as captures in groups of their own, if every reference in
front of a repetition sign has captured one character. The groups can make the pattern too deep. -/
theorem resolve_matches_grouped {source : String} {q : Pattern}
    (hc : compileClosing opening source = .ok (.template t)) (ha : t.RefersByItems)
    (hq : t.resolve opening captures = .ok q) (hs : t.RepeatsCharacters opening captures) :
    written GroupRef.spelling t.segments = source.toList ∧
      ((∃ g, Pattern.compile (t.groupedSource opening captures) = .ok g ∧
        ∀ text pos, q.matchAt text pos = g.matchAt text pos) ∨
      (Pattern.compile (t.groupedSource opening captures) = .error .tooDeep ∧
        ∃ tree, parse (t.resolvedSource opening captures).toList = .ok tree ∧
          124 < tree.depth)) := by
  obtain ⟨ht, -⟩ := compileClosing_eq_template_iff.mp hc
  refine ⟨(written_of_parse? ht).2, ?_⟩
  have hcompile : Pattern.compile (t.resolvedSource opening captures) = .ok q := hq
  obtain ⟨e, he, -⟩ := bind_eq_ok.mp hcompile
  obtain ⟨tree, htree, -⟩ := bind_eq_ok.mp he
  obtain ⟨tree', hreads, halike⟩ := (parallel_start ha hs).reads (Reader.reads_of_parse htree)
  have hparse := Reader.parse_of_reads hreads
  split at hparse
  · left
    obtain ⟨g, hg, hprogram, -⟩ := exists_compile_of_alike hcompile htree hparse halike
    refine ⟨g, hg, fun text pos => ?_⟩
    rw [Pattern.matchAt, hprogram, Pattern.matchAt]
  · next hdeep =>
    right
    refine ⟨?_, tree, htree, ?_⟩
    · rw [Pattern.compile, Pattern.expr, hparse]
      rfl
    · have := halike.depth
      rw [Pattern.Tree.maxDepth] at hdeep
      omega

/-- The first group is repeated, and the second ends the line. -/
def repeatedOrLast : Template :=
  ⟨"x\\1+|\\2$",
    [.source ['x'], .group (.index 1), .source ['+', '|'], .group (.index 2), .source ['$']]⟩

private theorem references_repeatedOrLast {pre post : List Segment} {ref : GroupRef}
    (h : repeatedOrLast.segments = pre ++ .group ref :: post) :
    ref = .index 1 ∧ post = [.source ['+', '|'], .group (.index 2), .source ['$']] ∨
      ref = .index 2 ∧ post = [.source ['$']] := by
  rcases pre with _ | ⟨_, _ | ⟨_, _ | ⟨_, _ | ⟨_, _ | ⟨_, pre⟩⟩⟩⟩⟩ <;> simp [repeatedOrLast] at h
  · exact .inl ⟨h.2.1.symm, h.2.2.symm⟩
  · exact .inr ⟨h.2.2.2.1.symm, h.2.2.2.2.symm⟩

private theorem repeatedOrLast_refersByItems : repeatedOrLast.RefersByItems := by
  intro pre ref post h
  obtain ⟨rfl, rfl⟩ | ⟨rfl, rfl⟩ := references_repeatedOrLast h
  · exact ⟨_, h, .head ⟨_, _, _, rfl, rfl⟩ .refl, rfl⟩
  · -- The steps are the letter, the two halves of the first group, the sign and the branch.
    exact ⟨_, h, .head ⟨_, _, _, rfl, rfl⟩ <| .head ⟨_, _, _, rfl, rfl⟩ <|
      .head ⟨_, _, _, rfl, rfl⟩ <| .head ⟨_, _, _, rfl, rfl⟩ <|
      .head ⟨_, _, _, rfl, rfl⟩ .refl, rfl⟩

/-- One character is repeated, and two characters stand at the end. -/
theorem resolve_matches_of_choice :
    ∃ opening t q g, Pattern.compile "<(b)(cd)" = .ok opening ∧
      compileClosing opening "x\\1+|\\2$" = .ok (.template t) ∧ t.RefersByItems ∧
      t.resolve opening [some "<bcd", some "b", some "cd"] = .ok q ∧
      t.RepeatsCharacters opening [some "<bcd", some "b", some "cd"] ∧
      Pattern.compile "x(?:b)+|(?:cd)$" = .ok g ∧
      ∀ text pos, q.matchAt text pos = g.matchAt text pos := by
  obtain ⟨opening, hopening, hnames⟩ :
      ∃ p, Pattern.compile "<(b)(cd)" = .ok p ∧ p.groupNames = [none, none, none] :=
    ⟨_, rfl, by decide +kernel⟩
  obtain ⟨q, hq⟩ : ∃ q, Pattern.compile "xb+|cd$" = .ok q := ⟨_, rfl⟩
  have hclosing : compileClosing opening "x\\1+|\\2$" = .ok (.template repeatedOrLast) := by
    have hparse : parse? "x\\1+|\\2$" = some repeatedOrLast := by decide +kernel
    have hempty : ∃ q, Pattern.compile "x+|$" = .ok q := ⟨_, rfl⟩
    refine compileClosing_eq_template_iff.mpr ⟨hparse, ?_, hempty⟩
    simp [repeatedOrLast, groups, GroupRef.isKnown, hnames]
  have hsingle : repeatedOrLast.RepeatsCharacters opening [some "<bcd", some "b", some "cd"] := by
    intro pre ref post r hr hsign
    obtain ⟨rfl, rfl⟩ | ⟨rfl, rfl⟩ := references_repeatedOrLast hr.segments
    · cases hv : r.state.verbose <;> simp [State.visible, hv] <;> rfl
    · have hskip : r.state.skip ['$'] = ['$'] := State.skip_of_ne (fun _ => rfl) (by decide) []
      rw [show outline [.source ['$']] = ['$'] from rfl, hskip] at hsign
      cases hsign
  have hresolve : repeatedOrLast.resolve opening [some "<bcd", some "b", some "cd"] = .ok q := hq
  obtain ⟨-, ⟨g, hg, hmatch⟩ | ⟨hdeep, -⟩⟩ :=
    resolve_matches_grouped hclosing repeatedOrLast_refersByItems hresolve hsingle
  · exact ⟨opening, _, q, g, hopening, hclosing, repeatedOrLast_refersByItems, hresolve, hsingle,
      hg, hmatch⟩
  · obtain ⟨g, hg⟩ : ∃ g, Pattern.compile "x(?:b)+|(?:cd)$" = .ok g := ⟨_, rfl⟩
    cases hg.symm.trans hdeep

/-- A repetition sign behind two captured characters repeats the second only. -/
theorem resolve_differs_of_repeatedPair :
    ∃ opening t q g, Pattern.compile "<(ab)" = .ok opening ∧
      compileClosing opening "^x\\1+$" = .ok (.template t) ∧ t.RefersByItems ∧
      t.resolve opening [some "<ab", some "ab"] = .ok q ∧
      Pattern.compile (t.groupedSource opening [some "<ab", some "ab"]) = .ok g ∧
      (q.matchAt "xabab".toList 0).isSome = false ∧ (g.matchAt "xabab".toList 0).isSome = true := by
  obtain ⟨opening, hopening, hnames⟩ :
      ∃ p, Pattern.compile "<(ab)" = .ok p ∧ p.groupNames = [none, none] :=
    ⟨_, rfl, by decide +kernel⟩
  obtain ⟨q, hq, hmatch⟩ : ∃ q, Pattern.compile "^xab+$" = .ok q ∧
      (q.matchAt "xabab".toList 0).isSome = false := ⟨_, rfl, by decide +kernel⟩
  obtain ⟨g, hg, hmatch'⟩ : ∃ g, Pattern.compile "^x(?:ab)+$" = .ok g ∧
      (g.matchAt "xabab".toList 0).isSome = true := ⟨_, rfl, by decide +kernel⟩
  have hclosing : compileClosing opening "^x\\1+$" = .ok (.template ⟨"^x\\1+$",
      [.source ['^', 'x'], .group (.index 1), .source ['+', '$']]⟩) := by
    have hempty : ∃ q, Pattern.compile "^x+$" = .ok q := ⟨_, rfl⟩
    refine compileClosing_eq_template_iff.mpr ⟨by decide +kernel, ?_, hempty⟩
    simp [groups, GroupRef.isKnown, hnames]
  refine ⟨opening, _, q, g, hopening, hclosing, ?_, hq, hg, hmatch, hmatch'⟩
  intro pre ref post h
  have hsplit := h
  rcases pre with _ | ⟨_, _ | ⟨_, _ | ⟨_, pre⟩⟩⟩ <;> simp at h
  obtain ⟨-, rfl, rfl⟩ := h
  exact ⟨_, hsplit, .head ⟨_, _, _, rfl, rfl⟩ (.head ⟨_, _, _, rfl, rfl⟩ .refl), rfl⟩

end Template

end CodeFold
