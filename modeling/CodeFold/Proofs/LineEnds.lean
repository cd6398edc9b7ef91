import CodeFold.Fold
import CodeFold.Rule.Compile
import Mathlib.Data.List.Basic

/-!
# Line ends

A text is a list of lines, each with a line feed behind it, and what follows the last line feed. The
lines that a document has do not tell which of the two line ends stands in the text, nor whether the
last line has one. So neither do the ranges.
Specification: §12.
-/

namespace CodeFold

namespace Line

/-- The two line ends. -/
def endings : List (List Char) := [['\n'], ['\r', '\n']]

/-- Lines, each followed by a line end. -/
def ended (ending : List Char) (lines : List Line) : List Char := lines.flatMap (· ++ ending)

/-- A character, with a carriage return in front of it if it is a line feed. -/
def withReturn (c : Char) : List Char := if c = '\n' then ['\r', '\n'] else [c]

/-- A text with a carriage return in front of each line feed. -/
def withReturns (text : String) : String := String.ofList (text.toList.flatMap withReturn)

variable {ending : List Char} {lines : List Line} {line last : Line}

@[simp] private theorem ended_cons (ending : List Char) (line : Line) (lines : List Line) :
    ended ending (line :: lines) = line ++ ending ++ ended ending lines := rfl

/-! ### Splitting -/

private theorem splitFrom_append {cs : List Char} (h : '\n' ∉ cs) (acc rest : List Char) :
    splitFrom acc (cs ++ rest) = splitFrom (cs.reverse ++ acc) rest := by
  induction cs generalizing acc with
  | nil => rfl
  | cons c cs ih =>
    rw [List.mem_cons, not_or] at h
    obtain ⟨hc, hcs⟩ := h
    rw [List.cons_append, splitFrom, if_neg (Ne.symm hc), ih hcs]
    simp

private theorem dropReturn_of_not_mem {cs : List Char} (h : '\r' ∉ cs) : dropReturn cs = cs := by
  cases cs with
  | nil => rfl
  | cons c cs =>
    unfold dropReturn
    split
    · next heq =>
      cases heq
      exact absurd List.mem_cons_self h
    · rfl

/-- A line is found in front of either line end. -/
theorem splitFrom_line (hending : ending ∈ endings)
    (hline : '\n' ∉ line ∧ '\r' ∉ line) (rest : List Char) :
    splitFrom [] (line ++ ending ++ rest) = line :: splitFrom [] rest := by
  have hdrop : dropReturn line.reverse = line.reverse :=
    dropReturn_of_not_mem (by simpa using hline.2)
  rw [List.append_assoc, splitFrom_append hline.1, List.append_nil]
  simp only [endings, List.mem_cons, List.not_mem_nil, or_false] at hending
  rcases hending with rfl | rfl
  · simp [splitFrom, hdrop]
  · simp [splitFrom, dropReturn]

/-- Lines with one ending are split into these lines and what follows them. -/
theorem splitFrom_ended (hending : ending ∈ endings)
    (hlines : ∀ line ∈ lines, '\n' ∉ line ∧ '\r' ∉ line) (rest : List Char) :
    splitFrom [] (ended ending lines ++ rest) = lines ++ splitFrom [] rest := by
  induction lines with
  | nil => rfl
  | cons line lines ih =>
    obtain ⟨hline, hlines⟩ := List.forall_mem_cons.mp hlines
    rw [ended_cons, List.append_assoc, splitFrom_line hending hline, ih hlines, List.cons_append]

/-- A last line without its end is a line unless it is empty. -/
theorem splitFrom_last (hlast : '\n' ∉ last) :
    splitFrom [] last = if last.isEmpty then [] else [last] := by
  have h := splitFrom_append hlast [] []
  rw [List.append_nil, List.append_nil] at h
  rw [h, splitFrom, List.isEmpty_reverse, List.reverse_reverse]

/-- Splitting at the line feeds alone gives one part more, the empty one behind the last of them. -/
theorem splitOn_ended (hlines : ∀ line ∈ lines, '\n' ∉ line) :
    (ended ['\n'] lines).splitOn '\n' = lines ++ [[]] := by
  induction lines with
  | nil => rfl
  | cons line lines ih =>
    obtain ⟨hline, hlines⟩ := List.forall_mem_cons.mp hlines
    rw [ended_cons, List.append_assoc, List.singleton_append,
      List.splitOn_append_cons_self_of_not_mem hline, ih hlines, List.cons_append]

/-! ### The parts of a text -/

/-- A text is lines with line feeds behind them and what follows the last line feed. -/
theorem exists_eq_ended (cs : List Char) : ∃ lines last, cs = ended ['\n'] lines ++ last ∧
    (∀ line ∈ lines, '\n' ∉ line) ∧ '\n' ∉ last := by
  induction cs with
  | nil => exact ⟨[], [], rfl, by simp, by simp⟩
  | cons c cs ih =>
    obtain ⟨lines, last, rfl, hlines, hlast⟩ := ih
    by_cases hc : c = '\n'
    · exact ⟨[] :: lines, last, by simp [hc], by simpa using hlines, hlast⟩
    · have hne : '\n' ≠ c := Ne.symm hc
      cases lines with
      | nil => exact ⟨[], c :: last, rfl, by simp, by simp [hne, hlast]⟩
      | cons line lines =>
        obtain ⟨hline, hlines⟩ := List.forall_mem_cons.mp hlines
        exact ⟨(c :: line) :: lines, last, rfl,
          List.forall_mem_cons.mpr ⟨by simp [hne, hline], hlines⟩, hlast⟩

/-- The parts of a text without carriage returns hold none either. -/
theorem exists_ended_of_not_mem {cs : List Char} (h : '\r' ∉ cs) :
    ∃ lines last, cs = ended ['\n'] lines ++ last ∧
      (∀ line ∈ lines, '\n' ∉ line ∧ '\r' ∉ line) ∧ '\n' ∉ last ∧ '\r' ∉ last := by
  obtain ⟨lines, last, rfl, hlines, hlast⟩ := exists_eq_ended cs
  rw [List.mem_append, not_or, ended, List.mem_flatMap] at h
  refine ⟨lines, last, rfl, ?_, hlast, h.2⟩
  intro line hline
  exact ⟨hlines line hline, fun hr => h.1 ⟨line, hline, List.mem_append_left _ hr⟩⟩

private theorem flatMap_withReturn_of_not_mem {cs : List Char} (h : '\n' ∉ cs) :
    cs.flatMap withReturn = cs := by
  induction cs with
  | nil => rfl
  | cons c cs ih =>
    rw [List.mem_cons, not_or] at h
    obtain ⟨hc, hcs⟩ := h
    rw [List.flatMap_cons, withReturn, if_neg (Ne.symm hc), ih hcs]
    rfl

private theorem flatMap_withReturn_ended (hlines : ∀ line ∈ lines, '\n' ∉ line) :
    (ended ['\n'] lines).flatMap withReturn = ended ['\r', '\n'] lines := by
  induction lines with
  | nil => rfl
  | cons line lines ih =>
    obtain ⟨hline, hlines⟩ := List.forall_mem_cons.mp hlines
    simp only [ended_cons, List.flatMap_append, flatMap_withReturn_of_not_mem hline, ih hlines]
    rfl

private theorem intercalate_append_singleton (lines : List Line) (last : Line) :
    ['\n'].intercalate (lines ++ [last]) = ended ['\n'] lines ++ last := by
  induction lines with
  | nil => exact List.intercalate_singleton
  | cons line lines ih =>
    rw [List.cons_append, List.intercalate_cons_of_ne_nil (by simp), ih, ended_cons,
      List.append_assoc (line ++ ['\n'])]

/-! ### Texts with the same lines -/

private theorem split_withReturns {text : String} (h : '\r' ∉ text.toList) :
    split (withReturns text) = split text := by
  obtain ⟨lines, last, htext, hlines, hlast, _⟩ := exists_ended_of_not_mem h
  rw [split, split, withReturns, String.toList_ofList, htext, List.flatMap_append,
    flatMap_withReturn_ended fun line hline => (hlines line hline).1,
    flatMap_withReturn_of_not_mem hlast,
    splitFrom_ended (by decide) hlines, splitFrom_ended (by decide) hlines]

/-- The last line of a text may lack its end, if there is such a line. -/
theorem split_append (hending : ending ∈ endings) {text : String}
    (hreturn : '\r' ∉ text.toList) (hlast : text.toList.getLast? ≠ some '\n')
    (hne : text ≠ "") : split (text ++ String.ofList ending) = split text := by
  obtain ⟨lines, last, htext, hlines, hfeed, hret⟩ := exists_ended_of_not_mem hreturn
  have hrest : last ≠ [] := by
    rintro rfl
    rw [List.append_nil] at htext
    rcases List.eq_nil_or_concat lines with rfl | ⟨lines, line, rfl⟩
    · exact hne (String.toList_eq_nil_iff.mp htext)
    · apply hlast
      rw [htext, ended, List.concat_eq_append, List.flatMap_append, List.flatMap_singleton]
      simp
  have hsplit := splitFrom_line hending ⟨hfeed, hret⟩ []
  rw [List.append_nil] at hsplit
  rw [split, split, String.toList_append, String.toList_ofList, htext, List.append_assoc,
    splitFrom_ended (by decide) hlines, splitFrom_ended (by decide) hlines, hsplit,
    splitFrom_last hfeed, if_neg (by simpa using hrest)]
  rfl

/-- Lines joined by line feeds are split into the same lines. -/
theorem split_intercalate (hlines : ∀ line ∈ lines, '\n' ∉ line ∧ '\r' ∉ line)
    (hlast : lines.getLast? ≠ some []) :
    split ("\n".intercalate (lines.map String.ofList)) = lines := by
  have hchars : (lines.map String.ofList).map String.toList = lines := by
    simp [Function.comp_def]
  rw [split, String.toList_intercalate, hchars]
  rcases List.eq_nil_or_concat lines with rfl | ⟨front, last, rfl⟩
  · rfl
  · rw [List.concat_eq_append] at hlast hlines ⊢
    have hempty : ¬last.isEmpty = true := by simpa using hlast
    obtain ⟨hfront, hline⟩ := List.forall_mem_append.mp hlines
    change splitFrom [] (['\n'].intercalate _) = _
    rw [intercalate_append_singleton, splitFrom_ended (by decide) hfront,
      splitFrom_last (hline last List.mem_cons_self).1, if_neg hempty]

end Line

/-- The ranges of a text depend neither on which line ends it has nor on whether its last line has
one, and they are those of its lines. -/
theorem RuleSet.fold_lineEnds (rules : RuleSet) :
    (∀ text : String, '\r' ∉ text.toList →
      rules.fold (Line.withReturns text) = rules.fold text ∧
      (text ≠ "" → text.toList.getLast? ≠ some '\n' →
        rules.fold (text ++ "\n") = rules.fold text ∧
        rules.fold (text ++ "\r\n") = rules.fold text)) ∧
    ∀ lines : List Line, (∀ line ∈ lines, '\n' ∉ line ∧ '\r' ∉ line) →
      lines.getLast? ≠ some [] →
      rules.fold ("\n".intercalate (lines.map String.ofList)) = rules.foldLines lines := by
  refine ⟨fun text hreturn => ⟨?_, fun hne hlast => ⟨?_, ?_⟩⟩, fun lines hlines hlast => ?_⟩
  · rw [fold, fold, Line.split_withReturns hreturn]
  · exact congrArg rules.foldLines (Line.split_append (by decide) hreturn hlast hne)
  · exact congrArg rules.foldLines (Line.split_append (by decide) hreturn hlast hne)
  · rw [fold, Line.split_intercalate hlines hlast]

/-- Runs of empty lines. -/
def emptyRuns : RuleSet :=
  (RuleSet.compile ⟨"test"⟩
    [.rule { openingRegex := some "^$", consecutive := some true } .unset] []).1

/-- Two empty lines are one range in every form of the text, and no form has a third one. -/
theorem fold_lineEnds_of_emptyRuns :
    emptyRuns.fold "a\n\n\nb" = [⟨1, 2, .comment⟩] ∧
      emptyRuns.fold "a\r\n\r\n\r\nb" = [⟨1, 2, .comment⟩] ∧
      emptyRuns.fold ("a\n\n\nb" ++ "\n") = [⟨1, 2, .comment⟩] ∧
      emptyRuns.fold ("a\n\n\nb" ++ "\r\n") = [⟨1, 2, .comment⟩] ∧
      emptyRuns.foldLines [['a'], [], [], ['b']] = [⟨1, 2, .comment⟩] := by
  have hscan : emptyRuns.scan (Line.split "a\n\n\nb") = [⟨0, 1, 2, false⟩] := by decide +kernel
  have hrange : emptyRuns.range? 3 ⟨0, 1, 2, false⟩ = some ⟨1, 2, .comment⟩ := by decide +kernel
  have hfold : emptyRuns.fold "a\n\n\nb" = [⟨1, 2, .comment⟩] := by
    have hlength : (Line.split "a\n\n\nb").length = 4 := by decide +kernel
    simp [RuleSet.fold, RuleSet.foldLines, RuleSet.assemble, hlength, hscan, hrange, dropRepeats,
      dropRepeatsAfter]
  obtain ⟨htext, hlines⟩ := emptyRuns.fold_lineEnds
  obtain ⟨hreturns, hend⟩ := htext "a\n\n\nb" (by decide +kernel)
  obtain ⟨hfeed, hreturn⟩ := hend (by decide +kernel) (by decide +kernel)
  have hjoined := hlines [['a'], [], [], ['b']] (by decide) (by decide)
  exact ⟨hfold, hreturns.trans hfold, hfeed.trans hfold, hreturn.trans hfold,
    hjoined.symm.trans hfold⟩

end CodeFold
