import CodeFold.Command.Run
import CodeFold.Proofs.Registry
import CodeFold.Proofs.Visits

/-!
# Validation reports are complete

A validation compiles the rules of each language that has rules of its own, and those for every
language once more. Any other language has only the latter, so nothing can come up for it that is not
in the report. Repetitions are left out: of each finding the place counts where it first comes up.
Specification: §11.4.
-/

namespace CodeFold

/-! ### First occurrences -/

namespace ValidationReport

variable {seen fs : List Finding} {f g : Finding}

private theorem mem_firstsAfter : f ∈ firstsAfter seen fs ↔ f ∈ fs ∧ f ∉ seen := by
  induction fs generalizing seen with
  | nil => simp [firstsAfter]
  | cons g rest ih =>
    rw [firstsAfter]
    by_cases hg : g ∈ seen
    · rw [if_pos hg, ih, List.mem_cons]
      constructor
      · exact fun h => ⟨.inr h.1, h.2⟩
      · rintro ⟨rfl | h, hf⟩
        · exact absurd hg hf
        · exact ⟨h, hf⟩
    · rw [if_neg hg, List.mem_cons, ih, List.mem_cons, List.mem_cons]
      by_cases hf : f = g
      · simp [hf, hg]
      · simp [hf]

private theorem nodup_firstsAfter (seen fs : List Finding) : (firstsAfter seen fs).Nodup := by
  induction fs generalizing seen with
  | nil => exact List.nodup_nil
  | cons f rest ih =>
    rw [firstsAfter]
    split
    · exact ih seen
    · refine List.nodup_cons.mpr ⟨?_, ih (f :: seen)⟩
      intro hf
      exact (mem_firstsAfter.mp hf).2 List.mem_cons_self

/-- A finding comes before another one in a list. -/
def Before (fs : List Finding) (f g : Finding) : Prop := fs.idxOf f < fs.idxOf g

/-- What holds of the rest of a list holds behind a further finding. -/
theorem Before.cons {first : Finding} (h : Before fs f g) (hf : first ≠ f) (hg : first ≠ g) :
    Before (first :: fs) f g := by
  unfold Before at h ⊢
  rw [List.idxOf_cons_ne fs hf, List.idxOf_cons_ne fs hg]
  exact Nat.succ_lt_succ h

private theorem before_head (hg : f ≠ g) : Before (f :: fs) f g := by
  unfold Before
  rw [List.idxOf_cons_self, List.idxOf_cons_ne fs hg]
  exact Nat.succ_pos _

/-- Findings are kept in the order in which they first occur. -/
theorem before_firstsAfter (seen fs : List Finding) :
    (firstsAfter seen fs).Pairwise (Before fs) := by
  induction fs generalizing seen with
  | nil => exact List.Pairwise.nil
  | cons f rest ih =>
    -- What is kept of the rest is neither seen before nor the first finding.
    have later {seen' : List Finding} (hf : f ∈ seen') :
        (firstsAfter seen' rest).Pairwise (Before (f :: rest)) := by
      refine (ih seen').imp_of_mem ?_
      intro a b ha hb hab
      apply hab.cons
      · rintro rfl
        exact (mem_firstsAfter.mp ha).2 hf
      · rintro rfl
        exact (mem_firstsAfter.mp hb).2 hf
    rw [firstsAfter]
    by_cases hf : f ∈ seen
    · rw [if_pos hf]
      exact later hf
    · rw [if_neg hf]
      refine List.pairwise_cons.mpr ⟨?_, later List.mem_cons_self⟩
      intro g hg
      apply before_head
      rintro rfl
      exact (mem_firstsAfter.mp hg).2 List.mem_cons_self

end ValidationReport

/-! ### Languages in order -/

instance : Trans (α := Language) (· < ·) (· < ·) (· < ·) := ⟨String.lt_trans⟩

instance : Std.Trichotomous (α := Language) (· < ·) where
  trichotomous a b hab hba := by
    have hkey : a.key = b.key := Std.Trichotomous.trichotomous (r := (· < ·)) _ _ hab hba
    cases a
    cases b
    exact congrArg Language.mk hkey

namespace Config

variable {c : Config} {l : Language}

private theorem ruleLanguages_sorted (c : Config) : c.ruleLanguages.Pairwise (· < ·) :=
  SortedMap.sorted_ofList _

/-! ### What comes up for the languages -/

/-- What comes up when the rules for a language are compiled. -/
def findingsFor (describe : PatternError → String) (c : Config) (l : Language) : List Finding :=
  (c.compile l).2.map (Finding.ofDiagnostic describe)

/-- What comes up for the languages with rules of their own, in their order, and then for every
language. -/
def allFindings (describe : PatternError → String) (c : Config) : List Finding :=
  (c.ruleLanguages ++ [Language.wildcard]).flatMap (c.findingsFor describe)

/-- Compiling for a language meets an entry that makes no rule. -/
def DropsRule (c : Config) (l : Language) : Prop :=
  ∃ v, RuleSet.Visited l (if l.isWildcard then [] else c.rulesFor l) (c.rulesFor .wildcard) v ∧
    v.entry.error?.isSome = true

private theorem findings_ofConfig (describe : PatternError → String) (c : Config) :
    (ValidationReport.ofConfig describe c).findings =
      ValidationReport.firstsAfter [] (c.allFindings describe) := by
  rw [allFindings, List.flatMap_append, List.flatMap_singleton]
  simp only [ValidationReport.ofConfig, Registry.build, List.flatMap_map, List.map_append,
    List.map_flatMap]
  rfl

/-- For a language without rules of its own nothing comes up but what does for every language. -/
theorem findingsFor_of_not_mem (describe : PatternError → String) (h : l ∉ c.ruleLanguages) :
    c.findingsFor describe l = c.findingsFor describe .wildcard := by
  rw [findingsFor, findingsFor, compile_of_not_mem h]

/-- What comes up for any language comes up for one of those that are compiled. -/
theorem mem_allFindings {describe : PatternError → String} {f : Finding} :
    f ∈ c.allFindings describe ↔ ∃ l, f ∈ c.findingsFor describe l := by
  rw [allFindings, List.mem_flatMap]
  constructor
  · rintro ⟨l, _, hf⟩
    exact ⟨l, hf⟩
  · rintro ⟨l, hf⟩
    by_cases hl : l ∈ c.ruleLanguages
    · exact ⟨l, List.mem_append_left _ hl, hf⟩
    · refine ⟨.wildcard, List.mem_append_right _ List.mem_cons_self, ?_⟩
      rwa [← findingsFor_of_not_mem describe hl]

end Config

/-! ### Dropped rules -/

/-- A report that a rule is invalid stands for an entry that is met and makes no rule. -/
theorem RuleSet.exists_isInvalid_iff (language : Language) (specific wildcard : List RuleEntry) :
    (∃ d ∈ (RuleSet.compile language specific wildcard).2, d.isInvalid = true) ↔
      ∃ v, Visited language specific wildcard v ∧ v.entry.error?.isSome = true := by
  have hrefused (d : Diagnostic) :
      (d ∈ (RuleSet.compile language specific wildcard).2 ∧ d.isInvalid = true) ↔
        ∃ v ∈ RuleEntry.visits language.key 0 specific ++ RuleEntry.visits "*" 0 wildcard,
          v.refusal? = some d := by
    rw [← List.mem_filter, compile_eq, Diagnostic.filter_isInvalid_once,
      RuleEntry.allReports_eq_flatMap, RuleEntry.allReports_eq_flatMap, ← List.flatMap_append,
      Visit.filter_isInvalid_reports, List.mem_filterMap]
  constructor
  · rintro ⟨d, hd⟩
    obtain ⟨v, hv, hr⟩ := (hrefused d).mp hd
    have he : v.entry.error?.isSome = true := by
      rw [← Option.isSome_map, ← Visit.refusal?, hr]
      rfl
    rcases List.mem_append.mp hv with hv | hv
    · exact ⟨v.under 0, .specific (RuleEntry.mem_visits_iff_met.mp hv), he⟩
    · exact ⟨v.under 1, .wildcard (RuleEntry.mem_visits_iff_met.mp hv), he⟩
  · rintro ⟨v, hv, he⟩
    obtain ⟨e, he⟩ := Option.isSome_iff_exists.mp he
    cases hv with
    | @specific v hm =>
      refine ⟨.invalid v.label e, (hrefused _).mpr ⟨v, ?_, congrArg (Option.map _) he⟩⟩
      exact List.mem_append_left _ (RuleEntry.mem_visits_iff_met.mpr hm)
    | @wildcard v hm =>
      refine ⟨.invalid v.label e, (hrefused _).mpr ⟨v, ?_, congrArg (Option.map _) he⟩⟩
      exact List.mem_append_right _ (RuleEntry.mem_visits_iff_met.mpr hm)

private theorem Finding.isInvalid_ofDiagnostic (describe : PatternError → String) (d : Diagnostic) :
    (Finding.ofDiagnostic describe d).isInvalid = d.isInvalid := by
  cases d <;> rfl

namespace Config

variable {c : Config} {l : Language}

private theorem dropsRule_iff (describe : PatternError → String) :
    c.DropsRule l ↔ ∃ f ∈ c.findingsFor describe l, f.isInvalid = true := by
  rw [DropsRule, ← RuleSet.exists_isInvalid_iff]
  simp only [findingsFor, List.mem_map, exists_exists_and_eq_and, Finding.isInvalid_ofDiagnostic]
  rfl

/-- A configuration is valid if there is no language for which a rule is dropped. -/
theorem isValid_iff (describe : PatternError → String) (c : Config) :
    (ValidationReport.ofConfig describe c).isValid = true ↔ ∀ l, ¬ c.DropsRule l := by
  rw [ValidationReport.isValid, Bool.not_eq_true', List.any_eq_false, findings_ofConfig]
  simp only [ValidationReport.mem_firstsAfter, mem_allFindings, dropsRule_iff describe]
  constructor
  · rintro h l ⟨f, hf, hi⟩
    exact h f ⟨⟨l, hf⟩, List.not_mem_nil⟩ hi
  · rintro h f ⟨⟨l, hf⟩, _⟩ hi
    exact h l ⟨f, hf, hi⟩

/-- The command `validate` ends with 0 if the configuration that it loads is valid, else with 1. -/
theorem exitCode_validate {w : Workspace} {path : Option String}
    (hc : Command.loadConfig w path = .ok c) (env : Surroundings) (color : Option ColorChoice)
    (verbose : Bool) : (Invocation.run env w ⟨.validate path, color, verbose⟩).exitCode =
      if (ValidationReport.ofConfig env.describe c).isValid then 0 else 1 := by
  simp only [Invocation.run, Command.printValidation, hc]
  rfl

end Config

namespace ValidationReport

/-- A report lists what comes up for any language, each finding once and in the order in which it
first comes up. -/
structure Complete (describe : PatternError → String) (c : Config) (r : ValidationReport) : Prop where
  mem_iff : ∀ f, f ∈ r.findings ↔ ∃ l, f ∈ c.findingsFor describe l
  mem_all : ∀ f, f ∈ r.findings ↔ f ∈ c.allFindings describe
  nodup : r.findings.Nodup
  order : r.findings.Pairwise (Before (c.allFindings describe))
  valid_iff : r.isValid = true ↔ ∀ l, ¬ c.DropsRule l

/-- A validation lists what compiling reports for any language at all, in the order in which it first
comes up for the languages with rules of their own, which are in order, and then for every language.
There is nothing invalid in it, and the command `validate` ends with 0 and not with 1, if and only if
no rule is dropped for any language. -/
theorem complete_ofConfig (describe : PatternError → String) (c : Config) :
    (ofConfig describe c).Complete describe c ∧ c.ruleLanguages.Pairwise (· < ·) ∧
    (∀ l, l ∈ c.ruleLanguages ↔
      l ≠ .wildcard ∧ ∃ key ∈ c.rules.keys, Language.ofString? key = some l) ∧
    ∀ env w path color verbose, Command.loadConfig w path = .ok c →
      ((Invocation.run env w ⟨.validate path, color, verbose⟩).exitCode = 0 ↔
        ∀ l, ¬ c.DropsRule l) ∧
      ((Invocation.run env w ⟨.validate path, color, verbose⟩).exitCode = 1 ↔
        ∃ l, c.DropsRule l) := by
  have hall (f : Finding) : f ∈ (ofConfig describe c).findings ↔ f ∈ c.allFindings describe := by
    rw [Config.findings_ofConfig, mem_firstsAfter]
    exact and_iff_left List.not_mem_nil
  refine ⟨⟨fun f => (hall f).trans Config.mem_allFindings, hall, ?_, ?_, c.isValid_iff describe⟩,
    c.ruleLanguages_sorted, fun l => Config.mem_ruleLanguages, ?_⟩
  · rw [Config.findings_ofConfig]
    exact nodup_firstsAfter [] _
  · rw [Config.findings_ofConfig]
    exact before_firstsAfter [] _
  · intro env w path color verbose hc
    rw [Config.exitCode_validate hc, ← not_forall_not, ← c.isValid_iff env.describe]
    cases (ofConfig env.describe c).isValid <;> decide

end ValidationReport

/-- A configuration whose rules for every language hold one without an end. -/
def sharedFault : Config where
  rules :=
    [("*", .many [.rule { opening := some "(" } .unset,
        .rule { opening := some "[", closing := some "]", descendants := some true } .unset]),
      ("go", .one (.rule { offSide := some true } .unset)),
      ("rust", .one (.rule { offSide := some true } .unset))]

/-- A directory with a configuration in which a rule for every language has no end. -/
def sharedFaultFiles : Workspace where
  root := .directory [("folding.toml", .file "[rules.\"*\"]\nbegin = \"(\"\n".toUTF8)]
  cwd := []

/-- What is wrong with the rules for every language is listed once, though it comes up for each of
three sets. -/
theorem complete_of_sharedFault :
    (ValidationReport.ofConfig (fun _ => "") sharedFault).findings =
      [.invalid "*[0]" "Malformed rule *[0]: missing end pattern", .deprecated "descendants"] ∧
    (sharedFault.allFindings fun _ => "").length = 6 ∧
    (∃ l, Finding.deprecated "descendants" ∈ sharedFault.findingsFor (fun _ => "") l) ∧
    (∃ l, sharedFault.DropsRule l) ∧
    ∃ c, Command.loadConfig sharedFaultFiles none = .ok c ∧ ∃ l, c.DropsRule l := by
  have hfindings : (ValidationReport.ofConfig (fun _ => "") sharedFault).findings =
      [.invalid "*[0]" "Malformed rule *[0]: missing end pattern", .deprecated "descendants"] := by
    decide +kernel
  have hreport := (ValidationReport.complete_ofConfig (fun _ => "") sharedFault).1
  refine ⟨hfindings, by decide +kernel, ?_, ?_, ?_⟩
  · apply (hreport.mem_iff _).mp
    rw [hfindings]
    simp
  · apply not_forall_not.mp
    rw [← hreport.valid_iff, ValidationReport.isValid, hfindings]
    decide
  · have hload : (Command.loadConfig sharedFaultFiles none).isOk = true := by decide +kernel
    cases hc : Command.loadConfig sharedFaultFiles none with
    | error e => simp [hc, Except.isOk, Except.toBool] at hload
    | ok c =>
      refine ⟨c, rfl, ?_⟩
      have hexit := (ValidationReport.complete_ofConfig (fun _ => "") c).2.2.2
        ⟨false, fun _ => ""⟩ sharedFaultFiles none none false hc
      exact hexit.2.mp (by decide +kernel)

end CodeFold
