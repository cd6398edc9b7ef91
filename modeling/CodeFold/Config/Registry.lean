import CodeFold.Config.Basic

/-!
# Registry

All rule sets of a configuration: one for each language with rules of its own, and one for all
others.
Specification: §11.3.
-/

namespace CodeFold

/-- The compiled rule sets of a configuration (§11.3). -/
structure Registry where
  sets : SortedMap Language RuleSet
  fallback : RuleSet

namespace Registry

/-- Compiles a configuration. The rules for every language are compiled once for each set, and what
they report comes up each time (§11.3). -/
def build (c : Config) : Registry × List Diagnostic :=
  let compiled := c.ruleLanguages.map fun l => (l, c.compile l)
  let (fallback, last) := c.compile .wildcard
  (⟨compiled.map fun (l, set, _) => (l, set), fallback⟩,
    compiled.flatMap (·.2.2) ++ last)

/-- The rule set for a language; one without rules of its own, or none at all, has the last set. -/
def get (r : Registry) (language : Option Language) : RuleSet :=
  (language.bind fun l => r.sets.lookup l).getD r.fallback

/-- Whether a language has rules of its own. -/
def hasLanguage (r : Registry) (language : Language) : Bool := (r.sets.lookup language).isSome

/-- The languages with rules of their own, in order. -/
def languages (r : Registry) : List Language := r.sets.keys

/-- The number of languages with rules of their own. -/
def size (r : Registry) : Nat := r.sets.length

/-- Whether there are no rules at all. -/
def isEmpty (r : Registry) : Bool := r.fallback.isEmpty && r.sets.all (·.2.isEmpty)

end Registry

end CodeFold
