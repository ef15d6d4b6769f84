import SchemaCheck.Activity
import SchemaCheck.Collector
import SchemaCheck.Rule

/-!
# Specs

What a provider serves: its rules, each with the code that runs it, its categories, and perhaps a
hook that may change a request before any rule sees it.
-/

namespace SchemaCheck

/-- The code of a rule: given the identifier under which it hands in findings and a request, what it
does. -/
abbrev Handler := String → Request → Activity Draft Unit

/-- What happens to a request before the rules run. It hands in nothing. -/
abbrev BeforeHook := Request → Activity Empty Request

/-- A rule with its code. -/
structure RuleSpec extends RuleEntry where
  handler : Handler

/-- What a provider serves. -/
structure Spec where
  rules : List RuleSpec
  categories : List Category := []
  before : Option BeforeHook := none

namespace Spec

/-- The entries of the rules, as declared. -/
def ruleEntries (s : Spec) : List RuleEntry := s.rules.map (·.toRuleEntry)

/-- The identifiers of the rules, as declared. -/
def ruleIds (s : Spec) : List String := s.rules.map (·.id)

/-- The identifiers of the categories, as declared. -/
def categoryIds (s : Spec) : List String := s.categories.map (·.id)

end Spec

end SchemaCheck
