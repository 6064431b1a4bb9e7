import AccessGate.Rule.Validity

/-! # Sets of rules

A set of rules is a list without repeated numbers; it is never empty, since a feed without rules is
more likely damaged than meant. -/
namespace AccessGate.RuleSet

/-- Checks rule after rule; `seen` holds the numbers of the earlier ones. -/
def validateFrom (seen : List Int) : List Rule → Except RuleError Unit
  | [] => .ok ()
  | r :: rest => do
    r.validate
    if r.ruleNum ∈ seen then throw ⟨.ruleSet (.duplicate r.ruleNum), some r.ruleNum⟩
    validateFrom (r.ruleNum :: seen) rest

/-- Whether a list of rules is fit for a feed. -/
def validate (rules : List Rule) : Except RuleError Unit :=
  if rules.isEmpty then .error ⟨.ruleSet .empty, none⟩ else validateFrom [] rules

/-- Whether a list of rules is fit to be served. -/
def validateRuntime (rules : List Rule) : Except RuleError Unit := do
  validate rules
  rules.forM Rule.validateRuntime

end AccessGate.RuleSet
