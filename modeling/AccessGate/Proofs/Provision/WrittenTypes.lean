import AccessGate.Proofs.Access
import AccessGate.Proofs.Provision.InStep
import AccessGate.Proofs.Rule.Pattern
import AccessGate.Proofs.Rule.Wording

/-! # Pattern types that are written out

A pattern type may be known, or given by its name with blanks around it. The checks do not tell these apart, and
provisioning without a log hands the types on as they are given. -/
namespace AccessGate

namespace PatternTypeField
variable {field field' : PatternTypeField}

/-- A pattern type as it is, or a known one written out with blanks around its name. -/
inductive WrittenOut : PatternTypeField → PatternTypeField → Prop
  | same (field : PatternTypeField) : WrittenOut field field
  | name (t : PatternType) {before after : String} (hbefore : ∀ c ∈ before.toList, Text.isBlank c = true)
      (hafter : ∀ c ∈ after.toList, Text.isBlank c = true) :
      WrittenOut (.known t) (.written (before ++ t.name ++ after))

theorem trim_name (t : PatternType) : Text.trim t.name = t.name := by
  apply Text.trim_of_forall_not_blank
  cases t <;> exact Text.forall_not_blank_of_all rfl

theorem WrittenOut.read_eq (h : field.WrittenOut field') : field.read = field'.read := by
  cases h with
  | same field => rfl
  | name t hbefore hafter =>
    apply Eq.symm
    apply read_eq_ok_iff.mpr
    apply Names.written
    rw [Text.trim_padded hbefore hafter, trim_name]

end PatternTypeField

namespace Rule
variable {r r' : Rule}

/-- Rules that differ in how their pattern types are given alone: those of the second may be written out. -/
structure TypeWritten (r r' : Rule) : Prop where
  rest : { r with patternType := none } = { r' with patternType := none }
  type : Option.Rel PatternTypeField.WrittenOut r.patternType r'.patternType

namespace TypeWritten

theorem pattern_eq (h : r.TypeWritten r') : r.pattern = r'.pattern := by
  have hpattern := congrArg Rule.pattern h.rest
  exact hpattern

theorem refl (r : Rule) : r.TypeWritten r := by
  refine ⟨rfl, ?_⟩
  cases r.patternType with
  | none => exact .none
  | some field => exact .some (.same field)

theorem reworded (h : r.TypeWritten r') : r.Reworded r' where
  rest := congrArg (fun s : Rule => { s with pattern := none }) h.rest
  pattern := congrArg (Option.map Text.trim) h.pattern_eq
  type := by
    have htype := h.type
    generalize r.patternType = type at htype
    generalize r'.patternType = type' at htype
    cases htype with
    | none => rfl
    | some hfield => exact congrArg some hfield.read_eq

theorem name_eq (h : r.TypeWritten r') : r.name = r'.name := h.reworded.congr Rule.name fun _ => rfl

theorem clientId_eq (h : r.TypeWritten r') : r.clientId = r'.clientId := h.reworded.congr Rule.clientId fun _ => rfl

theorem update (h : r.TypeWritten r') (f : Rule → Rule)
    (hf : ∀ s : Rule, f { s with patternType := none } = { f s with patternType := none })
    (htype : ∀ s, (f s).patternType = s.patternType) : (f r).TypeWritten (f r') := by
  constructor
  · rw [← hf, h.rest, hf]
  · rw [htype, htype]
    exact h.type

/-- The messages of the checks are the same, since they show the pattern of a rule but not its type. -/
theorem checkedAlike (h : r.TypeWritten r') : RuleSet.CheckedAlike r r' := by
  have hcheck := h.reworded.check_eq_of_pattern h.pattern_eq
  exact ⟨h.reworded.ruleNum_eq, h.reworded.validate_eq hcheck, h.reworded.validateRuntime_eq hcheck⟩

end TypeWritten
end Rule

namespace Provision
variable {rules rules' system system' : List Rule} {r r' : Rule}

theorem carries_typeWritten : Carries Eq Rule.TypeWritten Rule.TypeWritten where
  withKey := by
    intro r r' key key' h hkey
    subst hkey
    exact h.update (fun s => { s with secretKey := some key }) (fun _ => rfl) fun _ => rfl
  withPort h port := h.update (fun s => { s with httpProxyPort := some port }) (fun _ => rfl) fun _ => rfl
  ruleNum h := h.reworded.ruleNum_eq
  scheme h := h.reworded.scheme?_eq

section Preparing

theorem renumberRule_typeWritten (h : r.TypeWritten r') :
    InStep Rule.TypeWritten (renumberRule r) (renumberRule r') := by
  unfold renumberRule
  rw [← h.name_eq]
  cases r.name with
  | none => exact .ok h
  | some name =>
    simp only
    generalize Text.integer? (Text.trim name) = read
    cases read with
    | none => exact .error _
    | some n =>
      apply InStep.ok
      -- Both rules have the name that was read.
      exact h.update (fun s => { s with ruleNum := n, name := some name }) (fun _ => rfl) fun _ => rfl

theorem scope_typeWritten (clientId : Option String) (h : List.Forall₂ Rule.TypeWritten rules rules') :
    List.Forall₂ Rule.TypeWritten (scope clientId rules) (scope clientId rules') := by
  rw [scope, scope, List.forall₂_map_left_iff, List.forall₂_map_right_iff]
  have hkept : List.Forall₂ Rule.TypeWritten
      (rules.filter fun r => r.clientId = clientId || r.clientId = some allClients)
      (rules'.filter fun r => r.clientId = clientId || r.clientId = some allClients) := by
    apply List.rel_filter _ h
    intro r r' hr
    simp only [hr.clientId_eq]
  apply hkept.imp
  intro r r' hr
  exact hr.update (fun s => { s with clientId }) (fun _ => rfl) fun _ => rfl

theorem prepare_typeWritten (clientId : Option String) (socksPort : Int)
    (hsystem : List.Forall₂ Rule.TypeWritten system system') (h : List.Forall₂ Rule.TypeWritten rules rules') :
    InStep (List.Forall₂ Rule.TypeWritten) (prepare ⟨clientId, socksPort, system⟩ rules)
      (prepare ⟨clientId, socksPort, system'⟩ rules') := by
  have hrenumber : InStep (List.Forall₂ Rule.TypeWritten) (renumber rules) (renumber rules') :=
    InStep.mapM (h.imp fun _ _ => renumberRule_typeWritten)
  apply hrenumber.bind
  intro numbered numbered' hnumbered
  apply (InStep.of_eq (RuleSet.validate_congr (hnumbered.imp fun _ _ hr => hr.checkedAlike))).bind
  intro _ _ _
  apply InStep.ok
  rw [assignSocksPort, assignSocksPort, List.forall₂_map_left_iff, List.forall₂_map_right_iff]
  apply (List.rel_append (scope_typeWritten clientId hnumbered) hsystem).imp
  intro r r' hr
  exact hr.update (fun s => { s with socksServerPort := some socksPort }) (fun _ => rfl) fun _ => rfl

end Preparing

/-- Types may be written out, with blanks around them: the checks of a set of rules end in the same way, to the wording
of their errors, and so does provisioning without a log, which draws the same and hands out the same rules with their
types as they are given. -/
theorem provision_of_typesWritten (h : List.Forall₂ Rule.TypeWritten rules rules') :
    RuleSet.validate rules = RuleSet.validate rules' ∧ RuleSet.validateRuntime rules = RuleSet.validateRuntime rules' ∧
    ∀ supply clientId socksPort system system' l, List.Forall₂ Rule.TypeWritten system system' →
      let outcome := provision supply false ⟨clientId, socksPort, system⟩ rules l
      let outcome' := provision supply false ⟨clientId, socksPort, system'⟩ rules' l
      InStep (List.Forall₂ Rule.TypeWritten) outcome.result outcome'.result ∧
        outcome.ledger = outcome'.ledger ∧ outcome.events = outcome'.events := by
  have hchecked {served served' : List Rule} (hserved : List.Forall₂ Rule.TypeWritten served served') :
      List.Forall₂ RuleSet.CheckedAlike served served' := hserved.imp fun _ _ hr => hr.checkedAlike
  refine ⟨RuleSet.validate_congr (hchecked h), RuleSet.validateRuntime_congr (hchecked h), ?_⟩
  intro supply clientId socksPort system system' l hsystem
  have halike : (provision supply false ⟨clientId, socksPort, system⟩ rules l).Alike Eq
      (List.Forall₂ Rule.TypeWritten) (provision supply false ⟨clientId, socksPort, system'⟩ rules' l) := by
    apply provision_inStep carries_typeWritten biUnique_eq (.refl supply)
    · exact prepare_typeWritten clientId socksPort hsystem h
    · intro served served' hserved
      exact RuleSet.validateRuntime_congr (hchecked hserved)
    · intro served served' _
      rfl
    · exact .refl l
  exact ⟨halike.result, halike.ledger.eq, halike.events⟩

section Sample

open AccessGate.Agent (sampleMachine sampleRule sampleRules)

def writtenRules : List Rule :=
  [{ sampleRule 1 "http://wiki" .urlExact with patternType := some (.written " URLEXACT\t") },
    sampleRule 2 "https://tls:8443" .hostPort,
    { sampleRule 3 "socket://[::1]:22" .hostPort with patternType := some (.written "HOSTPORT") }]

theorem provision_of_typesWritten_sample : List.Forall₂ Rule.TypeWritten sampleRules writtenRules ∧
    RuleSet.validate sampleRules = RuleSet.validate writtenRules ∧
    InStep (List.Forall₂ Rule.TypeWritten)
      (provision sampleMachine.toSupply false ⟨some "c", 1080, []⟩ sampleRules {}).result
      (provision sampleMachine.toSupply false ⟨some "c", 1080, []⟩ writtenRules {}).result ∧
    ∃ served, (provision sampleMachine.toSupply false ⟨some "c", 1080, []⟩ writtenRules {}).result = .ok served := by
  have hexact : PatternTypeField.WrittenOut (.known .urlExact) (.written (" " ++ "URLEXACT" ++ "\t")) :=
    .name .urlExact (List.all_eq_true.mp rfl) (List.all_eq_true.mp rfl)
  have hhost : PatternTypeField.WrittenOut (.known .hostPort) (.written ("" ++ "HOSTPORT" ++ "")) :=
    .name .hostPort (List.all_eq_true.mp rfl) (List.all_eq_true.mp rfl)
  have hrules : List.Forall₂ Rule.TypeWritten sampleRules writtenRules :=
    .cons ⟨rfl, .some hexact⟩ (.cons (.refl _) (.cons ⟨rfl, .some hhost⟩ .nil))
  obtain ⟨hvalidate, _, hprovision⟩ := provision_of_typesWritten hrules
  have hrun := hprovision sampleMachine.toSupply (some "c") 1080 [] [] {} .nil
  exact ⟨hrules, hvalidate, hrun.1, _, rfl⟩

end Sample

end Provision
end AccessGate
