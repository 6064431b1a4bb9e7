import AccessGate.Proofs.Access
import AccessGate.Proofs.Provision.InStep
import AccessGate.Proofs.Rule.Wording

/-! # Blanks around patterns

Every function that looks at a pattern trims it first. So a pattern may be padded with blanks: the rule is checked, gets
its local port and leads to its endpoint as it did without them. -/
namespace AccessGate

open Text (isBlank)

namespace Rule
variable {r r' : Rule} {before after : String}

def padded (before after : String) (r : Rule) : Rule :=
  { r with pattern := r.pattern.map fun pattern => before ++ pattern ++ after }

/-- Rules that differ in the blanks around their patterns alone. -/
inductive Padded (r : Rule) : Rule → Prop
  | mk {before after : String} (hbefore : ∀ c ∈ before.toList, isBlank c = true)
      (hafter : ∀ c ∈ after.toList, isBlank c = true) : r.Padded (r.padded before after)

namespace Padded

theorem refl (r : Rule) : r.Padded r := by
  have hself : r.padded "" "" = r := by
    obtain ⟨_, _, _, _, pattern, _, _, _, _, _⟩ := r
    cases pattern <;> simp [padded]
  have hpadded : r.Padded (r.padded "" "") := .mk (by simp) (by simp)
  rwa [hself] at hpadded

theorem reworded (h : r.Padded r') : r.Reworded r' := by
  obtain ⟨hbefore, hafter⟩ := h
  refine ⟨rfl, ?_, rfl⟩
  cases hpattern : r.pattern with
  | none => simp [padded, hpattern]
  | some pattern => simp [padded, hpattern, Text.trim_padded hbefore hafter]

theorem forall₂_replaced (h : r.Padded r') (front back : List Rule) :
    List.Forall₂ Padded (front ++ r :: back) (front ++ r' :: back) := by
  have hsame (rules : List Rule) : List.Forall₂ Padded rules rules :=
    List.forall₂_same.mpr fun s _ => .refl s
  exact List.rel_append (hsame front) (.cons h (hsame back))

end Padded
end Rule

namespace Provision
variable {rules rules' : List Rule}

theorem carries_padded : Carries Eq Rule.Padded Rule.Padded where
  withKey := by
    intro r r' key key' h hkey
    obtain ⟨hbefore, hafter⟩ := h
    subst hkey
    exact .mk hbefore hafter
  withPort := by
    intro r r' h port
    obtain ⟨hbefore, hafter⟩ := h
    exact .mk hbefore hafter
  ruleNum h := h.reworded.ruleNum_eq
  scheme h := h.reworded.scheme?_eq

theorem allocatePorts_padded (port : Nat → Except String Int) (h : List.Forall₂ Rule.Padded rules rules') (l : Ledger) :
    InStep (List.Forall₂ Rule.Padded) (allocatePorts port rules l).1 (allocatePorts port rules' l).1 ∧
      (allocatePorts port rules l).2 = (allocatePorts port rules' l).2 := by
  obtain ⟨hresult, hledger, hevents⟩ := allocatePorts_inStep carries_padded port h (.refl l)
  exact ⟨hresult, Prod.ext hledger.eq hevents⟩

end Provision

namespace Rule

open Provision

/-- Blanks around the pattern of a rule do not count: not for its scheme, its host and its port, nor for the verdicts of
the checks, whose errors are the same to the wording if the number of the rule is positive. Among whatever other rules
it stands, it gets a local port or none as before, and the credentials or the error of the projection are the same. -/
theorem padded_alike {before after : String} (hbefore : ∀ c ∈ before.toList, isBlank c = true)
    (hafter : ∀ c ∈ after.toList, isBlank c = true) (r : Rule) :
    let r' := r.padded before after
    r.scheme? = r'.scheme? ∧
    (r.validate.mapError RuleError.verdict = r'.validate.mapError RuleError.verdict ∧
      r.validateRuntime.mapError RuleError.verdict = r'.validateRuntime.mapError RuleError.verdict) ∧
    (0 < r.ruleNum → r.validate = r'.validate ∧ r.validateRuntime = r'.validateRuntime) ∧
    r.httpsHost = r'.httpsHost ∧ r.httpsPort = r'.httpsPort ∧
    (∀ port front back l,
      InStep (List.Forall₂ Padded) (allocatePorts port (front ++ r :: back) l).1
        (allocatePorts port (front ++ r' :: back) l).1 ∧
      (allocatePorts port (front ++ r :: back) l).2 = (allocatePorts port (front ++ r' :: back) l).2) ∧
    ∀ loopback front back,
      projectCredentials loopback (front ++ r :: back) = projectCredentials loopback (front ++ r' :: back) := by
  intro r'
  have hpadded : r.Padded r' := .mk hbefore hafter
  have hreworded := hpadded.reworded
  refine ⟨hreworded.scheme?_eq, hreworded.verdicts_eq, ?_, hreworded.httpsHost_eq, hreworded.httpsPort_eq, ?_, ?_⟩
  · intro hpos
    have hcheck := hreworded.check_eq_of_pos hpos
    exact ⟨hreworded.validate_eq hcheck, hreworded.validateRuntime_eq hcheck⟩
  · intro port front back l
    exact allocatePorts_padded port (hpadded.forall₂_replaced front back) l
  · intro loopback front back
    apply Reworded.projectFrom_eq
    apply (hpadded.forall₂_replaced front back).imp
    exact fun _ _ hs => hs.reworded

section Sample

open AccessGate.Agent (sampleRule)

def numberlessSample : Rule := sampleRule 0 "http://wiki.corp" .urlExact

theorem padded_alike_sample :
    (∀ c ∈ " \t".toList, isBlank c = true) ∧ (∀ c ∈ "\u2003".toList, isBlank c = true) ∧
    numberlessSample.validate.mapError RuleError.message =
      .error "Resource 0 (http://wiki.corp) must have ruleNum greater than 0." ∧
    numberlessSample.validate.mapError RuleError.verdict =
      (numberlessSample.padded " \t" "\u2003").validate.mapError RuleError.verdict ∧
    (allocatePorts Agent.sampleMachine.port [numberlessSample.padded " \t" "\u2003"] {}).2.1.portCalls = 1 := by
  have hbefore : ∀ c ∈ " \t".toList, isBlank c = true := List.all_eq_true.mp rfl
  have hafter : ∀ c ∈ "\u2003".toList, isBlank c = true := List.all_eq_true.mp rfl
  obtain ⟨_, ⟨hverdict, _⟩, _, _, _, hports, _⟩ := padded_alike hbefore hafter numberlessSample
  have hcalls := congrArg (fun after => after.1.portCalls) (hports Agent.sampleMachine.port [] [] {}).2
  exact ⟨hbefore, hafter, rfl, hverdict, hcalls.symm⟩

end Sample

end Rule
end AccessGate
