import AccessGate.Proofs.Provision.InStep

/-! # Provisioning with other secrets

Two machines are compared that differ in their secrets alone. `R` relates a key of the one to the key of the
other that stands in its place. The rules that both hand out differ in their keys alone, which no stage of
provisioning looks at; so both machines go the same way. -/
namespace AccessGate

/-- A rule with its key blotted out; that it has one still shows. -/
def Rule.redacted (r : Rule) : Rule := { r with secretKey := r.secretKey.map fun _ => "" }

structure Rule.Alike (R : String → String → Prop) (r r' : Rule) : Prop where
  shown : r.redacted = r'.redacted
  key : Option.Rel R r.secretKey r'.secretKey

namespace Rule.Alike
variable {R : String → String → Prop} {r r' : Rule}

theorem congr {α : Type} (h : r.Alike R r') (f : Rule → α) (hf : ∀ s : Rule, f s.redacted = f s) :
    f r = f r' := by
  rw [← hf r, h.shown, hf]

theorem ruleNum_eq (h : r.Alike R r') : r.ruleNum = r'.ruleNum :=
  h.congr Rule.ruleNum fun _ => rfl

theorem withPort (h : r.Alike R r') (port : Option Int) :
    Rule.Alike R { r with httpProxyPort := port } { r' with httpProxyPort := port } :=
  ⟨congrArg (fun s : Rule => { s with httpProxyPort := port }) h.shown, h.key⟩

end Rule.Alike

section Checks

theorem Rule.validateRuntime_redacted (r : Rule) : r.redacted.validateRuntime = r.validateRuntime := by
  have hnone : r.redacted.secretKey.isNone = r.secretKey.isNone := Option.isNone_map
  unfold validateRuntime checkRuntime
  rw [hnone]
  rfl

theorem RuleSet.validateRuntime_map_redacted (rules : List Rule) :
    validateRuntime (rules.map Rule.redacted) = validateRuntime rules :=
  validateRuntime_map fun r _ => ⟨rfl, rfl, r.validateRuntime_redacted⟩

theorem Event.provisionedOf_map_redacted (client : Option String) (rules : List Rule) :
    provisionedOf client (rules.map Rule.redacted) = provisionedOf client rules := by
  rw [provisionedOf, List.mapM_map]
  rfl

end Checks

namespace Provision
variable {R : String → String → Prop} {l l' : Ledger} {rules rules' : List Rule}

theorem map_redacted_of_alike (h : List.Forall₂ (Rule.Alike R) rules rules') :
    rules.map Rule.redacted = rules'.map Rule.redacted := by
  induction h with
  | nil => rfl
  | cons hr _ ih => rw [List.map_cons, List.map_cons, hr.shown, ih]

theorem validateRuntime_alike (h : List.Forall₂ (Rule.Alike R) rules rules') :
    RuleSet.validateRuntime rules = RuleSet.validateRuntime rules' := by
  rw [← RuleSet.validateRuntime_map_redacted, map_redacted_of_alike h, RuleSet.validateRuntime_map_redacted]

theorem announce_alike (logging : Bool) (clientId : Option String) (h : List.Forall₂ (Rule.Alike R) rules rules') :
    announce logging clientId rules = announce logging clientId rules' := by
  rw [announce, announce, ← Event.provisionedOf_map_redacted, map_redacted_of_alike h,
    Event.provisionedOf_map_redacted]

theorem carries_alike (R : String → String → Prop) : Carries R Eq (Rule.Alike R) where
  withKey := by
    intro r r' key key' h hkey
    subst h
    exact ⟨rfl, .some hkey⟩
  withPort h port := h.withPort (some port)
  ruleNum h := h.ruleNum_eq
  scheme h := h.congr Rule.scheme? fun _ => rfl

/-- Provisioning with other secrets ends in the same way, with rules that differ in their keys alone. -/
theorem provision_alike {supply supply' : Supply} (hR : Relator.BiUnique R)
    (hsupply : supply.Alike R supply') (logging : Bool) (request : Request) (rules : List Rule)
    (h : l.Alike R l') :
    (provision supply logging request rules l).Alike R (List.Forall₂ (Rule.Alike R))
      (provision supply' logging request rules l') := by
  apply provision_inStep (carries_alike R) hR hsupply
  · exact .refl List.forall₂_refl (prepare request rules)
  · exact validateRuntime_alike
  · exact announce_alike logging request.clientId
  · exact h

end Provision
end AccessGate
