import AccessGate.Proofs.Provision.Keys
import AccessGate.Proofs.Provision.Ports
import AccessGate.Provision.Basic

/-! # The course of provisioning

Provisioning goes through its stages in one order, and may end at each of them. The ledger and what has
been told by then are those of the last stage that was reached. -/
namespace AccessGate.Provision

/-- How provisioning ends, and with what: one case for each stage that may fail, and one for success. -/
inductive Course (supply : Supply) (logging : Bool) (request : Request) (rules : List Rule) (l : Ledger) :
    Outcome (List Rule) → Prop
  | unprepared {e : RuleError} (hprepare : prepare request rules = .error e) :
      Course supply logging request rules l ⟨.error (.rule e), l, []⟩
  | keyless {ready : List Rule} {e : RuleError} {l₁ : Ledger}
      (hprepare : prepare request rules = .ok ready)
      (hkeys : assignKeys supply.secret ready l = (.error e, l₁)) :
      Course supply logging request rules l ⟨.error (.rule e), l₁, []⟩
  | portless {ready keyed : List Rule} {e : RuleError} {l₁ l₂ : Ledger} {events : List Event}
      (hprepare : prepare request rules = .ok ready)
      (hkeys : assignKeys supply.secret ready l = (.ok keyed, l₁))
      (hports : allocatePorts supply.port keyed l₁ = (.error e, l₂, events)) :
      Course supply logging request rules l ⟨.error (.rule e), l₂, told logging events⟩
  | refused {ready keyed served : List Rule} {e : RuleError} {l₁ l₂ : Ledger} {events : List Event}
      (hprepare : prepare request rules = .ok ready)
      (hkeys : assignKeys supply.secret ready l = (.ok keyed, l₁))
      (hports : allocatePorts supply.port keyed l₁ = (.ok served, l₂, events))
      (hcheck : RuleSet.validateRuntime served = .error e) :
      Course supply logging request rules l ⟨.error (.rule e), l₂, told logging events⟩
  | unannounced {ready keyed served : List Rule} {f : Failure} {l₁ l₂ : Ledger} {events : List Event}
      (hprepare : prepare request rules = .ok ready)
      (hkeys : assignKeys supply.secret ready l = (.ok keyed, l₁))
      (hports : allocatePorts supply.port keyed l₁ = (.ok served, l₂, events))
      (hcheck : RuleSet.validateRuntime served = .ok ())
      (hannounce : announce logging request.clientId served = .error f) :
      Course supply logging request rules l ⟨.error f, l₂, told logging events⟩
  | served {ready keyed served : List Rule} {l₁ l₂ : Ledger} {events last : List Event}
      (hprepare : prepare request rules = .ok ready)
      (hkeys : assignKeys supply.secret ready l = (.ok keyed, l₁))
      (hports : allocatePorts supply.port keyed l₁ = (.ok served, l₂, events))
      (hcheck : RuleSet.validateRuntime served = .ok ())
      (hannounce : announce logging request.clientId served = .ok last) :
      Course supply logging request rules l ⟨.ok served, l₂, told logging events ++ last⟩

variable {supply : Supply} {logging : Bool} {request : Request} {rules : List Rule} {l : Ledger}

theorem provision_course (supply : Supply) (logging : Bool) (request : Request) (rules : List Rule)
    (l : Ledger) :
    Course supply logging request rules l (provision supply logging request rules l) := by
  unfold provision
  split
  · exact .unprepared ‹_›
  · split
    · exact .keyless ‹_› ‹_›
    · split
      · exact .portless ‹_› ‹_› ‹_›
      · split
        · exact .refused ‹_› ‹_› ‹_› ‹_›
        · split
          · exact .unannounced ‹_› ‹_› ‹_› ‹_› ‹_›
          · exact .served ‹_› ‹_› ‹_› ‹_› ‹_›

theorem Course.eq {o : Outcome (List Rule)} (h : Course supply logging request rules l o) :
    provision supply logging request rules l = o := by
  cases h with
  | unprepared hprepare => simp only [provision, hprepare]
  | keyless hprepare hkeys => simp only [provision, hprepare, hkeys]
  | portless hprepare hkeys hports => simp only [provision, hprepare, hkeys, hports]
  | refused hprepare hkeys hports hcheck => simp only [provision, hprepare, hkeys, hports, hcheck]
  | unannounced hprepare hkeys hports hcheck hannounce =>
    simp only [provision, hprepare, hkeys, hports, hcheck, hannounce]
  | served hprepare hkeys hports hcheck hannounce =>
    simp only [provision, hprepare, hkeys, hports, hcheck, hannounce]

end AccessGate.Provision
