import AccessGate.Agent.Basic
import AccessGate.Proofs.Authentication
import AccessGate.Proofs.Credentials
import AccessGate.Proofs.Provision.Course

/-! # Access

Whatever is in force after the rules were made ready, a user gets to a host and port exactly when the user
shows the key of a rule that leads there. No credential is lost, merged with another one or hidden by it. -/
namespace AccessGate.Agent

open AccessGate.Provision

variable {machine : Machine} {config : Config} {rules : List Rule} {l : Ledger} {ready : Ready}

theorem connect_eq (machine : Machine) (config : Config) (rules : List Rule) :
    connect machine config rules = match machine.resolve config.socksBindHost with
      | none => .error (.rule ⟨.supply (.unknownBindHost config.socksBindHost), none⟩)
      | some address => (projectCredentials loopbackAddress rules).map fun credentials =>
          ⟨rules, credentials, ⟨address, config.socksServerPort⟩⟩ := by
  unfold connect Listener.ofHost bindAddress
  cases machine.resolve config.socksBindHost with
  | none => rfl
  | some address => cases projectCredentials loopbackAddress rules <;> rfl

theorem connect_eq_ok_iff : connect machine config rules = .ok ready ↔
    (∃ address, machine.resolve config.socksBindHost = some address ∧
      ready.listener = ⟨address, config.socksServerPort⟩) ∧
    ready.rules = rules ∧ projectCredentials loopbackAddress rules = .ok ready.credentials := by
  rw [connect_eq]
  cases machine.resolve config.socksBindHost with
  | none => simp
  | some address =>
    simp only [map_eq_ok_iff]
    constructor
    · intro h
      obtain ⟨credentials, hproject, rfl⟩ := h
      exact ⟨⟨address, rfl, rfl⟩, rfl, hproject⟩
    · intro h
      obtain ⟨⟨_, haddress, hlistener⟩, rfl, hproject⟩ := h
      cases haddress
      refine ⟨ready.credentials, hproject, ?_⟩
      rw [← hlistener]

theorem refresh_result (machine : Machine) (config : Config) (rules : List Rule) (l : Ledger) :
    (refresh machine config rules l).result =
      (provision machine.toSupply true (request config) rules l).result >>= connect machine config := by
  cases h : (provision machine.toSupply true (request config) rules l).result >>= connect machine config <;>
    simp only [refresh, h]

theorem refresh_ledger (machine : Machine) (config : Config) (rules : List Rule) (l : Ledger) :
    (refresh machine config rules l).ledger =
      (provision machine.toSupply true (request config) rules l).ledger := by
  cases h : (provision machine.toSupply true (request config) rules l).result >>= connect machine config <;>
    simp only [refresh, h]

/-- What is in force after a success: rules that provisioning served, with the credentials they grant. -/
theorem refresh_eq_ok (h : (refresh machine config rules l).result = .ok ready) :
    (provision machine.toSupply true (request config) rules l).result = .ok ready.rules ∧
      List.Forall₂ (Rule.Grants loopbackAddress) ready.rules ready.credentials ∧
      (Keyed.keys ready.credentials).Nodup := by
  rw [refresh_result, bind_eq_ok_iff] at h
  obtain ⟨served, hserved, hconnect⟩ := h
  obtain ⟨_, rfl, hproject⟩ := connect_eq_ok_iff.mp hconnect
  exact ⟨hserved, projectCredentials_eq_ok_iff.mp hproject⟩

/-- After a success, a user name that is not empty opens a host and port exactly when it is the key of a rule
that leads there, and there is one credential for each rule, in the order of the rules. -/
theorem refresh_permit_iff (h : (refresh machine config rules l).result = .ok ready) :
    (∀ username host port, ready.authenticator.permit username host port = true ↔
      username ≠ "" ∧ ∃ r ∈ ready.rules, r.secretKey = some username ∧
        r.LeadsTo "127.0.0.1" ⟨host, port⟩) ∧
    List.Forall₂ (Rule.Grants "127.0.0.1") ready.rules ready.credentials ∧
    ready.rules.length = ready.credentials.length ∧
    ready.credentials.length = ready.authenticator.size := by
  obtain ⟨_, hgrants, hnodup⟩ := refresh_eq_ok h
  have hsame : ready.authenticator.credentials = ready.credentials := Keyed.ofList_of_nodup hnodup
  refine ⟨fun username host port => ?_, hgrants, hgrants.length_eq, ?_⟩
  · rw [Authenticator.permit_iff, Authenticator.authenticate_eq_ok_iff, hsame]
    exact and_congr_right fun _ => mem_credentials_iff hgrants
  · rw [Authenticator.size, hsame]

section Sample

def sampleConfig : Config where
  clientId := "c"
  user := "admin"
  domain := "example.com"
  rulesPath := "rules.json"
  socksBindHost := "localhost"
  socksServerPort := 1080
  healthzPort := 8123
  healthzGadgetUsers := .none
  logPath := "gate.log"

/-- A machine that knows one host. Each of its secrets comes twice, and the first one is the empty text. -/
def sampleMachine : Machine where
  secret n := String.ofList (List.replicate (n / 2) 'k')
  port n := .ok (40000 + n)
  resolve host := if host = "localhost" then some "127.0.0.1" else none

def sampleRule (ruleNum : Int) (pattern : String) (t : PatternType) : Rule :=
  { ruleNum
    clientId := some "all"
    allowedEntities := ["ops@example.com"]
    apps := [⟨some "gadgets", some "wiki"⟩]
    pattern := some pattern
    patternType := some (.known t) }

def sampleRules : List Rule :=
  [sampleRule 1 "http://wiki" .urlExact, sampleRule 2 "https://tls:8443" .hostPort,
    sampleRule 3 "socket://[::1]:22" .hostPort]

theorem refresh_permit_iff_sample : ∃ ready,
    (refresh sampleMachine sampleConfig sampleRules {}).result = .ok ready ∧
    ready.credentials = [("", ⟨"127.0.0.1", 40000⟩), ("k", ⟨"tls", 8443⟩), ("kk", ⟨"::1", 22⟩),
      ("kkk", ⟨"127.0.0.1", 40001⟩)] ∧
    (∀ username host port, ready.authenticator.permit username host port = true ↔
      username ≠ "" ∧ ∃ r ∈ ready.rules, r.secretKey = some username ∧
        r.LeadsTo "127.0.0.1" ⟨host, port⟩) := by
  obtain ⟨ready, h⟩ : ∃ ready, (refresh sampleMachine sampleConfig sampleRules {}).result = .ok ready :=
    ⟨_, rfl⟩
  have hcredentials : (refresh sampleMachine sampleConfig sampleRules {}).result.toOption.map
      Ready.credentials = some [("", ⟨"127.0.0.1", 40000⟩), ("k", ⟨"tls", 8443⟩), ("kk", ⟨"::1", 22⟩),
        ("kkk", ⟨"127.0.0.1", 40001⟩)] := rfl
  rw [h] at hcredentials
  exact ⟨ready, h, Option.some.inj hcredentials, (refresh_permit_iff h).1⟩

end Sample
end AccessGate.Agent
