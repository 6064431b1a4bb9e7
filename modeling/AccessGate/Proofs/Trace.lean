import AccessGate.Proofs.Access
import AccessGate.Proofs.Log.Record
import AccessGate.Proofs.Provision.Failure

/-! # What a refresh tells

The log of a refresh begins with the ports that were allocated, in the order of the rules. If all rules are
ready, they are told of next, and the last event is the outcome of the whole: the count of the credentials, or
the error. -/
namespace AccessGate

/-- `r.DescribedBy s`: the pattern type of `r` is known, and `s` has what a log may hold of the rule. -/
def Rule.DescribedBy (r : Rule) (s : RuleSummary) : Prop :=
  ∃ t, r.patternType = some (.known t) ∧ s = ⟨r.ruleNum, r.pattern, some t.name, r.httpProxyPort⟩

theorem Rule.describedBy_of_summary {r : Rule} {s : RuleSummary} (hcheck : r.check = .ok ())
    (h : r.summary = .ok s) : r.DescribedBy s := by
  obtain ⟨_, _, _, _, read, _, t, htype, _⟩ := check_eq_ok_iff.mp hcheck
  unfold summary at h
  -- A summary without a type is that of a rule without one, or with an empty text, and neither is valid.
  split at h
  · rename_i hnone
    rw [hnone] at htype
    cases htype
  · rename_i known hknown
    exact ⟨known, hknown, (Except.ok.inj h).symm⟩
  · rename_i text hwritten
    rw [hwritten] at htype
    split at h
    · rename_i hempty
      obtain rfl := String.isEmpty_iff.mp hempty
      cases htype
    · cases h

theorem Event.provisionedOf_eq_ok_iff {client : Option String} {rules : List Rule} {e : Event} :
    provisionedOf client rules = .ok e ↔ ∃ summaries,
      List.Forall₂ (fun r s => r.summary = .ok s) rules summaries ∧ e = .provisioned client summaries := by
  rw [provisionedOf, bind_eq_ok_iff]
  simp only [mapM_eq_ok_iff, pure_eq_ok_iff, @eq_comm Event e]

namespace Provision
variable {supply : Supply} {logging : Bool} {request : Request} {rules served : List Rule} {l : Ledger}

theorem events_of_provision_ok (h : (provision supply true request rules l).result = .ok served) :
    ∃ ports summaries, PortsTold served ports ∧ List.Forall₂ Rule.DescribedBy served summaries ∧
      (provision supply true request rules l).events =
        ports ++ [.provisioned request.clientId summaries] := by
  have hcheck := check_of_provision h
  have hcourse := provision_course supply true request rules l
  generalize provision supply true request rules l = out at h hcourse
  cases hcourse with
  | served hprepare hkeys hports _ hannounce =>
    cases h
    obtain ⟨_, _, htold, _⟩ := equipped_of_stages hprepare hkeys hports
    rw [announce, if_pos rfl, map_eq_ok_iff] at hannounce
    obtain ⟨_, hprovisioned, rfl⟩ := hannounce
    obtain ⟨summaries, hsummaries, rfl⟩ := Event.provisionedOf_eq_ok_iff.mp hprovisioned
    have hdescribed : List.Forall₂ Rule.DescribedBy served summaries := by
      refine List.forall₂_iff_get.mpr ⟨hsummaries.length_eq, fun i hi hi' => ?_⟩
      exact Rule.describedBy_of_summary (hcheck _ (List.get_mem _ _)) (hsummaries.get hi hi')
    exact ⟨_, summaries, htold, hdescribed, rfl⟩
  | _ => cases h

theorem events_of_provision_error {f : Failure} (h : (provision supply true request rules l).result = .error f) :
    ∀ e ∈ (provision supply true request rules l).events, ∃ ruleNum p, e = .portAllocated ruleNum p := by
  generalize hout : provision supply true request rules l = out at h
  obtain ⟨_, l', events⟩ := out
  cases h
  cases failed_of_provision hout with
  | unprepared | keyless => simp
  | portless _ _ _ _ htold | refused _ _ htold | unannounced _ _ _ htold => exact htold.allocations

end Provision

namespace Agent

open AccessGate.Provision

variable {machine : Machine} {config : Config} {rules : List Rule} {l : Ledger} {ready : Ready}

theorem refresh_events_of_ok (h : (refresh machine config rules l).result = .ok ready) :
    (refresh machine config rules l).events =
      (provision machine.toSupply true (request config) rules l).events ++
        [.credentialsProjected ready.credentials.length ready.listener.port] := by
  have hresult := h
  rw [refresh_result] at hresult
  simp only [refresh, hresult]

theorem refresh_events_of_error {f : Failure} (h : (refresh machine config rules l).result = .error f) :
    (refresh machine config rules l).events =
      (provision machine.toSupply true (request config) rules l).events ++ rejection f := by
  have hresult := h
  rw [refresh_result] at hresult
  simp only [refresh, hresult]

theorem refresh_told_of_ok (h : (refresh machine config rules l).result = .ok ready) :
    ∃ ports summaries, PortsTold ready.rules ports ∧ List.Forall₂ Rule.DescribedBy ready.rules summaries ∧
      (refresh machine config rules l).events =
        ports ++ [.provisioned (some config.clientId) summaries,
          .credentialsProjected ready.rules.length config.socksServerPort] := by
  have hresult := h
  rw [refresh_result, bind_eq_ok_iff] at hresult
  obtain ⟨served, hserved, hconnect⟩ := hresult
  obtain ⟨⟨address, _, hlistener⟩, rfl, hproject⟩ := connect_eq_ok_iff.mp hconnect
  have hcount := (projectCredentials_eq_ok_iff.mp hproject).1.length_eq
  obtain ⟨ports, summaries, htold, hdescribed, hevents⟩ := events_of_provision_ok hserved
  refine ⟨ports, summaries, htold, hdescribed, ?_⟩
  rw [refresh_events_of_ok h, hevents, hlistener, ← hcount, List.append_assoc]
  rfl

theorem refresh_told_of_rejection {e : RuleError} (h : (refresh machine config rules l).result = .error (.rule e)) :
    ∃ ports announced, (∀ x ∈ ports, ∃ ruleNum p, x = .portAllocated ruleNum p) ∧
      (refresh machine config rules l).events = ports ++ announced ++ [.ruleRejected "provision" e] ∧
      ((∃ f, (provision machine.toSupply true (request config) rules l).result = .error f) ∧ announced = [] ∨
        ∃ served summaries,
          (provision machine.toSupply true (request config) rules l).result = .ok served ∧
          PortsTold served ports ∧ List.Forall₂ Rule.DescribedBy served summaries ∧
          announced = [.provisioned (some config.clientId) summaries]) := by
  rw [refresh_events_of_error h]
  cases hprovision : (provision machine.toSupply true (request config) rules l).result with
  | error f =>
    refine ⟨_, [], events_of_provision_error hprovision, ?_, .inl ⟨⟨f, rfl⟩, rfl⟩⟩
    rw [List.append_nil]
    rfl
  | ok served =>
    obtain ⟨ports, summaries, htold, hdescribed, hevents⟩ := events_of_provision_ok hprovision
    refine ⟨ports, _, htold.allocations, ?_, .inr ⟨served, summaries, rfl, htold, hdescribed, rfl⟩⟩
    rw [hevents]
    rfl

/-- On a success the log has one event for each rule for plain http, in their order and with its number and its
port, then one that describes the rules, then the count of the credentials and the port of the listener. On an
error of the gate it ends with the one event of the error, and holds no count; and the rules are told of only
when provisioning succeeded. Each event is recorded with all that it holds: that of an error with its kind, the number
of its rule and its message. -/
theorem refresh_events (machine : Machine) (config : Config) (rules : List Rule) (l : Ledger) :
    (∀ ready, (refresh machine config rules l).result = .ok ready →
      ∃ ports summaries, PortsTold ready.rules ports ∧ List.Forall₂ Rule.DescribedBy ready.rules summaries ∧
        (refresh machine config rules l).events =
          ports ++ [.provisioned (some config.clientId) summaries,
            .credentialsProjected ready.rules.length config.socksServerPort]) ∧
    (∀ e, (refresh machine config rules l).result = .error (.rule e) →
      ∃ ports announced, (∀ x ∈ ports, ∃ ruleNum p, x = .portAllocated ruleNum p) ∧
        (refresh machine config rules l).events = ports ++ announced ++ [.ruleRejected "provision" e] ∧
        ((∃ f, (provision machine.toSupply true (request config) rules l).result = .error f) ∧ announced = [] ∨
          ∃ served summaries,
            (provision machine.toSupply true (request config) rules l).result = .ok served ∧
            PortsTold served ports ∧ List.Forall₂ Rule.DescribedBy served summaries ∧
            announced = [.provisioned (some config.clientId) summaries])) ∧
    ∀ time, ∀ event ∈ (refresh machine config rules l).events, event.Recorded time (event.toJson time) := by
  refine ⟨?_, ?_, ?_⟩
  · intro ready h
    exact refresh_told_of_ok h
  · intro e h
    exact refresh_told_of_rejection h
  · intro time event _
    exact Event.recorded_iff.mpr rfl

/-- A listener that is to be opened on a host that nobody knows. -/
def lostConfig : Config := { sampleConfig with socksBindHost := "nowhere" }

theorem refresh_events_sample : ∃ e before,
    (refresh sampleMachine lostConfig sampleRules {}).result = .error (.rule e) ∧
    (refresh sampleMachine lostConfig sampleRules {}).events = before ++ [.ruleRejected "provision" e] ∧
    Event.Recorded "T" (.ruleRejected "provision" e)
      (.obj [("event", .str "rule_rejected"), ("ts", .str "T"), ("stage", .str "provision"),
        ("kind", .str "provisioning"), ("rule", .null), ("reason", .str "Couldnt lookup bind host 'nowhere'")]) := by
  obtain ⟨_, hrejected, hrecorded⟩ := refresh_events sampleMachine lostConfig sampleRules {}
  obtain ⟨e, hresult, hmessage⟩ : ∃ e, (refresh sampleMachine lostConfig sampleRules {}).result = .error (.rule e) ∧
      e = ⟨.supply (.unknownBindHost "nowhere"), none⟩ := ⟨_, rfl, rfl⟩
  obtain ⟨ports, announced, _, hevents, _⟩ := hrejected e hresult
  have hlast := hrecorded "T" (.ruleRejected "provision" e) (by simp [hevents])
  subst hmessage
  exact ⟨_, _, hresult, hevents, hlast⟩

end Agent
end AccessGate
