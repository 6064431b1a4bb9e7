import AccessGate.Proofs.Provision.Issue
import AccessGate.Proofs.Refusal
import AccessGate.Proofs.Trace

/-! # With a log and without

A log takes no part in the ledger: the same keys are given, and the same secrets and ports are asked for. The
answers are the same too, but for one case. A pattern type that is a text passes every check, and a log has no name
for it: the rules are ready, their keys and ports are taken, and the step fails all the same. -/
namespace AccessGate

theorem Rule.eq_unnamed_of_summary {r : Rule} {f : Failure} (h : r.summary = .error f) :
    f = .unnamedPatternType := by
  unfold summary at h
  split at h
  · cases h
  · cases h
  · split at h
    · cases h
    · exact (Except.error.inj h).symm

theorem Rule.typeKnown_of_summary {r : Rule} {s : RuleSummary} (hcheck : r.check = .ok ())
    (h : r.summary = .ok s) : r.TypeKnown := by
  obtain ⟨t, htype, _⟩ := describedBy_of_summary hcheck h
  intro text
  simp [htype]

theorem Event.provisionedOf_eq_error {client : Option String} {rules : List Rule} {f : Failure}
    (h : provisionedOf client rules = .error f) : f = .unnamedPatternType ∧ ∃ r ∈ rules, ¬r.TypeKnown := by
  cases hsummaries : rules.mapM Rule.summary with
  | ok summaries =>
    rw [provisionedOf, hsummaries] at h
    cases h
  | error f' =>
    rw [provisionedOf, hsummaries] at h
    cases h
    obtain ⟨before, r, after, rfl, _, hr⟩ := mapM_eq_error_iff.mp hsummaries
    have hunknown : ¬r.TypeKnown := fun hknown => hknown.summary_ne_error f hr
    exact ⟨Rule.eq_unnamed_of_summary hr, r, List.mem_append_right _ List.mem_cons_self, hunknown⟩

theorem Event.typeKnown_of_provisionedOf {client : Option String} {rules : List Rule} {e : Event}
    (hcheck : ∀ r ∈ rules, r.check = .ok ()) (h : provisionedOf client rules = .ok e) :
    ∀ r ∈ rules, r.TypeKnown := by
  obtain ⟨summaries, hsummaries, _⟩ := provisionedOf_eq_ok_iff.mp h
  have hsummary : ∀ r ∈ rules, ∃ s, r.summary = .ok s :=
    (List.forall₂_and_left _ _).mp (hsummaries.imp fun r s hs => ⟨⟨s, hs⟩, hs⟩) |>.1
  intro r hr
  obtain ⟨s, hs⟩ := hsummary r hr
  exact Rule.typeKnown_of_summary (hcheck r hr) hs

namespace Provision
variable {supply : Supply} {request : Request} {rules served : List Rule} {l : Ledger}

/-- A log that is kept adds nothing to provisioning but the attempt to tell of the rules that are served. -/
theorem provision_logged (supply : Supply) (request : Request) (rules : List Rule) (l : Ledger) :
    (provision supply true request rules l).ledger = (provision supply false request rules l).ledger ∧
    (provision supply true request rules l).result =
      (provision supply false request rules l).result >>= fun served =>
        (Event.provisionedOf request.clientId served).map fun _ => served := by
  have hcourse := provision_course supply false request rules l
  generalize provision supply false request rules l = out at hcourse
  cases hcourse with
  | unprepared hprepare =>
    rw [(Course.unprepared hprepare).eq]
    exact ⟨rfl, rfl⟩
  | keyless hprepare hkeys =>
    rw [(Course.keyless hprepare hkeys).eq]
    exact ⟨rfl, rfl⟩
  | portless hprepare hkeys hports =>
    rw [(Course.portless hprepare hkeys hports).eq]
    exact ⟨rfl, rfl⟩
  | refused hprepare hkeys hports hcheck =>
    rw [(Course.refused hprepare hkeys hports hcheck).eq]
    exact ⟨rfl, rfl⟩
  | unannounced _ _ _ _ hannounce => cases hannounce
  | @served _ _ served _ _ _ _ hprepare hkeys hports hcheck _ =>
    change _ ∧ _ = (Event.provisionedOf request.clientId served).map fun _ => served
    cases hevent : Event.provisionedOf request.clientId served with
    | error f =>
      have hannounce : announce true request.clientId served = .error f := by
        rw [announce, if_pos rfl, hevent]
        rfl
      rw [(Course.unannounced hprepare hkeys hports hcheck hannounce).eq]
      exact ⟨rfl, rfl⟩
    | ok e =>
      have hannounce : announce true request.clientId served = .ok [e] := by
        rw [announce, if_pos rfl, hevent]
        rfl
      rw [(Course.served hprepare hkeys hports hcheck hannounce).eq]
      exact ⟨rfl, rfl⟩

/-- The pattern types of the rules that are served are known exactly when those of the candidates are. -/
theorem typeKnown_of_provision (h : (provision supply false request rules l).result = .ok served) :
    (∀ r ∈ served, r.TypeKnown) ↔ ∀ r ∈ candidates request rules, r.TypeKnown := by
  have hauthored := map_authored_of_provision h
  have htypes : served.map Rule.patternType = (candidates request rules).map Rule.patternType := by
    have hsame := congrArg (List.map Rule.patternType) hauthored
    rwa [List.map_map, List.map_map] at hsame
  have hknown (rs : List Rule) :
      (∀ r ∈ rs, r.TypeKnown) ↔ ∀ t ∈ rs.map Rule.patternType, ∀ text, t ≠ some (.written text) := by
    rw [List.forall_mem_map]
    rfl
  rw [hknown, hknown, htypes]

/-- `call.Wordless supply l`: without a log the call is a provisioning that succeeds, and the pattern type of one
of its rules is a text. -/
def Call.Wordless (supply : Supply) (l : Ledger) (call : Call) : Prop :=
  ∃ request served, call.step = .provision request ∧
    (provision supply false request call.rules l).result = .ok served ∧
    ∃ r ∈ candidates request call.rules, ∃ text, r.patternType = some (.written text)

theorem provision_wordless_or_same (supply : Supply) (request : Request) (rules : List Rule) (l : Ledger) :
    (Call.Wordless supply l ⟨.provision request, rules⟩ ∧
      (provision supply true request rules l).result = .error .unnamedPatternType) ∨
    (¬Call.Wordless supply l ⟨.provision request, rules⟩ ∧
      (provision supply true request rules l).result = (provision supply false request rules l).result) := by
  rw [(provision_logged supply request rules l).2]
  cases hserved : (provision supply false request rules l).result with
  | error f =>
    refine .inr ⟨?_, rfl⟩
    intro hwordless
    obtain ⟨_, _, hstep, hresult, _⟩ := hwordless
    cases hstep
    rw [hserved] at hresult
    cases hresult
  | ok served =>
    change (_ ∧ (Event.provisionedOf request.clientId served).map _ = _) ∨
      (_ ∧ (Event.provisionedOf request.clientId served).map _ = _)
    cases hevent : Event.provisionedOf request.clientId served with
    | error f =>
      obtain ⟨rfl, hunknown⟩ := Event.provisionedOf_eq_error hevent
      refine .inl ⟨⟨request, served, rfl, hserved, ?_⟩, rfl⟩
      have hcandidates : ¬∀ r ∈ candidates request rules, r.TypeKnown := by
        rw [← typeKnown_of_provision hserved]
        simpa using hunknown
      simpa [Rule.TypeKnown] using hcandidates
    | ok e =>
      refine .inr ⟨?_, rfl⟩
      intro hwordless
      obtain ⟨_, _, hstep, _, r, hr, text, htext⟩ := hwordless
      cases hstep
      have hknown := Event.typeKnown_of_provisionedOf (check_of_provision hserved) hevent
      exact (typeKnown_of_provision hserved).mp hknown r hr text htext

namespace Call

theorem not_wordless_of_other {call : Call} (h : ∀ request, call.step ≠ .provision request) :
    ¬call.Wordless supply l := by
  intro hwordless
  obtain ⟨request, _, hstep, _⟩ := hwordless
  exact h request hstep

theorem Wordless.unlogged_ok {call : Call} (h : call.Wordless supply l) :
    ∃ served, (call.run supply false l).result = .ok served := by
  obtain ⟨request, served, hstep, hserved, _⟩ := h
  refine ⟨served, ?_⟩
  rw [Call.run, hstep]
  exact hserved

theorem run_ledger_logged (supply : Supply) (l : Ledger) (call : Call) :
    (call.run supply true l).ledger = (call.run supply false l).ledger := by
  obtain ⟨step, rules⟩ := call
  cases step with
  | provision request => exact (provision_logged supply request rules l).1
  | renumber | scope _ | assignSocksPort _ | assignKeys | allocatePorts => rfl

/-- A call is answered with a log as without one, unless it is left without a word. -/
theorem run_wordless_or_same (supply : Supply) (l : Ledger) (call : Call) :
    (call.Wordless supply l ∧ (call.run supply true l).result = .error .unnamedPatternType) ∨
    (¬call.Wordless supply l ∧ (call.run supply true l).result = (call.run supply false l).result) := by
  obtain ⟨step, rules⟩ := call
  cases step with
  | provision request => exact provision_wordless_or_same supply request rules l
  | renumber | scope _ | assignSocksPort _ | assignKeys | allocatePorts =>
    exact .inr ⟨not_wordless_of_other (by simp), rfl⟩

end Call

theorem ledgerAfter_logged (supply : Supply) (l : Ledger) (calls : List Call) :
    ledgerAfter supply true l calls = ledgerAfter supply false l calls := by
  induction calls generalizing l with
  | nil => rfl
  | cons call rest ih =>
    rw [ledgerAfter, ledgerAfter, Call.run_ledger_logged]
    exact ih _

/-- Over any row of calls the ledger is the same with a log and without one. The answer to the call that comes next
is the same as well, unless it is left without a word; then it is a failure with a log, and without one a success. -/
theorem answer_logged_iff (supply : Supply) (l : Ledger) (calls : List Call) (call : Call) :
    let logged := ledgerAfter supply true l calls
    let unlogged := ledgerAfter supply false l calls
    logged = unlogged ∧
      (call.run supply true logged).ledger = (call.run supply false unlogged).ledger ∧
      ((call.run supply true logged).result = (call.run supply false unlogged).result ↔
        ¬call.Wordless supply unlogged) ∧
      (call.Wordless supply unlogged → (call.run supply true logged).result = .error .unnamedPatternType ∧
        ∃ served, (call.run supply false unlogged).result = .ok served) := by
  intro logged unlogged
  have hledger : logged = unlogged := ledgerAfter_logged supply l calls
  rw [hledger]
  refine ⟨rfl, call.run_ledger_logged supply unlogged, ?_⟩
  rcases call.run_wordless_or_same supply unlogged with ⟨hwordless, hfailed⟩ | ⟨hother, hsame⟩
  · obtain ⟨served, hserved⟩ := hwordless.unlogged_ok
    simp [hwordless, hfailed, hserved]
  · simp [hother, hsame]

section Sample

open AccessGate.Agent (sampleMachine sampleRule)

def writtenTypeCall : Call where
  step := .provision { clientId := some "c", socksPort := 1080 }
  rules := [{ sampleRule 1 "https://tls.corp" .hostPort with patternType := some (.written "HOSTPORT") }]

/-- A log may turn a success into a failure, when the key is already taken. -/
theorem log_fails_success :
    (∃ served, (writtenTypeCall.run sampleMachine.toSupply false {}).result = .ok served) ∧
      (writtenTypeCall.run sampleMachine.toSupply true {}).result = .error .unnamedPatternType ∧
      (writtenTypeCall.run sampleMachine.toSupply true {}).ledger.issued = [""] :=
  ⟨⟨_, rfl⟩, rfl, rfl⟩

end Sample

end Provision
end AccessGate
