import AccessGate.Proofs.Routing

/-! # How a refresh fails

Rules whose pattern types are known are either made ready or refused with an error of the gate, but for one way
out: when the first rule that leads nowhere is an expression over `https://` whose URL cannot be read, the fault
of the URL comes through as it is. -/
namespace AccessGate

/-- Whether the pattern type of a rule is known, if there is one; it may also be a text still to be read. -/
def Rule.TypeKnown (r : Rule) : Prop := ∀ text, r.patternType ≠ some (.written text)

theorem Rule.TypeKnown.summary_ne_error {r : Rule} (h : r.TypeKnown) (f : Failure) :
    r.summary ≠ .error f := by
  unfold summary
  split
  · nofun
  · nofun
  · exact absurd ‹_› (h _)

theorem Event.provisionedOf_eq_ok (client : Option String) {rules : List Rule}
    (h : ∀ r ∈ rules, r.TypeKnown) : ∃ e, provisionedOf client rules = .ok e := by
  cases hsummaries : rules.mapM Rule.summary with
  | ok summaries =>
    rw [provisionedOf, hsummaries]
    exact ⟨_, rfl⟩
  | error f =>
    obtain ⟨before, r, after, rfl, _, hf⟩ := mapM_eq_error_iff.mp hsummaries
    have hknown := h r (List.mem_append_right _ List.mem_cons_self)
    exact absurd hf (hknown.summary_ne_error f)

namespace Provision
variable {supply : Supply} {logging : Bool} {request : Request} {rules served : List Rule} {l : Ledger}

/-- Provisioning rules with known pattern types comes to rules or to an error of the gate. -/
theorem provision_ok_or_ruleError (supply : Supply) (logging : Bool) (l : Ledger)
    (hrules : ∀ r ∈ rules, r.TypeKnown) (hsystem : ∀ r ∈ request.system, r.TypeKnown) :
    (∃ served, (provision supply logging request rules l).result = .ok served) ∨
      ∃ e, (provision supply logging request rules l).result = .error (.rule e) := by
  have hcourse := provision_course supply logging request rules l
  generalize provision supply logging request rules l = out at hcourse
  cases hcourse with
  | unannounced hprepare hkeys hports hcheck hannounce =>
    -- Without a log the same rules are served, so their pattern types are those of the candidates.
    have hserved : (provision supply false request rules l).result = .ok _ :=
      congrArg Outcome.result (Course.served hprepare hkeys hports hcheck rfl).eq
    have hknown := forall_served_of_forall (P := Rule.TypeKnown) hserved (fun _ => Iff.rfl) hrules hsystem
    obtain ⟨e, he⟩ := Event.provisionedOf_eq_ok request.clientId hknown
    cases logging with
    | false => cases hannounce
    | true =>
      rw [announce, if_pos rfl, he] at hannounce
      cases hannounce
  | served => exact .inl ⟨_, rfl⟩
  | unprepared | keyless | portless | refused => exact .inr ⟨_, rfl⟩

end Provision

namespace Agent

open AccessGate.Provision

variable {machine : Machine} {config : Config} {rules : List Rule} {l : Ledger}

theorem typeKnown_system (config : Config) : ∀ r ∈ (request config).system, r.TypeKnown := by
  intro r hr text htext
  obtain rfl := List.mem_singleton.mp hr
  cases htext

/-- `Escapes machine config rules l fault`: the rules are provisioned and there is a host to listen at, but the
first rule that leads nowhere is an expression over `https://` without a local port, whose URL has the fault. -/
def Escapes (machine : Machine) (config : Config) (rules : List Rule) (l : Ledger) (fault : Url.Fault) : Prop :=
  ∃ served address before r after,
    (provision machine.toSupply true (request config) rules l).result = .ok served ∧
    machine.resolve config.socksBindHost = some address ∧
    served = before ++ r :: after ∧ (∀ s ∈ before, ∃ e, s.LeadsTo loopbackAddress e) ∧
    r.IsExpression ∧ r.scheme? = some .https ∧ r.httpProxyPort = none ∧ r.httpsPort = .error fault

theorem refresh_eq_error_of_escapes {fault : Url.Fault} (h : Escapes machine config rules l fault) :
    (refresh machine config rules l).result = .error (.value (.url fault)) := by
  obtain ⟨served, address, before, r, after, hserved, haddress, hsplit, hbefore, hexpression, hscheme, hport,
    hurl⟩ := h
  have hproject := (projectCredentials_eq_error_iff_strays hserved).mpr
    ⟨before, r, after, hsplit, hbefore, .https hexpression hscheme hport hurl⟩
  rw [refresh_result, hserved]
  change connect machine config served = _
  rw [connect_eq, haddress]
  exact map_eq_error_iff.mpr hproject

/-- A refresh of rules with known pattern types makes them ready, is refused with an error of the gate, or lets
the fault of a URL through. -/
theorem refresh_ok_or_ruleError_or_escapes (hknown : ∀ r ∈ rules, r.TypeKnown) :
    (∃ ready, (refresh machine config rules l).result = .ok ready) ∨
      (∃ e, (refresh machine config rules l).result = .error (.rule e)) ∨
        ∃ fault, Escapes machine config rules l fault := by
  rw [refresh_result]
  have hprovision := provision_ok_or_ruleError machine.toSupply true l hknown (typeKnown_system config)
  rcases hprovision with ⟨served, hserved⟩ | ⟨e, he⟩
  · rw [hserved]
    change (∃ ready, connect machine config served = .ok ready) ∨
      (∃ e, connect machine config served = .error (.rule e)) ∨ _
    rw [connect_eq]
    cases haddress : machine.resolve config.socksBindHost with
    | none => exact .inr (.inl ⟨_, rfl⟩)
    | some address =>
      cases hproject : projectCredentials loopbackAddress served with
      | ok credentials => exact .inl ⟨_, rfl⟩
      | error f =>
        obtain ⟨before, r, after, hsplit, hbefore, hstrays⟩ :=
          (projectCredentials_eq_error_iff_strays hserved).mp hproject
        cases hstrays with
        | socket => exact .inr (.inl ⟨_, rfl⟩)
        | @https fault hexpression hscheme hport hurl =>
          exact .inr (.inr ⟨fault, served, address, before, r, after, hserved, haddress, hsplit, hbefore,
            hexpression, hscheme, hport, hurl⟩)
  · rw [he]
    exact .inr (.inl ⟨e, rfl⟩)

/-- A refresh of rules with known pattern types is a success or is refused with an error of the gate exactly
when no fault of a URL escapes from it. -/
theorem refresh_ok_or_ruleError_iff (machine : Machine) (config : Config) (l : Ledger)
    (hknown : ∀ r ∈ rules, r.TypeKnown) :
    ((∃ ready, (refresh machine config rules l).result = .ok ready) ∨
        ∃ e, (refresh machine config rules l).result = .error (.rule e)) ↔
      ∀ fault, ¬Escapes machine config rules l fault := by
  constructor
  · intro h fault hescapes
    rw [refresh_eq_error_of_escapes hescapes] at h
    rcases h with ⟨ready, hready⟩ | ⟨e, he⟩
    · cases hready
    · cases he
  · intro h
    rcases refresh_ok_or_ruleError_or_escapes hknown with hready | he | ⟨fault, hescapes⟩
    · exact .inl hready
    · exact .inr he
    · exact absurd hescapes (h fault)

/-- Nothing escapes from a refresh of a feed in which the URL of every expression over `https://` can be read. -/
theorem refresh_ok_or_ruleError (hknown : ∀ r ∈ rules, r.TypeKnown)
    (hreads : ∀ r ∈ rules, r.IsExpression → r.scheme? = some .https → ∃ n, r.httpsPort = .ok n) :
    (∃ ready, (refresh machine config rules l).result = .ok ready) ∨
      ∃ e, (refresh machine config rules l).result = .error (.rule e) := by
  rcases refresh_ok_or_ruleError_or_escapes hknown with hready | he | ⟨fault, hescapes⟩
  · exact .inl hready
  · exact .inr he
  · obtain ⟨served, _, before, r, after, hserved, _, rfl, _, hexpression, hscheme, _, hurl⟩ := hescapes
    have hsystem : ∀ r ∈ (request config).system, r.IsExpression → r.scheme? = some .https →
        ∃ n, r.httpsPort = .ok n := by
      intro r hr hexpression
      obtain rfl := List.mem_singleton.mp hr
      obtain ⟨field, hfield, hread⟩ := hexpression
      cases hfield
      cases hread
    obtain ⟨n, hn⟩ := forall_served_of_forall
      (P := fun r => r.IsExpression → r.scheme? = some .https → ∃ n, r.httpsPort = .ok n) hserved
      (fun _ => Iff.rfl) hreads hsystem r (List.mem_append_right _ List.mem_cons_self) hexpression hscheme
    rw [hurl] at hn
    cases hn

section Sample

def unreadableFeed : List Rule := [sampleRule 1 "https://tls.corp:70000" .regex]

theorem typeKnown_sampleRule (ruleNum : Int) (pattern : String) (t : PatternType) :
    (sampleRule ruleNum pattern t).TypeKnown := by
  intro text h
  cases h

theorem typeKnown_unreadableFeed : ∀ r ∈ unreadableFeed, r.TypeKnown := by
  intro r hr
  obtain rfl := List.mem_singleton.mp hr
  exact typeKnown_sampleRule _ _ _

/-- A refresh that ends with the fault of a URL is neither a success nor refused with an error of the gate. -/
theorem refresh_lets_url_fault_through : (∀ r ∈ unreadableFeed, r.TypeKnown) ∧
    (refresh sampleMachine sampleConfig unreadableFeed {}).result = .error (.value (.url .portOutOfRange)) ∧
    ¬((∃ ready, (refresh sampleMachine sampleConfig unreadableFeed {}).result = .ok ready) ∨
      ∃ e, (refresh sampleMachine sampleConfig unreadableFeed {}).result = .error (.rule e)) := by
  have hresult : (refresh sampleMachine sampleConfig unreadableFeed {}).result =
      .error (.value (.url .portOutOfRange)) := rfl
  refine ⟨typeKnown_unreadableFeed, hresult, ?_⟩
  rw [hresult]
  rintro (⟨ready, h⟩ | ⟨e, h⟩)
  · cases h
  · cases h

theorem refresh_ok_or_ruleError_iff_sample : (∀ r ∈ sampleRules, r.TypeKnown) ∧
    (∃ ready, (refresh sampleMachine sampleConfig sampleRules {}).result = .ok ready) ∧
    ∀ fault, ¬Escapes sampleMachine sampleConfig sampleRules {} fault := by
  have hknown : ∀ r ∈ sampleRules, r.TypeKnown := by
    simp only [sampleRules, List.forall_mem_cons]
    exact ⟨typeKnown_sampleRule _ _ _, typeKnown_sampleRule _ _ _, typeKnown_sampleRule _ _ _,
      List.forall_mem_nil _⟩
  have hready : ∃ ready, (refresh sampleMachine sampleConfig sampleRules {}).result = .ok ready :=
    ⟨_, rfl⟩
  exact ⟨hknown, hready, (refresh_ok_or_ruleError_iff sampleMachine sampleConfig {} hknown).mp (.inl hready)⟩

end Sample

end Agent
end AccessGate
