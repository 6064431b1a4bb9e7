import AccessGate.Proofs.Provision.Served

/-! # What a failure leaves behind

Keys and ports are taken from the machine one after the other, and nothing is given back. So the ledger and the
events of a failure are those of the stages before it: the keys handed out, the calls for a port, and the ports
that were told of. -/
namespace AccessGate.Provision

/-- `Failed supply logging request rules l f l' events`: the failure `f` is due and leaves the ledger `l'` and the
events behind. There is one case for each stage that may fail. -/
inductive Failed (supply : Supply) (logging : Bool) (request : Request) (rules : List Rule) (l : Ledger) :
    Failure → Ledger → List Event → Prop
  /-- The feed is refused, and nothing is taken from the machine. -/
  | unprepared {e : RuleError} (hfeed : (renumber rules >>= RuleSet.validate) = .error e) :
      Failed supply logging request rules l (.rule e) l []
  /-- The first candidates have got the keys, and all draws for the next one give keys that are taken. -/
  | keyless {keys : List String} {l₁ : Ledger} (hfeed : Admitted rules)
      (hdrawn : Drawn supply.secret l keys l₁)
      (hfewer : keys.length < (candidates request rules).length) (hstuck : Exhausted supply.secret l₁) :
      Failed supply logging request rules l (.rule ⟨.supply .secretsExhausted, none⟩)
        ⟨keys.reverse ++ l.issued, l₁.draws + keyAttempts, l.portCalls⟩ []
  /-- Every candidate has got its key, those in front of `r` have got their ports, and the call for `r` fails. -/
  | portless {keys : List String} {l₁ : Ledger} {before : List Rule} {r : Rule} {reason : String}
      {events : List Event} (hfeed : Admitted rules) (hdrawn : Drawn supply.secret l keys l₁)
      (hlen : keys.length = (candidates request rules).length)
      (hport : Unanswered supply.port l.portCalls (candidates request rules) before r reason)
      (htold : PortsTold (withPorts supply.port l.portCalls before) events) :
      Failed supply logging request rules l (.rule ⟨.supply (.portsUnavailable reason), some r.ruleNum⟩)
        ⟨keys.reverse ++ l.issued, l₁.draws, l.portCalls + before.countP Rule.isPlainHttp + 1⟩
        (told logging events)
  /-- Every candidate has got what it needs, and the last check refuses the rules. -/
  | refused {keys : List String} {l₁ : Ledger} {served : List Rule} {e : RuleError} {events : List Event}
      (hequipped : Equipped supply request rules l keys l₁ served)
      (hcheck : RuleSet.validateRuntime served = .error e) (htold : PortsTold served events) :
      Failed supply logging request rules l (.rule e)
        ⟨keys.reverse ++ l.issued, l₁.draws,
          l.portCalls + (candidates request rules).countP Rule.isPlainHttp⟩ (told logging events)
  /-- The rules pass the last check, and the log has no word for one of them. -/
  | unannounced {keys : List String} {l₁ : Ledger} {served : List Rule} {f : Failure} {events : List Event}
      (hequipped : Equipped supply request rules l keys l₁ served)
      (hcheck : RuleSet.validateRuntime served = .ok ())
      (hannounce : announce logging request.clientId served = .error f) (htold : PortsTold served events) :
      Failed supply logging request rules l f
        ⟨keys.reverse ++ l.issued, l₁.draws,
          l.portCalls + (candidates request rules).countP Rule.isPlainHttp⟩ (told logging events)

/-- Calls for a port pass over the keys and the port of the listener. -/
theorem allocatePorts_withKeys {port : Nat → Except String Int} {keys : List String} {rules : List Rule}
    (socksPort : Int) (hlen : keys.length = rules.length) (l : Ledger) :
    allocatePorts port (withKeys (assignSocksPort socksPort rules) keys) l =
      ((allocatePorts port rules l).1.map fun served => withKeys (assignSocksPort socksPort served) keys,
        (allocatePorts port rules l).2) := by
  induction rules generalizing keys l with
  | nil => rfl
  | cons r rest ih =>
    cases keys with
    | nil => simp at hlen
    | cons key keys =>
      have hrest := ih (Nat.succ.inj hlen)
      let filled : Rule := { r with socksServerPort := some socksPort, secretKey := some key }
      change allocatePorts port (filled :: withKeys (assignSocksPort socksPort rest) keys) l = _
      have hscheme : filled.scheme? = r.scheme? := rfl
      rw [allocatePorts, allocatePorts, hscheme]
      by_cases hhttp : r.scheme? = some .http
      · rw [if_pos hhttp, if_pos hhttp]
        cases port l.portCalls with
        | error reason => rfl
        | ok p =>
          simp only [hrest]
          cases (allocatePorts port rest _).1 <;> rfl
      · rw [if_neg hhttp, if_neg hhttp]
        simp only [hrest]
        cases (allocatePorts port rest _).1 <;> rfl

section Calls
variable {supply : Supply} {request : Request} {rules : List Rule} {l l₁ l₂ : Ledger} {keys : List String}
  {events : List Event}

/-- When every candidate has its key, the calls for a port fail as they do for the candidates themselves. -/
theorem allocatePorts_keyed_eq_error_iff (hdrawn : Drawn supply.secret l keys l₁)
    (hlen : keys.length = (candidates request rules).length) {e : RuleError} :
    allocatePorts supply.port
        (withKeys (assignSocksPort request.socksPort (candidates request rules)) keys) l₁ =
        (.error e, l₂, events) ↔
      ∃ before r reason, Unanswered supply.port l.portCalls (candidates request rules) before r reason ∧
        e = ⟨.supply (.portsUnavailable reason), some r.ruleNum⟩ ∧
        l₂ = ⟨keys.reverse ++ l.issued, l₁.draws, l.portCalls + before.countP Rule.isPlainHttp + 1⟩ ∧
        PortsTold (withPorts supply.port l.portCalls before) events := by
  have hsame : allocatePorts supply.port
        (withKeys (assignSocksPort request.socksPort (candidates request rules)) keys) l₁ =
        (.error e, l₂, events) ↔
      allocatePorts supply.port (candidates request rules) l₁ = (.error e, l₂, events) := by
    rw [allocatePorts_withKeys _ hlen]
    cases allocatePorts supply.port (candidates request rules) l₁ with
    | mk out rest => cases out <;> simp [Except.map]
  rw [hsame, allocatePorts_eq_error_iff, hdrawn.portCalls_eq, hdrawn.issued_eq]
  constructor
  · rintro ⟨before, r, reason, hport, rfl, rfl, hevents⟩
    exact ⟨before, r, reason, hport, rfl, rfl, (portsTold_of_answered hport.answered).mpr hevents⟩
  · rintro ⟨before, r, reason, hport, rfl, rfl, htold⟩
    exact ⟨before, r, reason, hport, rfl, rfl, (portsTold_of_answered hport.answered).mp htold⟩

end Calls

variable {supply : Supply} {logging : Bool} {request : Request} {rules : List Rule} {l l' : Ledger}
  {f : Failure} {events : List Event}

theorem failed_of_provision (h : provision supply logging request rules l = ⟨.error f, l', events⟩) :
    Failed supply logging request rules l f l' events := by
  have hcourse := provision_course supply logging request rules l
  rw [h] at hcourse
  cases hcourse with
  | unprepared hprepare => exact .unprepared (prepare_eq_error_iff.mp hprepare)
  | keyless hprepare hkeys =>
    obtain ⟨hadmitted, rfl⟩ := prepare_eq_ok_iff_admitted.mp hprepare
    obtain ⟨keys, l₁, hdrawn, hfewer, hstuck, rfl, rfl⟩ := assignKeys_eq_error_iff.mp hkeys
    rw [length_assignSocksPort] at hfewer
    have hledger : l₁.skip keyAttempts =
        ⟨keys.reverse ++ l.issued, l₁.draws + keyAttempts, l.portCalls⟩ := by
      rw [← hdrawn.issued_eq, ← hdrawn.portCalls_eq]
      rfl
    rw [hledger]
    exact .keyless hadmitted hdrawn hfewer hstuck
  | portless hprepare hkeys hports =>
    obtain ⟨hadmitted, rfl⟩ := prepare_eq_ok_iff_admitted.mp hprepare
    obtain ⟨keys, hdrawn, hlen, rfl⟩ := (assignKeys_ready_eq_ok_iff request.socksPort).mp hkeys
    obtain ⟨before, r, reason, hport, rfl, rfl, htold⟩ :=
      (allocatePorts_keyed_eq_error_iff hdrawn hlen).mp hports
    exact .portless hadmitted hdrawn hlen hport htold
  | refused hprepare hkeys hports hcheck =>
    obtain ⟨keys, hequipped, htold, rfl⟩ := equipped_of_stages hprepare hkeys hports
    exact .refused hequipped hcheck htold
  | unannounced hprepare hkeys hports hcheck hannounce =>
    obtain ⟨keys, hequipped, htold, rfl⟩ := equipped_of_stages hprepare hkeys hports
    exact .unannounced hequipped hcheck hannounce htold

end AccessGate.Provision
