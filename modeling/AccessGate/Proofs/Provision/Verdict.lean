import AccessGate.Proofs.Provision.Secrecy
import AccessGate.Proofs.Provision.Served
import Mathlib.Logic.Function.Basic

/-! # The verdict on rules

A machine is ample if its secrets never repeat and it answers every call with a port. Such a machine never stops
the provisioning: whether rules are served, and as what, is decided by the rules and the request alone. With the
keys and the answered ports blotted out, nothing of the outcome depends on the ledger that was found. -/
namespace AccessGate

/-- A rule with the port of the local proxy blotted out; that it has one still shows. -/
def Rule.unported (r : Rule) : Rule :=
  r.withPort (if r.isPlainHttp then r.httpProxyPort.map fun _ => 0 else r.httpProxyPort)

def Rule.settled (r : Rule) : Rule := r.redacted.unported

/-- A rule with blots in place of what the machine is to give it. -/
def Rule.furnished (r : Rule) : Rule :=
  { r with
    secretKey := some ""
    httpProxyPort := if r.isPlainHttp then some 0 else r.httpProxyPort }

section Blots
variable {r : Rule} {rules : List Rule}

theorem Rule.unported_of_plainHttp (h : r.isPlainHttp = true) :
    r.unported = r.withPort (r.httpProxyPort.map fun _ => 0) := by
  simp [unported, h]

theorem Rule.unported_of_other (h : r.isPlainHttp = false) : r.unported = r := by
  simp [unported, h, withPort]

def PortsInRange (rules : List Rule) : Prop :=
  ∀ r ∈ rules, r.isPlainHttp = true → ∀ p, r.httpProxyPort = some p → isPort p = true

/-- A check asks of a port no more than that it is one. -/
theorem Rule.validateRuntime_unported
    (h : r.isPlainHttp = true → ∀ p, r.httpProxyPort = some p → isPort p = true) :
    r.unported.validateRuntime = r.validateRuntime := by
  cases hr : r.isPlainHttp with
  | false => rw [unported_of_other hr]
  | true =>
    have hproxy : r.unported.checkHttpProxyPort = r.checkHttpProxyPort := by
      have hblot : isPort 0 = true := by decide
      rw [unported_of_plainHttp hr]
      cases hp : r.httpProxyPort with
      | none => simp [checkHttpProxyPort, withPort, hp]
      | some p => simp [checkHttpProxyPort, withPort, hp, h hr p hp, hblot]
    unfold validateRuntime checkRuntime
    rw [hproxy]
    rfl

theorem RuleSet.validateRuntime_map_settled (h : PortsInRange rules) :
    validateRuntime (rules.map Rule.settled) = validateRuntime rules := by
  apply validateRuntime_map
  intro r hr
  have hport : r.redacted.isPlainHttp = true → ∀ p, r.redacted.httpProxyPort = some p → isPort p = true :=
    h r hr
  have hruntime : r.settled.validateRuntime = r.validateRuntime := by
    rw [Rule.settled, Rule.validateRuntime_unported hport, Rule.validateRuntime_redacted]
  exact ⟨rfl, rfl, hruntime⟩

theorem Rule.summary_settled (r : Rule) : InStep (fun _ _ => True) r.settled.summary r.summary := by
  have htype : r.settled.patternType = r.patternType := rfl
  unfold summary
  rw [htype]
  split
  · exact .ok trivial
  · exact .ok trivial
  · split
    · exact .ok trivial
    · exact .error _

theorem Event.provisionedOf_map_settled (client : Option String) (rules : List Rule) :
    InStep (fun _ _ => True) (provisionedOf client (rules.map Rule.settled)) (provisionedOf client rules) := by
  have hsummaries : InStep (List.Forall₂ fun _ _ => True) ((rules.map Rule.settled).mapM Rule.summary)
      (rules.mapM Rule.summary) := by
    apply InStep.mapM
    rw [List.forall₂_map_left_iff, List.forall₂_same]
    intro r _
    exact r.summary_settled
  exact hsummaries.bind fun _ _ _ => .ok trivial

end Blots

namespace Provision

/-- A machine that never runs short: none of its secrets comes twice, and every call is answered with a port. -/
structure Supply.Ample (supply : Supply) : Prop where
  secret : Function.Injective supply.secret
  port : ∀ n, ∃ p, supply.port n = .ok p ∧ 0 ≤ p ∧ p ≤ 65535

/-- The keys that were handed out are among the secrets that were drawn. -/
def Ledger.FromDraws (secret : Nat → String) (l : Ledger) : Prop :=
  ∀ key ∈ l.issued, ∃ i < l.draws, key = secret i

section Draws
variable {secret : Nat → String} {l l' : Ledger} {keys : List String} {rules : List Rule}

theorem Ledger.FromDraws.skip (h : l.FromDraws secret) (draws : Nat) : (l.skip draws).FromDraws secret := by
  intro key hkey
  obtain ⟨i, hi, hsame⟩ := h key hkey
  exact ⟨i, Nat.lt_add_right draws hi, hsame⟩

theorem Ledger.FromDraws.issue (h : l.FromDraws secret) (skipped : Nat) :
    (l.issue skipped (secret (l.draws + skipped))).FromDraws secret := by
  intro key hkey
  rcases List.mem_cons.mp hkey with rfl | hkey
  · exact ⟨l.draws + skipped, Nat.lt_succ_self _, rfl⟩
  · exact h.skip (skipped + 1) key hkey

theorem Drawn.fromDraws (h : Drawn secret l keys l') (hl : l.FromDraws secret) : l'.FromDraws secret := by
  induction h with
  | nil l => exact hl
  | cons skipped _ _ _ _ ih => exact ih (hl.issue skipped)

theorem fromDraws_assignKeys {out : Except RuleError (List Rule)} (h : assignKeys secret rules l = (out, l'))
    (hl : l.FromDraws secret) : l'.FromDraws secret := by
  cases out with
  | ok keyed =>
    obtain ⟨_, hdrawn, _⟩ := assignKeys_eq_ok_iff.mp h
    exact hdrawn.fromDraws hl
  | error e =>
    obtain ⟨_, _, hdrawn, _, _, _, rfl⟩ := assignKeys_eq_error_iff.mp h
    exact (hdrawn.fromDraws hl).skip keyAttempts

theorem fromDraws_allocatePorts {port : Nat → Except String Int} {out : Except RuleError (List Rule)}
    {events : List Event} (h : allocatePorts port rules l = (out, l', events)) (hl : l.FromDraws secret) :
    l'.FromDraws secret := by
  rw [ledger_of_allocatePorts h]
  exact hl

theorem fromDraws_provision {supply : Supply} (logging : Bool) (request : Request) (rules : List Rule)
    (hl : l.FromDraws supply.secret) : (provision supply logging request rules l).ledger.FromDraws supply.secret := by
  have hcourse := provision_course supply logging request rules l
  generalize provision supply logging request rules l = out at hcourse
  cases hcourse with
  | unprepared => exact hl
  | keyless _ hkeys => exact fromDraws_assignKeys hkeys hl
  | portless _ hkeys hports | refused _ hkeys hports _ | unannounced _ hkeys hports _ _
  | served _ hkeys hports _ _ => exact fromDraws_allocatePorts hports (fromDraws_assignKeys hkeys hl)

/-- Secrets that never repeat are never exhausted, for a draw to come gives none of the keys drawn before. -/
theorem not_exhausted (hsecret : Function.Injective secret) (hl : l.FromDraws secret) : ¬Exhausted secret l := by
  intro hstuck
  obtain ⟨i, hi, hsame⟩ := hl _ (hstuck 0 (by omega))
  have heq := hsecret hsame
  omega

theorem exists_drawn (hsecret : Function.Injective secret) (hl : l.FromDraws secret) (count : Nat) :
    ∃ keys l', Drawn secret l keys l' ∧ keys.length = count := by
  rcases drawn_or_exhausted secret l count with h | ⟨_, _, hdrawn, _, hstuck⟩
  · exact h
  · exact absurd hstuck (not_exhausted hsecret (hdrawn.fromDraws hl))

end Draws

section Filling
variable {port : Nat → Except String Int} {calls : Nat} {keys : List String} {rules : List Rule}

theorem map_redacted_withKeys (hlen : keys.length = rules.length) :
    (withKeys rules keys).map Rule.redacted = rules.map fun r => { r with secretKey := some "" } := by
  induction rules generalizing keys with
  | nil => simp [withKeys]
  | cons r rest ih =>
    cases keys with
    | nil => simp at hlen
    | cons key keys => exact congrArg (_ :: ·) (ih (Nat.succ.inj hlen))

theorem map_unported_withPorts (h : Answered port calls rules) :
    (withPorts port calls rules).map Rule.unported =
      rules.map fun r => r.withPort (if r.isPlainHttp then some 0 else r.httpProxyPort) := by
  induction rules generalizing calls with
  | nil => rfl
  | cons r rest ih =>
    cases hr : r.isPlainHttp with
    | false =>
      rw [withPorts_cons_other hr, List.map_cons, List.map_cons, ih ((answered_cons_other hr).mp h),
        Rule.unported_of_other hr]
      simp [hr, Rule.withPort]
    | true =>
      obtain ⟨⟨p, hp⟩, hrest⟩ := (answered_cons_http hr).mp h
      have hblot : (r.withPort (some p)).unported = r.withPort (some 0) :=
        Rule.unported_of_plainHttp (r := r.withPort (some p)) hr
      rw [withPorts_cons_http hr, List.map_cons, List.map_cons, ih hrest, hp, Except.toOption, hblot, if_pos hr]

theorem map_settled_withPorts (hlen : keys.length = rules.length)
    (h : Answered port calls (withKeys rules keys)) :
    (withPorts port calls (withKeys rules keys)).map Rule.settled = rules.map Rule.furnished := by
  have hsettled : ∀ served : List Rule,
      served.map Rule.settled = (served.map Rule.unported).map Rule.redacted := by
    intro served
    rw [List.map_map]
    rfl
  rw [hsettled, map_unported_withPorts h, List.map_map]
  change (withKeys rules keys).map
    ((fun r => r.withPort (if r.isPlainHttp then some 0 else r.httpProxyPort)) ∘ Rule.redacted) = _
  rw [← List.map_map, map_redacted_withKeys hlen, List.map_map]
  rfl

end Filling

section Verdict
variable {supply : Supply} {logging : Bool} {request : Request} {rules : List Rule} {l : Ledger}

/-- What rules come to when the machine never runs short, with blots for all that it gives. -/
def verdict (logging : Bool) (request : Request) (rules : List Rule) : Except Failure (List Rule) := do
  let ready ← (prepare request rules).mapError Failure.rule
  let served := ready.map Rule.furnished
  (RuleSet.validateRuntime served).mapError Failure.rule
  let _ ← announce logging request.clientId served
  return served

theorem Supply.Ample.answered (h : supply.Ample) (calls : Nat) (rules : List Rule) :
    Answered supply.port calls rules := by
  intro n _
  obtain ⟨p, hp, _⟩ := h.port (calls + n)
  exact ⟨p, hp⟩

theorem Supply.Ample.portsInRange (h : supply.Ample) (calls : Nat) (rules : List Rule) :
    PortsInRange (withPorts supply.port calls rules) := by
  induction rules generalizing calls with
  | nil => simp [PortsInRange]
  | cons r rest ih =>
    cases hr : r.isPlainHttp with
    | false =>
      rw [withPorts_cons_other hr, PortsInRange, List.forall_mem_cons]
      exact ⟨by simp [hr], ih calls⟩
    | true =>
      obtain ⟨p, hp, hrange⟩ := h.port calls
      rw [withPorts_cons_http hr, hp, PortsInRange, List.forall_mem_cons]
      refine ⟨?_, ih (calls + 1)⟩
      intro _ q hq
      obtain rfl : p = q := Option.some.inj hq
      exact isPort_iff.mpr hrange

theorem announce_map_settled (logging : Bool) (client : Option String) (rules : List Rule) :
    InStep (fun _ _ => True) (announce logging client (rules.map Rule.settled))
      (announce logging client rules) := by
  cases logging with
  | false => exact .ok trivial
  | true => exact (Event.provisionedOf_map_settled client rules).map fun _ _ _ => trivial

/-- On an ample machine the outcome is the verdict, whatever was taken from the machine before. -/
theorem provision_eq_verdict (hample : supply.Ample) (hl : l.FromDraws supply.secret) :
    (provision supply logging request rules l).result.map (List.map Rule.settled) =
      verdict logging request rules := by
  cases hprepare : prepare request rules with
  | error e =>
    rw [(Course.unprepared hprepare).eq, verdict, hprepare]
    rfl
  | ok ready =>
    obtain ⟨keys, l₁, hdrawn, hlen⟩ := exists_drawn hample.secret hl ready.length
    have hkeys := assignKeys_of_drawn hdrawn hlen
    have hanswered := hample.answered l₁.portCalls (withKeys ready keys)
    have hports := allocatePorts_of_answered hanswered
    have hsettled := map_settled_withPorts hlen hanswered
    have hrange := hample.portsInRange l₁.portCalls (withKeys ready keys)
    generalize withPorts supply.port l₁.portCalls (withKeys ready keys) = served at hports hsettled hrange
    have hannounce := announce_map_settled logging request.clientId served
    have hverdict : verdict logging request rules =
        ((RuleSet.validateRuntime (served.map Rule.settled)).mapError Failure.rule >>= fun _ =>
          announce logging request.clientId (served.map Rule.settled) >>= fun _ =>
            .ok (served.map Rule.settled)) := by
      rw [verdict, hprepare, hsettled]
      rfl
    rw [hverdict, RuleSet.validateRuntime_map_settled hrange]
    simp only [provision, hprepare, hkeys, hports]
    cases RuleSet.validateRuntime served with
    | error e => rfl
    | ok _ =>
      generalize announce logging request.clientId (served.map Rule.settled) = settled at hannounce
      generalize announce logging request.clientId served = announced at hannounce
      cases hannounce with
      | error f => rfl
      | ok => rfl

end Verdict

end Provision
end AccessGate
