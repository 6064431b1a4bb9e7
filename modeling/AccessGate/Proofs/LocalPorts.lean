import AccessGate.Proofs.Access
import AccessGate.Proofs.Provision.Served

/-! # Local ports that differ

A port that is answered is taken as it is, and is not compared with those taken before. So the rules for plain
http have ports of their own exactly when the machine gives each call an answer of its own, and then only do
their credentials lead to different endpoints. -/
namespace AccessGate

theorem Rule.LeadsTo.localPort_of_plainHttp {loopback : String} {r : Rule} {e : Endpoint}
    (h : r.LeadsTo loopback e) (hhttp : r.isPlainHttp = true) :
    ∃ p, r.httpProxyPort = some p ∧ e = ⟨loopback, p⟩ := by
  have hscheme := Rule.isPlainHttp_iff.mp hhttp
  cases h with
  | localPort _ hport => exact ⟨_, hport, rfl⟩
  | socket _ hsocket => cases hscheme.symm.trans hsocket
  | https hhttps => cases hscheme.symm.trans hhttps

namespace Provision

def PortsDiffer (rules : List Rule) : Prop :=
  rules.Pairwise fun r s => r.isPlainHttp = true → s.isPlainHttp = true → r.httpProxyPort ≠ s.httpProxyPort

def EndpointsDiffer (rules : List Rule) (credentials : List Credential) : Prop :=
  (rules.zip credentials).Pairwise fun a b =>
    a.1.isPlainHttp = true → b.1.isPlainHttp = true → a.2.2 ≠ b.2.2

/-- The machine gives different answers to the first `count` calls from `calls` on. -/
def AnswersDiffer (port : Nat → Except String Int) (calls count : Nat) : Prop :=
  ∀ m n, m < n → n < count → port (calls + m) ≠ port (calls + n)

section Answers
variable {port : Nat → Except String Int} {calls : Nat} {rules : List Rule}

theorem portsDiffer_iff : PortsDiffer rules ↔
    ((rules.filter Rule.isPlainHttp).map Rule.httpProxyPort).Nodup := by
  rw [List.Nodup, List.pairwise_map, List.pairwise_filter]
  rfl

theorem portsDiffer_withPorts_iff (h : Answered port calls rules) :
    PortsDiffer (withPorts port calls rules) ↔ AnswersDiffer port calls (rules.countP Rule.isPlainHttp) := by
  rw [portsDiffer_iff, ports_withPorts, List.Nodup, List.pairwise_map, List.pairwise_iff_getElem]
  simp only [List.getElem_range, List.length_range]
  constructor
  · intro hdiffer m n hmn hn hsame
    exact hdiffer m n (Nat.lt_trans hmn hn) hn hmn (congrArg Except.toOption hsame)
  · intro hdiffer m n hm hn hmn hsame
    obtain ⟨p, hp⟩ := h m hm
    obtain ⟨q, hq⟩ := h n hn
    rw [hp, hq] at hsame
    refine hdiffer m n hmn hn ?_
    rw [hp, hq, Option.some.inj hsame]

theorem endpointsDiffer_iff {loopback : String} {credentials : List Credential}
    (h : List.Forall₂ (Rule.Grants loopback) rules credentials) :
    EndpointsDiffer rules credentials ↔ PortsDiffer rules := by
  have hrules : (rules.zip credentials).map Prod.fst = rules := List.map_fst_zip (Nat.le_of_eq h.length_eq)
  -- Both sides speak of pairs of rules with their credentials, so they are compared pair by pair.
  conv_rhs => rw [← hrules, PortsDiffer, List.pairwise_map]
  have hleads : ∀ a ∈ rules.zip credentials, a.1.LeadsTo loopback a.2.2 :=
    fun a ha => ((List.forall₂_iff_zip.mp h).2 ha).2
  refine List.Pairwise.iff_of_mem fun {a b} ha hb => ?_
  refine forall_congr' fun hhttp => forall_congr' fun hhttp' => not_congr ?_
  obtain ⟨p, hp, he⟩ := (hleads a ha).localPort_of_plainHttp hhttp
  obtain ⟨q, hq, he'⟩ := (hleads b hb).localPort_of_plainHttp hhttp'
  rw [he, he', hp, hq, Option.some_inj, Endpoint.mk.injEq]
  exact and_iff_right rfl

end Answers

variable {supply : Supply} {logging : Bool} {request : Request} {rules served : List Rule} {l : Ledger}

theorem portsDiffer_of_provision_iff (h : (provision supply logging request rules l).result = .ok served) :
    PortsDiffer served ↔ AnswersDiffer supply.port l.portCalls (served.countP Rule.isPlainHttp) := by
  obtain ⟨_, _, keys, _, _, hlen, hanswered, rfl, _⟩ :=
    provision_result_eq_ok_iff.mp (provision_result_unlogged h)
  have hkeyed := (answered_withKeys_iff request.socksPort hlen).mpr hanswered
  rw [← equip_eq hlen, countP_withPorts]
  exact portsDiffer_withPorts_iff hkeyed

/-- Of the rules that are served, no two for plain http share a local port, and no two of their credentials lead
to one endpoint, exactly when no two of the calls for a port had the same answer. -/
theorem portsDiffer_iff_answersDiffer (h : (provision supply logging request rules l).result = .ok served) :
    (PortsDiffer served ↔ AnswersDiffer supply.port l.portCalls (served.countP Rule.isPlainHttp)) ∧
    ∀ loopback credentials, projectCredentials loopback served = .ok credentials →
      (EndpointsDiffer served credentials ↔
        AnswersDiffer supply.port l.portCalls (served.countP Rule.isPlainHttp)) := by
  have hports := portsDiffer_of_provision_iff h
  refine ⟨hports, fun loopback credentials hproject => ?_⟩
  exact (endpointsDiffer_iff (projectCredentials_eq_ok_iff.mp hproject).1).trans hports

theorem portsDiffer_iff_answersDiffer_sample : ∃ served credentials,
    (provision Agent.sampleMachine.toSupply true (Agent.request Agent.sampleConfig) Agent.sampleRules {}).result =
      .ok served ∧
    projectCredentials "127.0.0.1" served = .ok credentials ∧
    PortsDiffer served ∧ EndpointsDiffer served credentials := by
  obtain ⟨served, h⟩ : ∃ served, (provision Agent.sampleMachine.toSupply true
      (Agent.request Agent.sampleConfig) Agent.sampleRules {}).result = .ok served := ⟨_, rfl⟩
  obtain ⟨credentials, hproject⟩ : ∃ credentials, (provision Agent.sampleMachine.toSupply true
      (Agent.request Agent.sampleConfig) Agent.sampleRules {}).result >>= projectCredentials "127.0.0.1" =
        .ok credentials := ⟨_, rfl⟩
  rw [h] at hproject
  have hanswers : AnswersDiffer Agent.sampleMachine.port 0 (served.countP Rule.isPlainHttp) := by
    intro m n hmn _ hsame
    have hports : (40000 : Int) + (0 + m : Nat) = 40000 + (0 + n : Nat) := Except.ok.inj hsame
    omega
  obtain ⟨hports, hendpoints⟩ := portsDiffer_iff_answersDiffer h
  exact ⟨served, credentials, h, hproject, hports.mpr hanswers, (hendpoints _ _ hproject).mpr hanswers⟩

/-- A machine that answers each call with the same port: all is served, and two rules share the port. -/
theorem plainHttp_share_port : ∃ served credentials,
    (provision ⟨Agent.sampleMachine.secret, fun _ => .ok 40000⟩ true ⟨some "c", 1080, []⟩
      [Agent.sampleRule 1 "http://wiki" .urlExact, Agent.sampleRule 2 "http://docs" .urlExact] {}).result =
      .ok served ∧
    projectCredentials "127.0.0.1" served = .ok credentials ∧
    served.map Rule.isPlainHttp = [true, true] ∧
    served.map Rule.httpProxyPort = [some 40000, some 40000] ∧
    credentials.map Prod.snd = [⟨"127.0.0.1", 40000⟩, ⟨"127.0.0.1", 40000⟩] ∧
    ¬PortsDiffer served ∧ ¬EndpointsDiffer served credentials := by
  refine ⟨_, _, rfl, rfl, rfl, rfl, rfl, ?_, ?_⟩
  · intro h
    exact List.rel_of_pairwise_cons h List.mem_cons_self rfl rfl rfl
  · intro h
    exact List.rel_of_pairwise_cons h List.mem_cons_self rfl rfl rfl

end Provision
end AccessGate
