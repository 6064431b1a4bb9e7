import AccessGate.Proofs.Access
import AccessGate.Proofs.Provision.Served
import AccessGate.Proofs.Text.Trim

/-! # Rules that are kept for a client

The checks of a rule pass over blanks around its client id, but rules are kept for a client by their ids as
they are written. So the rules that are meant for a client are all kept exactly when none of them has blanks
around its id; a rule that has is valid, and is dropped without a word. -/
namespace AccessGate

namespace Rule

def isFor (clientId : String) (r : Rule) : Bool :=
  r.clientId = some clientId || r.clientId = some allClients

/-- The client id of a rule without the blanks around it, as the checks of the rule read it. -/
def trimmedId (r : Rule) : Option String := r.clientId.map Text.trim

/-- Whether a rule is meant for a client: but for blanks around its id, it names the client, or all
clients. -/
def isMeantFor (clientId : String) (r : Rule) : Bool :=
  r.trimmedId = some clientId || r.trimmedId = some allClients

theorem isFor_iff {clientId : String} (hclean : ∀ c ∈ clientId.toList, Text.isBlank c = false) {r : Rule} :
    r.isFor clientId = true ↔ r.isMeantFor clientId = true ∧ r.trimmedId = r.clientId := by
  have hclient : Text.trim clientId = clientId := Text.trim_of_forall_not_blank hclean
  have hall : Text.trim allClients = allClients := rfl
  simp only [isFor, isMeantFor, Bool.or_eq_true, decide_eq_true_eq]
  constructor
  · rintro (h | h)
    · simp [trimmedId, h, hclient]
    · simp [trimmedId, h, hall]
  · intro h
    obtain ⟨hmeant, hid⟩ := h
    rwa [hid] at hmeant

/-- Whatever is looked at of them, the rules that are for a client are those meant for it exactly when no
rule that is meant for it has blanks around its id. -/
theorem map_filter_isFor_eq_iff {α : Type} (f : Rule → α) {clientId : String} {rules : List Rule}
    (hclean : ∀ c ∈ clientId.toList, Text.isBlank c = false) :
    (rules.filter (isFor clientId)).map f = (rules.filter (isMeantFor clientId)).map f ↔
      ∀ r ∈ rules, r.isMeantFor clientId = true → r.trimmedId = r.clientId := by
  constructor
  · intro h r hr hmeant
    -- The rules that are for the client are among those meant for it, and they are as many.
    have hlen := congrArg List.length h
    rw [List.length_map, List.length_map] at hlen
    have hsub : (rules.filter (isFor clientId)).Sublist (rules.filter (isMeantFor clientId)) :=
      List.monotone_filter_right rules fun s hs => ((isFor_iff hclean).mp hs).1
    have hmem : r ∈ rules.filter (isFor clientId) := by
      rw [hsub.eq_of_length hlen]
      exact List.mem_filter.mpr ⟨hr, hmeant⟩
    exact ((isFor_iff hclean).mp (List.mem_filter.mp hmem).2).2
  · intro h
    have hfilter : rules.filter (isFor clientId) = rules.filter (isMeantFor clientId) := by
      refine List.filter_congr fun r hr => Bool.eq_iff_iff.mpr ?_
      rw [isFor_iff hclean]
      exact and_iff_left_of_imp (h r hr)
    rw [hfilter]

end Rule

namespace Provision

theorem scope_eq_map_filter (clientId : String) (rules : List Rule) : scope (some clientId) rules =
    (rules.filter (Rule.isFor clientId)).map fun r => { r with clientId := some clientId } :=
  rfl

theorem candidates_eq_scope (request : Request) (rules : List Rule) :
    candidates request rules = scope request.clientId (rules.map Rule.numbered) ++ request.system :=
  rfl

/-- For a client without blanks in its id, scoping keeps exactly the rules meant for it, and so does a
provisioning that succeeds, if and only if no rule meant for it has blanks around its id. -/
theorem scope_eq_meant_iff {clientId : String}
    (hclean : ∀ c ∈ clientId.toList, Text.isBlank c = false) (rules : List Rule) :
    (scope (some clientId) rules =
        (rules.filter (Rule.isMeantFor clientId)).map (fun r => { r with clientId := some clientId }) ↔
      ∀ r ∈ rules, r.isMeantFor clientId = true → r.trimmedId = r.clientId) ∧
    ∀ supply logging socksPort system l served,
      (provision supply logging ⟨some clientId, socksPort, system⟩ rules l).result = .ok served →
      (served.map Rule.ruleNum =
          ((rules.map Rule.numbered).filter (Rule.isMeantFor clientId)).map Rule.ruleNum ++
            system.map Rule.ruleNum ↔
        ∀ r ∈ rules, r.isMeantFor clientId = true → r.trimmedId = r.clientId) := by
  refine ⟨Rule.map_filter_isFor_eq_iff _ hclean, fun supply logging socksPort system l served h => ?_⟩
  have hkept : served.map Rule.ruleNum =
      ((rules.map Rule.numbered).filter (Rule.isFor clientId)).map Rule.ruleNum ++
        system.map Rule.ruleNum := by
    rw [map_ruleNum_of_provision h, candidates_eq_scope, scope_eq_map_filter, List.map_append, List.map_map]
    rfl
  rw [hkept, List.append_left_inj, Rule.map_filter_isFor_eq_iff _ hclean, List.forall_mem_map]
  rfl

section Sample

open AccessGate.Agent (sampleMachine sampleRule)

def paddedRule : Rule :=
  { sampleRule 1 "socket://db.corp:5432" .hostPort with clientId := some " c1 " }

def paddedFeed : List Rule := [paddedRule, sampleRule 2 "https://tls.corp" .hostPort]

theorem noBlank_sampleClient : ∀ c ∈ "c1".toList, Text.isBlank c = false := Text.forall_not_blank_of_all rfl

/-- A padded rule is valid and is meant for the client, and is dropped all the same. -/
theorem scope_drops_padded : RuleSet.validate paddedFeed = .ok () ∧
    (∀ c ∈ "c1".toList, Text.isBlank c = false) ∧
    (paddedFeed.filter (Rule.isMeantFor "c1")).map Rule.ruleNum = [1, 2] ∧
    (scope (some "c1") paddedFeed).map Rule.ruleNum = [2] ∧
    scope (some "c1") paddedFeed ≠
      (paddedFeed.filter (Rule.isMeantFor "c1")).map (fun r => { r with clientId := some "c1" }) := by
  refine ⟨rfl, noBlank_sampleClient, rfl, rfl, fun h => ?_⟩
  have hlen := congrArg List.length h
  exact absurd hlen (by decide)

theorem scope_eq_meant_iff_sample : (∀ c ∈ "c1".toList, Text.isBlank c = false) ∧
    scope (some "c1") paddedFeed.tail =
      (paddedFeed.tail.filter (Rule.isMeantFor "c1")).map (fun r => { r with clientId := some "c1" }) ∧
    ∃ served,
      (provision sampleMachine.toSupply true ⟨some "c1", 1080, []⟩ paddedFeed {}).result = .ok served ∧
      served.map Rule.ruleNum ≠
        ((paddedFeed.map Rule.numbered).filter (Rule.isMeantFor "c1")).map Rule.ruleNum := by
  have hclean := noBlank_sampleClient
  obtain ⟨served, hserved⟩ : ∃ served,
      (provision sampleMachine.toSupply true ⟨some "c1", 1080, []⟩ paddedFeed {}).result = .ok served :=
    ⟨_, rfl⟩
  refine ⟨hclean, (scope_eq_meant_iff hclean _).1.mpr fun r hr _ => ?_, served, hserved, fun h => ?_⟩
  · obtain rfl := List.mem_singleton.mp hr
    rfl
  · have hids := (scope_eq_meant_iff hclean paddedFeed).2 _ _ _ _ _ _ hserved
    rw [List.map_nil, List.append_nil] at hids
    exact absurd (hids.mp h paddedRule List.mem_cons_self rfl) (by decide)

end Sample

end Provision
end AccessGate
