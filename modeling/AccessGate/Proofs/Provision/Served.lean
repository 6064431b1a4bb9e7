import AccessGate.Proofs.Provision.Servable

/-! # What is served

The rules that provisioning serves, with a log or without one: each of them is one of the candidates with
nothing changed that an author wrote, is valid, has a key of its own, and has a local port if it is for plain
http. -/
namespace AccessGate.Provision

section Filling
variable {port : Nat → Except String Int} {calls : Nat} {socksPort : Int} {keys : List String}
  {rules : List Rule}

theorem map_authored_equip (hlen : keys.length = rules.length) :
    (equip port calls socksPort keys rules).map Rule.authored = rules.map Rule.authored := by
  rw [← equip_eq hlen, map_authored_withPorts, map_authored_withKeys (by simpa using hlen),
    map_authored_assignSocksPort]

theorem map_secretKey_equip (hlen : keys.length = rules.length) :
    (equip port calls socksPort keys rules).map Rule.secretKey = keys.map some := by
  refine List.ext_getElem (by simp [equip, hlen]) fun i hi _ => ?_
  have hi' : i < keys.length := by simpa [equip, hlen] using hi
  simp [equip, hi']

theorem isSome_port_equip (hlen : keys.length = rules.length) (hanswered : Answered port calls rules) :
    ∀ s ∈ equip port calls socksPort keys rules, s.scheme? = some .http → s.httpProxyPort.isSome = true := by
  intro s hs hhttp
  rw [← equip_eq hlen] at hs
  exact isSome_port_of_answered ((answered_withKeys_iff socksPort hlen).mpr hanswered) s hs
    (Rule.isPlainHttp_iff.mpr hhttp)

end Filling

variable {supply : Supply} {logging : Bool} {request : Request} {rules served : List Rule} {l : Ledger}

/-- A log has no part in which rules are served. -/
theorem provision_result_unlogged (h : (provision supply logging request rules l).result = .ok served) :
    (provision supply false request rules l).result = .ok served := by
  have hcourse := provision_course supply logging request rules l
  generalize provision supply logging request rules l = out at h hcourse
  cases hcourse with
  | served hprepare hkeys hports hcheck _ =>
    cases h
    rw [(Course.served hprepare hkeys hports hcheck rfl).eq]
  | _ => cases h

theorem map_authored_of_provision (h : (provision supply logging request rules l).result = .ok served) :
    served.map Rule.authored = (candidates request rules).map Rule.authored := by
  obtain ⟨_, _, keys, _, _, hlen, _, rfl, _⟩ := provision_result_eq_ok_iff.mp (provision_result_unlogged h)
  exact map_authored_equip hlen

/-- What an author wrote of a rule that is served, an author wrote of a rule of the feed or of a system rule. -/
theorem forall_served_of_forall (h : (provision supply logging request rules l).result = .ok served)
    {P : Rule → Prop} (hP : ∀ r, P r.authored ↔ P r)
    (hrules : ∀ r ∈ rules, P { r.numbered with clientId := request.clientId })
    (hsystem : ∀ r ∈ request.system, P r) : ∀ r ∈ served, P r := by
  have hcandidates : ∀ r ∈ candidates request rules, P r := by
    intro r hr
    rcases List.mem_append.mp hr with hr | hr
    · obtain ⟨s, hs, rfl⟩ := List.mem_map.mp hr
      obtain ⟨t, ht, rfl⟩ := List.mem_map.mp (List.mem_filter.mp hs).1
      exact hrules t ht
    · exact hsystem r hr
  have hauthored : ∀ r ∈ served.map Rule.authored, P r := by
    rw [map_authored_of_provision h, List.forall_mem_map]
    exact fun r hr => (hP r).mpr (hcandidates r hr)
  exact fun r hr => (hP r).mp (List.forall_mem_map.mp hauthored r hr)

theorem map_ruleNum_of_provision (h : (provision supply logging request rules l).result = .ok served) :
    served.map Rule.ruleNum = (candidates request rules).map Rule.ruleNum := by
  have hnums := congrArg (List.map Rule.ruleNum) (map_authored_of_provision h)
  rwa [List.map_map, List.map_map] at hnums

/-- Every rule that is served has a key that no other one has. -/
theorem keys_of_provision (h : (provision supply logging request rules l).result = .ok served) :
    ∃ keys : List String, keys.Nodup ∧ served.map Rule.secretKey = keys.map some := by
  obtain ⟨_, _, keys, _, hdrawn, hlen, _, rfl, _⟩ :=
    provision_result_eq_ok_iff.mp (provision_result_unlogged h)
  exact ⟨keys, hdrawn.nodup, map_secretKey_equip hlen⟩

theorem check_of_provision (h : (provision supply logging request rules l).result = .ok served) :
    ∀ r ∈ served, r.check = .ok () := by
  obtain ⟨_, _, _, _, _, _, _, _, hcheck⟩ := provision_result_eq_ok_iff.mp (provision_result_unlogged h)
  intro r hr
  exact (Rule.checkRuntime_eq_ok_iff.mp ((RuleSet.validateRuntime_eq_ok_iff.mp hcheck).2 r hr)).1

theorem isSome_port_of_provision (h : (provision supply logging request rules l).result = .ok served) :
    ∀ r ∈ served, r.scheme? = some .http → r.httpProxyPort.isSome = true := by
  obtain ⟨_, _, _, _, _, hlen, hanswered, rfl, _⟩ :=
    provision_result_eq_ok_iff.mp (provision_result_unlogged h)
  exact isSome_port_equip hlen hanswered

end AccessGate.Provision
