import AccessGate.Proofs.Provision.Verdict
import AccessGate.Proofs.Routing
import AccessGate.Proofs.Secrecy

/-! # Refreshing from scratch

The ledger goes on from step to step, through failures too. On an ample machine it has a part in nothing but the
keys and the ports that are given: whatever an agent went through before, a refresh comes to what it comes to on
an agent that is new. -/
namespace AccessGate

section Projection
variable {loopback : String}

/-- The endpoint of a rule with the port of the local proxy blotted out. -/
def Rule.settledAt (r : Rule) (e : Endpoint) : Endpoint := if r.isPlainHttp then { e with port := 0 } else e

theorem Rule.target_settled (loopback : String) (r : Rule) :
    r.settled.target loopback = (r.target loopback).map r.settledAt := by
  cases hr : r.isPlainHttp with
  | false =>
    have hsettled : r.settled = r.redacted := unported_of_other hr
    have hsame : r.settledAt = id := by
      funext e
      simp [settledAt, hr]
    have htarget : r.redacted.target loopback = r.target loopback := rfl
    rw [hsettled, hsame, htarget]
    cases r.target loopback <;> rfl
  | true =>
    have hsettled : r.settled = r.redacted.withPort (r.httpProxyPort.map fun _ => 0) := unported_of_plainHttp hr
    have hhttp : r.scheme? = some .http := isPlainHttp_iff.mp hr
    have hhttp' : r.settled.scheme? = some .http := hhttp
    have hport : r.settled.httpProxyPort = r.httpProxyPort.map fun _ => 0 := by
      rw [hsettled]
      rfl
    simp only [target, hhttp, hhttp', hport]
    cases r.httpProxyPort with
    | none => rfl
    | some p => simp [settledAt, hr, Except.map]

theorem mapM_target_settled (loopback : String) (rules : List Rule) :
    (rules.map Rule.settled).mapM (Rule.target loopback) =
      (rules.mapM (Rule.target loopback)).map (List.zipWith Rule.settledAt rules) := by
  induction rules with
  | nil => rfl
  | cons r rest ih =>
    rw [List.map_cons, List.mapM_cons, List.mapM_cons, Rule.target_settled, ih]
    cases r.target loopback with
    | error f => rfl
    | ok e => cases rest.mapM (Rule.target loopback) <;> rfl

end Projection

namespace Agent

open AccessGate.Provision

/-- What shows of what is in force when no key is shown, and no port of a local proxy for plain http. -/
def Ready.settled (ready : Ready) : Shown :=
  ⟨ready.rules.map Rule.settled, List.zipWith Rule.settledAt ready.rules (ready.credentials.map Prod.snd),
    ready.listener⟩

def route (resolve : Resolver) (config : Config) (rules : List Rule) : Except Failure Shown := do
  let listener ← (Listener.ofHost resolve config.socksBindHost config.socksServerPort).mapError Failure.rule
  let endpoints ← rules.mapM (Rule.target loopbackAddress)
  return ⟨rules, endpoints, listener⟩

/-- What a refresh comes to when the machine never runs short, with blots for all that it gives. -/
def verdict (resolve : Resolver) (config : Config) (rules : List Rule) : Except Failure Shown := do
  let served ← Provision.verdict true (request config) rules
  route resolve config served

section Steps
variable {machine : Machine} {config : Config} {rules served : List Rule} {l : Ledger} {ready : Ready}

theorem route_eq (resolve : Resolver) (config : Config) (rules : List Rule) :
    route resolve config rules = match resolve config.socksBindHost with
      | none => .error (.rule ⟨.supply (.unknownBindHost config.socksBindHost), none⟩)
      | some address => (rules.mapM (Rule.target loopbackAddress)).map fun endpoints =>
          ⟨rules, endpoints, ⟨address, config.socksServerPort⟩⟩ := by
  unfold route Listener.ofHost bindAddress
  cases resolve config.socksBindHost with
  | none => rfl
  | some address => cases rules.mapM (Rule.target loopbackAddress) <;> rfl

theorem connect_settled {keys : List String} (hnodup : keys.Nodup)
    (hkeys : served.map Rule.secretKey = keys.map some) :
    (connect machine config served).map Ready.settled =
      route machine.resolve config (served.map Rule.settled) := by
  rw [connect_eq, route_eq]
  cases machine.resolve config.socksBindHost with
  | none => rfl
  | some address =>
    have hproject : projectCredentials loopbackAddress served =
        (served.mapM (Rule.target loopbackAddress)).map keys.zip :=
      projectFrom_eq_mapM_target hkeys hnodup (by simp)
    simp only [hproject, mapM_target_settled]
    cases htargets : served.mapM (Rule.target loopbackAddress) with
    | error f => rfl
    | ok endpoints =>
      have hlen : endpoints.length ≤ keys.length := by
        have hendpoints := (mapM_eq_ok_iff.mp htargets).length_eq
        have hcount := congrArg List.length hkeys
        simp only [List.length_map] at hcount
        omega
      simp only [Except.map, Ready.settled, List.map_snd_zip hlen]

/-- On an ample machine a refresh comes to the verdict, whatever was taken from the machine before. -/
theorem refresh_eq_verdict (hample : machine.Ample) (hl : l.FromDraws machine.secret) :
    (refresh machine config rules l).result.map Ready.settled = verdict machine.resolve config rules := by
  rw [refresh_result, verdict, ← provision_eq_verdict hample hl]
  cases hserved : (provision machine.toSupply true (request config) rules l).result with
  | error f => rfl
  | ok served =>
    obtain ⟨keys, hnodup, hkeys⟩ := keys_of_provision hserved
    exact connect_settled hnodup hkeys

theorem fromDraws_refresh (config : Config) (rules : List Rule) (h : l.FromDraws machine.secret) :
    (refresh machine config rules l).ledger.FromDraws machine.secret := by
  rw [refresh_ledger]
  exact fromDraws_provision true (request config) rules h

theorem fromDraws_start (disk : Storage.Disk) (config : Config) (h : l.FromDraws machine.secret) :
    (start machine disk config l).ledger.FromDraws machine.secret := by
  unfold start serve
  cases readFeed config (disk.read (feedPath config)) with
  | error f => exact h
  | ok rules => exact fromDraws_refresh config rules h

end Steps

namespace Session
variable {machine machine' : Machine} {s : Session} {rules : List Rule}

theorem fromDraws_follow (h : s.ledger.FromDraws machine.secret) (order : Order) :
    (s.follow machine order).2.ledger.FromDraws machine.secret := by
  cases order with
  | replaceDisk disk => exact h
  | configure config => exact h
  | start => exact fromDraws_start s.disk s.config h
  | refresh rules => exact fromDraws_refresh s.config rules h

theorem fromDraws_followAll (h : s.ledger.FromDraws machine.secret) (orders : List Order) :
    (s.followAll machine orders).2.ledger.FromDraws machine.secret := by
  induction orders generalizing s with
  | nil => exact h
  | cons order rest ih =>
    rw [followAll_cons]
    apply ih
    exact fromDraws_follow h order

theorem follow_refresh_eq_verdict (hample : machine.Ample) (h : s.ledger.FromDraws machine.secret) :
    (s.follow machine (.refresh rules)).1.result.map (Except.map Ready.settled) =
      some (verdict machine.resolve s.config rules) :=
  congrArg some (refresh_eq_verdict hample h)

theorem follow_refresh_length {ready : Ready}
    (h : (s.follow machine (.refresh rules)).1.result = some (.ok ready)) :
    ready.credentials.length = ready.rules.length :=
  (refresh_eq_ok (Option.some.inj h)).2.1.length_eq.symm

/-- A refresh after any orders, and one by a new agent with the settings that the orders have led to, fail alike
or both succeed. What is then in force differs in the keys and in the ports of the local proxies for plain http,
and in nothing else. Both machines are ample; what they give may be different. -/
theorem refresh_after_history (hample : machine.Ample) (hample' : machine'.Ample)
    (hresolve : machine.resolve = machine'.resolve) (config : Config) (disk disk' : Storage.Disk)
    (history : List Order) (rules : List Rule) :
    let s := (followAll machine { config, disk } history).2
    let used := (s.follow machine (.refresh rules)).1.result
    let new := (follow machine' { config := s.config, disk := disk' } (.refresh rules)).1.result
    used.map (Except.map Ready.settled) = new.map (Except.map Ready.settled) ∧
      (∀ ready, used = some (.ok ready) → ready.credentials.length = ready.rules.length) ∧
      ∀ ready, new = some (.ok ready) → ready.credentials.length = ready.rules.length := by
  intro s used new
  have hnothing (secret : Nat → String) : ({} : Ledger).FromDraws secret := by simp [Ledger.FromDraws]
  have hledger : s.ledger.FromDraws machine.secret := fromDraws_followAll (hnothing _) history
  have hused : used.map (Except.map Ready.settled) = some (verdict machine.resolve s.config rules) :=
    follow_refresh_eq_verdict hample hledger
  have hnew : new.map (Except.map Ready.settled) = some (verdict machine'.resolve s.config rules) :=
    follow_refresh_eq_verdict hample' (hnothing _)
  refine ⟨?_, ?_, ?_⟩
  · rw [hused, hnew, hresolve]
  · intro ready h
    exact follow_refresh_length h
  · intro ready h
    exact follow_refresh_length h

section Sample

def ampleMachine (text : Char) (first : Int) : Machine where
  secret n := String.ofList (List.replicate n text)
  port n := .ok (first + n % 1000)
  resolve host := if host = "localhost" then some "127.0.0.1" else none

theorem ample_ampleMachine (text : Char) {first : Int} (h : 0 ≤ first ∧ first ≤ 64000) :
    (ampleMachine text first).Ample := by
  constructor
  · intro i j hsame
    have hlength := congrArg String.length hsame
    simpa [ampleMachine] using hlength
  · intro n
    refine ⟨first + n % 1000, rfl, ?_, ?_⟩
    · omega
    · omega

def failedOrders : List Order :=
  [.configure { sampleConfig with socksBindHost := "nowhere" }, .refresh sampleRules, .configure sampleConfig]

/-- After a failure the keys and the ports of a refresh are others than those of a new agent. All else is the
same. -/
theorem refresh_after_history_sample :
    (ampleMachine 'k' 40000).Ample ∧ (ampleMachine 'x' 50000).Ample ∧ ∃ a b,
      ((followAll (ampleMachine 'k' 40000) sampleSession failedOrders).2.follow
        (ampleMachine 'k' 40000) (.refresh sampleRules)).1.result = some (.ok a) ∧
      (sampleSession.follow (ampleMachine 'x' 50000) (.refresh sampleRules)).1.result =
        some (.ok b) ∧
      a.rules.map Rule.httpProxyPort = [some 40002, none, none, some 40003] ∧
      b.rules.map Rule.httpProxyPort = [some 50000, none, none, some 50001] ∧
      a.settled = b.settled := by
  have hample : (ampleMachine 'k' 40000).Ample := ample_ampleMachine _ (by decide)
  have hample' : (ampleMachine 'x' 50000).Ample := ample_ampleMachine _ (by decide)
  have hused : ((followAll (ampleMachine 'k' 40000) sampleSession failedOrders).2.follow
      (ampleMachine 'k' 40000) (.refresh sampleRules)).1.result.map
        (Except.map fun ready => ready.rules.map Rule.httpProxyPort) =
      some (.ok [some 40002, none, none, some 40003]) := rfl
  have hnew : (sampleSession.follow (ampleMachine 'x' 50000) (.refresh sampleRules)).1.result.map
        (Except.map fun ready => ready.rules.map Rule.httpProxyPort) =
      some (.ok [some 50000, none, none, some 50001]) := rfl
  obtain ⟨_, ha, hused⟩ := Option.map_eq_some_iff.mp hused
  obtain ⟨a, rfl, haports⟩ := map_eq_ok_iff.mp hused
  obtain ⟨_, hb, hnew⟩ := Option.map_eq_some_iff.mp hnew
  obtain ⟨b, rfl, hbports⟩ := map_eq_ok_iff.mp hnew
  refine ⟨hample, hample', a, b, ha, hb, haports, hbports, ?_⟩
  have hsame := (refresh_after_history hample hample' rfl sampleConfig sampleSession.disk
    sampleSession.disk failedOrders sampleRules).1
  change ((followAll (ampleMachine 'k' 40000) sampleSession failedOrders).2.follow
      (ampleMachine 'k' 40000) (.refresh sampleRules)).1.result.map _ =
    (sampleSession.follow (ampleMachine 'x' 50000) (.refresh sampleRules)).1.result.map _ at hsame
  rw [ha, hb] at hsame
  exact Except.ok.inj (Option.some.inj hsame)

end Sample

end Session
end Agent
end AccessGate
