import AccessGate.Agent.Session
import AccessGate.Proofs.Freshness
import AccessGate.Proofs.Provision.Secrecy

/-! # Secrets that do not show

Two sessions follow the same orders on machines that differ in their secrets alone. If the secrets repeat in
the same places, nothing tells the sessions apart but the keys: neither events and errors, nor the rules
apart from their keys, nor where the credentials lead. -/
namespace AccessGate

section Projection
variable {R : String → String → Prop}

def Credential.Alike (R : String → String → Prop) (c c' : Credential) : Prop := R c.1 c'.1 ∧ c.2 = c'.2

theorem projectFrom_alike (hR : Relator.BiUnique R) (loopback : String) {used used' : List String}
    (hused : List.Forall₂ R used used') {rules rules' : List Rule}
    (hrules : List.Forall₂ (Rule.Alike R) rules rules') :
    InStep (List.Forall₂ (Credential.Alike R)) (projectFrom loopback used rules)
      (projectFrom loopback used' rules') := by
  induction hrules generalizing used used' with
  | nil => exact .ok .nil
  | @cons r r' rest rest' hr _ ih =>
    have herror (f : RuleFault) : r.errorAt f = r'.errorAt f := hr.congr (Rule.errorAt · f) fun _ => rfl
    have htarget : r.target loopback = r'.target loopback := hr.congr (Rule.target loopback) fun _ => rfl
    have hkey := hr.key
    rw [projectFrom, projectFrom, herror, hr.ruleNum_eq, htarget]
    generalize r.secretKey = key at hkey
    generalize r'.secretKey = key' at hkey
    cases hkey with
    | none => exact .error _
    | @some key key' hkey =>
      -- A key that is used twice is so on both sides, since `R` pairs every key with one key only.
      have hmem : key ∈ used ↔ key' ∈ used' := List.rel_mem hR hkey hused
      simp only [hmem]
      by_cases htaken : key' ∈ used'
      · rw [if_pos htaken, if_pos htaken]
        exact .error _
      · rw [if_neg htaken, if_neg htaken]
        refine (InStep.of_eq rfl).bind fun endpoint _ hendpoint => ?_
        refine (ih (.cons hkey hused)).bind fun others others' hothers => ?_
        exact .ok (.cons ⟨hkey, hendpoint⟩ hothers)

end Projection

namespace Agent

open AccessGate.Provision

structure Machine.Alike (R : String → String → Prop) (m m' : Machine) : Prop where
  supply : m.toSupply.Alike R m'.toSupply
  resolve : m.resolve = m'.resolve

structure Ready.Alike (R : String → String → Prop) (a b : Ready) : Prop where
  rules : List.Forall₂ (Rule.Alike R) a.rules b.rules
  credentials : List.Forall₂ (Credential.Alike R) a.credentials b.credentials
  listener : a.listener = b.listener

section Steps
variable {R : String → String → Prop} {m m' : Machine} {l l' : Ledger}

theorem connect_alike (hR : Relator.BiUnique R) (hm : m.Alike R m') (config : Config)
    {rules rules' : List Rule} (hrules : List.Forall₂ (Rule.Alike R) rules rules') :
    InStep (Ready.Alike R) (connect m config rules) (connect m' config rules') := by
  unfold connect
  rw [← hm.resolve]
  refine (InStep.of_eq rfl).bind fun listener _ hlistener => ?_
  refine (projectFrom_alike hR loopbackAddress .nil hrules).bind fun _ _ hcredentials => ?_
  exact .ok ⟨hrules, hcredentials, hlistener⟩

theorem refresh_alike (hR : Relator.BiUnique R) (hm : m.Alike R m') (config : Config)
    (rules : List Rule) (h : l.Alike R l') :
    (refresh m config rules l).Alike R (Ready.Alike R) (refresh m' config rules l') := by
  obtain ⟨hserved, hledger, hevents⟩ := provision_alike hR hm.supply true (request config) rules h
  have hready : InStep (Ready.Alike R)
      ((provision m.toSupply true (request config) rules l).result >>= connect m config)
      ((provision m'.toSupply true (request config) rules l').result >>= connect m' config) :=
    hserved.bind fun _ _ hrules => connect_alike hR hm config hrules
  simp only [refresh, hevents]
  generalize (provision m.toSupply true (request config) rules l).result >>= connect m config = x at hready
  generalize (provision m'.toSupply true (request config) rules l').result >>= connect m' config = x'
    at hready
  cases hready with
  | error f => exact ⟨.error f, hledger, rfl⟩
  | ok hready =>
    refine ⟨.ok hready, hledger, ?_⟩
    simp only [hready.credentials.length_eq, hready.listener]

theorem start_alike (hR : Relator.BiUnique R) (hm : m.Alike R m') (disk : Storage.Disk) (config : Config)
    (h : l.Alike R l') : (start m disk config l).Alike R (Ready.Alike R) (start m' disk config l') := by
  unfold start serve
  cases readFeed config (disk.read (feedPath config)) with
  | error f => exact ⟨.error f, h, rfl⟩
  | ok rules =>
    obtain ⟨hready, hledger, hevents⟩ := refresh_alike hR hm config rules h
    exact ⟨hready, hledger, congrArg (_ :: ·) hevents⟩

end Steps

structure Session.Alike (R : String → String → Prop) (s s' : Session) : Prop where
  config : s.config = s'.config
  disk : s.disk = s'.disk
  ledger : s.ledger.Alike R s'.ledger
  inForce : Option.Rel (Ready.Alike R) s.inForce s'.inForce

structure Reply.Alike (R : String → String → Prop) (x y : Reply) : Prop where
  result : Option.Rel (InStep (Ready.Alike R)) x.result y.result
  events : x.events = y.events

/-- What is in force, with the keys left out: the rules, where their credentials lead, and the listener. -/
structure Shown where
  rules : List Rule
  endpoints : List Endpoint
  listener : Listener

def Ready.shown (ready : Ready) : Shown :=
  ⟨ready.rules.map Rule.redacted, ready.credentials.map Prod.snd, ready.listener⟩

/-- What shows of a reply when no key is shown: whether it is a success and with what, or which failure it is,
and all that is told. -/
def Reply.shown (reply : Reply) : Option (Except Failure Shown) × List Event :=
  (reply.result.map (Except.map Ready.shown), reply.events)

theorem Ready.Alike.shown_eq {R : String → String → Prop} {a b : Ready} (h : a.Alike R b) :
    a.shown = b.shown := by
  have hendpoints : a.credentials.map Prod.snd = b.credentials.map Prod.snd := by
    have hpairs := h.credentials.imp fun _ _ hc => hc.2
    rwa [← List.forall₂_eq_eq_eq, List.forall₂_map_left_iff, List.forall₂_map_right_iff]
  rw [shown, shown, map_redacted_of_alike h.rules, hendpoints, h.listener]

theorem Reply.Alike.shown_eq {R : String → String → Prop} {x y : Reply} (h : x.Alike R y) :
    x.shown = y.shown := by
  have hresult : x.result.map (Except.map Ready.shown) = y.result.map (Except.map Ready.shown) := by
    have hresult := h.result
    generalize x.result = result at hresult
    generalize y.result = result' at hresult
    cases hresult with
    | none => rfl
    | some hstep =>
      cases hstep with
      | error f => rfl
      | ok hready => exact congrArg (fun v => some (Except.ok v)) hready.shown_eq
  rw [shown, shown, hresult, h.events]

/-- The key that is drawn in the place of another one. -/
def Twin (secret secret' : Nat → String) (key key' : String) : Prop :=
  ∃ i, secret i = key ∧ secret' i = key'

theorem biUnique_twin {secret secret' : Nat → String}
    (hpattern : ∀ i j, secret i = secret j ↔ secret' i = secret' j) :
    Relator.BiUnique (Twin secret secret') := by
  constructor
  · rintro _ _ _ ⟨i, rfl, rfl⟩ ⟨j, rfl, hj⟩
    exact (hpattern i j).mpr hj.symm
  · rintro _ _ _ ⟨i, rfl, rfl⟩ ⟨j, hj, rfl⟩
    exact (hpattern i j).mp hj.symm

namespace Session
variable {R : String → String → Prop} {m m' : Machine} {s s' : Session}

theorem finish_alike (h : s.Alike R s') {o o' : Outcome Ready} (ho : o.Alike R (Ready.Alike R) o') :
    (s.finish o).1.Alike R (s'.finish o').1 ∧ (s.finish o).2.Alike R (s'.finish o').2 := by
  refine ⟨⟨.some ho.result, ho.events⟩, h.config, h.disk, ho.ledger, ?_⟩
  have hresult := ho.result
  simp only [finish]
  generalize o.result = x at hresult
  generalize o'.result = x' at hresult
  cases hresult with
  | error f => exact h.inForce
  | ok hready => exact .some hready

theorem follow_alike (hR : Relator.BiUnique R) (hm : m.Alike R m') (h : s.Alike R s') (order : Order) :
    (s.follow m order).1.Alike R (s'.follow m' order).1 ∧
      (s.follow m order).2.Alike R (s'.follow m' order).2 := by
  cases order with
  | replaceDisk disk => exact ⟨⟨.none, rfl⟩, h.config, rfl, h.ledger, h.inForce⟩
  | configure config => exact ⟨⟨.none, rfl⟩, rfl, h.disk, h.ledger, h.inForce⟩
  | start =>
    simp only [follow, ← h.disk, ← h.config]
    exact finish_alike h (start_alike hR hm s.disk s.config h.ledger)
  | refresh rules =>
    simp only [follow, ← h.config]
    exact finish_alike h (refresh_alike hR hm s.config rules h.ledger)

/-- Sessions that are alike stay so through any orders, and all their replies are alike. -/
theorem followAll_alike (hR : Relator.BiUnique R) (hm : m.Alike R m') (h : s.Alike R s')
    (orders : List Order) :
    List.Forall₂ (Reply.Alike R) (s.followAll m orders).1 (s'.followAll m' orders).1 ∧
      (s.followAll m orders).2.Alike R (s'.followAll m' orders).2 := by
  induction orders generalizing s s' with
  | nil => exact ⟨.nil, h⟩
  | cons order rest ih =>
    obtain ⟨hreply, hsession⟩ := follow_alike hR hm h order
    obtain ⟨hreplies, hlast⟩ := ih hsession
    exact ⟨.cons hreply hreplies, hlast⟩

/-- When a new agent follows orders, what shows of its replies depends on its secrets in nothing but which of
them are equal: with other secrets that are equal in the same places, the events, the failures, the rules
apart from their keys, the endpoints and the listeners are all the same. -/
theorem followAll_shown_eq (machine : Machine) (secret' : Nat → String)
    (hpattern : ∀ i j, machine.secret i = machine.secret j ↔ secret' i = secret' j) (config : Config)
    (disk : Storage.Disk) (orders : List Order) :
    (followAll machine { config, disk } orders).1.map Reply.shown =
      (followAll { machine with secret := secret' } { config, disk } orders).1.map Reply.shown := by
  have hm : machine.Alike (Twin machine.secret secret') { machine with secret := secret' } :=
    ⟨⟨fun i => ⟨i, rfl, rfl⟩, rfl⟩, rfl⟩
  have hnew : Session.Alike (Twin machine.secret secret') { config, disk } { config, disk } :=
    ⟨rfl, rfl, ⟨.nil, rfl, rfl⟩, .none⟩
  have hreplies := (followAll_alike (biUnique_twin hpattern) hm hnew orders).1
  rw [← List.forall₂_eq_eq_eq, List.forall₂_map_left_iff, List.forall₂_map_right_iff]
  exact hreplies.imp fun _ _ h => h.shown_eq

section Sample

/-- Secrets that come twice each, as those of the sample machine, but are none of them. -/
def sampleTwins (n : Nat) : String := String.ofList (List.replicate (n / 2 + 1) 'x')

theorem followAll_shown_eq_sample :
    (∀ i j, sampleMachine.secret i = sampleMachine.secret j ↔ sampleTwins i = sampleTwins j) ∧
      (sampleSession.followAll sampleMachine interruptedOrders).1.map Reply.shown =
        (sampleSession.followAll { sampleMachine with secret := sampleTwins } interruptedOrders).1.map
          Reply.shown := by
  have hpattern (i j : Nat) : sampleMachine.secret i = sampleMachine.secret j ↔
      sampleTwins i = sampleTwins j := by
    simp only [sampleMachine, sampleTwins, String.ofList_inj, List.replicate_inj]
    simp
  exact ⟨hpattern, followAll_shown_eq sampleMachine sampleTwins hpattern _ _ interruptedOrders⟩

end Sample

end Session
end Agent
end AccessGate
