import AccessGate.Agent.Session
import AccessGate.Proofs.Access
import AccessGate.Proofs.Provision.Issue

/-! # Keys that do not come back

The keys that were handed out only grow in number, whatever a step comes to, and a step makes rules ready
with keys that were not among them. So no two successes of a session have a key in common. -/
namespace AccessGate

namespace Provision
variable {supply : Supply} {logging : Bool} {request : Request} {rules served : List Rule} {l : Ledger}

/-- The key of a rule that is served was not handed out before, and is from now on. -/
theorem provision_key_fresh (h : (provision supply logging request rules l).result = .ok served)
    {r : Rule} (hr : r ∈ served) {key : String} (hkey : r.secretKey = some key) :
    key ∉ l.issued ∧ key ∈ (provision supply logging request rules l).ledger.issued := by
  have hissues := issues_provision supply logging request rules l
  have hgiven : key ∈ (Step.provision request).keysGiven supply rules l := by
    have hmem : some key ∈ served.map Rule.secretKey := List.mem_map.mpr ⟨r, hr, hkey⟩
    rw [keysGiven_of_provision h, List.mem_map] at hmem
    obtain ⟨k, hk, hsame⟩ := hmem
    rwa [Option.some.inj hsame] at hk
  exact ⟨hissues.fresh key hgiven, hissues.mem_iff.mpr (.inl hgiven)⟩

end Provision

namespace Agent

open AccessGate.Provision

variable {machine : Machine} {ready : Ready} {l : Ledger}

/-- `Renews l o`: whatever became of a step from `l`, the keys handed out before are still known as such,
and if it came to anything, then with keys that are new to `l` and known from now on. -/
structure Renews (l : Ledger) (o : Outcome Ready) : Prop where
  kept : l.issued <:+ o.ledger.issued
  fresh : ∀ ready, o.result = .ok ready → ∀ key ∈ Keyed.keys ready.credentials,
    key ∉ l.issued ∧ key ∈ o.ledger.issued

theorem refresh_renews (machine : Machine) (config : Config) (rules : List Rule) (l : Ledger) :
    Renews l (refresh machine config rules l) := by
  constructor
  · rw [refresh_ledger]
    exact (issues_provision machine.toSupply true (request config) rules l).suffix
  · intro ready h key hkey
    obtain ⟨hserved, hgrants, _⟩ := refresh_eq_ok h
    obtain ⟨c, hc, rfl⟩ := List.mem_map.mp hkey
    obtain ⟨r, hr, hgrant⟩ := (mem_credentials_iff hgrants).mp hc
    rw [refresh_ledger]
    exact provision_key_fresh hserved hr hgrant.1

theorem start_renews (machine : Machine) (disk : Storage.Disk) (config : Config) (l : Ledger) :
    Renews l (start machine disk config l) := by
  unfold start serve
  split
  · exact ⟨List.suffix_refl _, fun _ h => by cases h⟩
  · rename_i rules _
    have h := refresh_renews machine config rules l
    exact ⟨h.kept, h.fresh⟩

namespace Session
variable {s : Session} {order : Order} {orders : List Order}

theorem follow_issued_suffix (machine : Machine) (s : Session) (order : Order) :
    s.ledger.issued <:+ (s.follow machine order).2.ledger.issued := by
  cases order with
  | replaceDisk disk => exact List.suffix_refl _
  | configure config => exact List.suffix_refl _
  | start => exact (start_renews machine s.disk s.config s.ledger).kept
  | refresh rules => exact (refresh_renews machine s.config rules s.ledger).kept

theorem follow_key_fresh (h : (s.follow machine order).1.result = some (.ok ready)) :
    ∀ key ∈ Keyed.keys ready.credentials,
      key ∉ s.ledger.issued ∧ key ∈ (s.follow machine order).2.ledger.issued := by
  cases order with
  | replaceDisk disk => cases h
  | configure config => cases h
  | start =>
    exact (start_renews machine s.disk s.config s.ledger).fresh ready (Option.some.inj h)
  | refresh rules =>
    exact (refresh_renews machine s.config rules s.ledger).fresh ready (Option.some.inj h)

theorem followAll_cons (machine : Machine) (s : Session) (order : Order) (rest : List Order) :
    s.followAll machine (order :: rest) =
      ((s.follow machine order).1 :: ((s.follow machine order).2.followAll machine rest).1,
        ((s.follow machine order).2.followAll machine rest).2) :=
  rfl

theorem followAll_key_fresh {reply : Reply} (hmem : reply ∈ (s.followAll machine orders).1)
    (h : reply.result = some (.ok ready)) :
    ∀ key ∈ Keyed.keys ready.credentials, key ∉ s.ledger.issued := by
  induction orders generalizing s with
  | nil => cases hmem
  | cons order rest ih =>
    -- What a later step finds handed out includes all that this one found, so the hypothesis carries over.
    intro key hkey hissued
    rw [followAll_cons] at hmem
    rcases List.mem_cons.mp hmem with rfl | hrest
    · exact (follow_key_fresh h key hkey).1 hissued
    · exact ih hrest key hkey ((follow_issued_suffix machine s order).subset hissued)

def KeysApart (x y : Reply) : Prop :=
  ∀ a b, x.result = some (.ok a) → y.result = some (.ok b) →
    List.Disjoint (Keyed.keys a.credentials) (Keyed.keys b.credentials)

theorem KeysApart.symm {x y : Reply} (h : KeysApart x y) : KeysApart y x :=
  fun a b ha hb _ hkey hkey' => h b a hb ha hkey' hkey

theorem followAll_keysApart (machine : Machine) (s : Session) (orders : List Order) :
    (s.followAll machine orders).1.Pairwise KeysApart := by
  induction orders generalizing s with
  | nil => exact List.Pairwise.nil
  | cons order rest ih =>
    rw [followAll_cons]
    refine List.Pairwise.cons (fun y hy a b ha hb key hkey hkey' => ?_) (ih _)
    have hknown := (follow_key_fresh ha key hkey).2
    exact followAll_key_fresh hy hb key hkey' hknown

/-- What the orders came to in the step at index `i`, if they asked for rules to be made ready there. -/
def resultAt (machine : Machine) (s : Session) (orders : List Order) (i : Nat) :
    Option (Except Failure Ready) :=
  (s.followAll machine orders).1[i]?.bind Reply.result

/-- Two different successes of a session have no key in common, so whoever is let in by what is in force
after one of them is turned away by what is in force after any other one. -/
theorem followAll_keys_disjoint {i j : Nat} {a b : Ready} (hne : i ≠ j)
    (ha : resultAt machine s orders i = some (.ok a)) (hb : resultAt machine s orders j = some (.ok b)) :
    List.Disjoint (Keyed.keys a.credentials) (Keyed.keys b.credentials) ∧
      ∀ username endpoint, a.authenticator.authenticate username = .ok endpoint →
        b.authenticator.authenticate username = .error .badCredentials := by
  obtain ⟨x, hx, ha⟩ := Option.bind_eq_some_iff.mp ha
  obtain ⟨y, hy, hb⟩ := Option.bind_eq_some_iff.mp hb
  obtain ⟨hi, rfl⟩ := List.getElem?_eq_some_iff.mp hx
  obtain ⟨hj, rfl⟩ := List.getElem?_eq_some_iff.mp hy
  have hpairs := List.pairwise_iff_getElem.mp (followAll_keysApart machine s orders)
  have hdisjoint : List.Disjoint (Keyed.keys a.credentials) (Keyed.keys b.credentials) := by
    rcases Nat.lt_or_gt_of_ne hne with hlt | hlt
    · exact hpairs i j hi hj hlt a b ha hb
    · exact (hpairs j i hj hi hlt).symm a b ha hb
  refine ⟨hdisjoint, fun username endpoint h => ?_⟩
  obtain ⟨hempty, hmem⟩ := Authenticator.authenticate_eq_ok_iff.mp h
  have hkey : username ∈ Keyed.keys a.credentials :=
    Keyed.mem_keys_ofList.mp (List.mem_map_of_mem hmem)
  refine Authenticator.authenticate_eq_badCredentials hempty fun hkey' => ?_
  exact hdisjoint hkey (Keyed.mem_keys_ofList.mp hkey')

section Sample

def sampleSession : Session := { config := sampleConfig, disk := { home := .ofChars ['/'] } }

/-- A success, a refresh that draws keys but finds no host to listen at, and a success. -/
def interruptedOrders : List Order :=
  [.refresh sampleRules, .configure { sampleConfig with socksBindHost := "nowhere" },
    .refresh sampleRules, .configure sampleConfig, .refresh sampleRules]

theorem followAll_keys_disjoint_sample :
    ∃ a b, resultAt sampleMachine sampleSession interruptedOrders 0 = some (.ok a) ∧
      resultAt sampleMachine sampleSession interruptedOrders 4 = some (.ok b) ∧
      Keyed.keys b.credentials = ["kkkkkkkk", "kkkkkkkkk", "kkkkkkkkkk", "kkkkkkkkkkk"] ∧
      List.Disjoint (Keyed.keys a.credentials) (Keyed.keys b.credentials) := by
  obtain ⟨a, ha⟩ : ∃ a, resultAt sampleMachine sampleSession interruptedOrders 0 = some (.ok a) :=
    ⟨_, rfl⟩
  obtain ⟨b, hb, hkeys⟩ : ∃ b, resultAt sampleMachine sampleSession interruptedOrders 4 = some (.ok b) ∧
      Keyed.keys b.credentials = ["kkkkkkkk", "kkkkkkkkk", "kkkkkkkkkk", "kkkkkkkkkkk"] :=
    ⟨_, rfl, rfl⟩
  exact ⟨a, b, ha, hb, hkeys, (followAll_keys_disjoint (by decide) ha hb).1⟩

end Sample

end Session
end Agent
end AccessGate
