import AccessGate.Proofs.Provision.Course

/-! # When rules can be served

Provisioning succeeds exactly when the feed and the candidates for the client are fit, and the machine
answers what is asked of it; what is served are the candidates, in their order, with the answers of the
machine filled in. -/
namespace AccessGate

def Rule.numbered (r : Rule) : Rule :=
  { r with ruleNum := (r.name.bind fun name => Text.integer? (Text.trim name)).getD r.ruleNum }

def Rule.NameReads (r : Rule) : Prop :=
  ∀ name, r.name = some name → ∃ n, Text.integer? (Text.trim name) = some n

namespace Provision

/-- The rules that are to be served: the numbered rules that name the client or all clients, made out to
the client, and behind them the system rules. -/
def candidates (request : Request) (rules : List Rule) : List Rule :=
  ((rules.map Rule.numbered).filter fun r =>
      r.clientId = request.clientId || r.clientId = some allClients).map
    (fun r => { r with clientId := request.clientId }) ++ request.system

/-- Rules with what is filled in: the port of the listener, the keys in their order, and the answers to the
calls for a port from `calls` on, which the rules for plain http get in their order. -/
def equip (port : Nat → Except String Int) (calls : Nat) (socksPort : Int) (keys : List String)
    (rules : List Rule) : List Rule :=
  rules.mapIdx fun i r =>
    { r with
      socksServerPort := some socksPort
      secretKey := keys[i]?
      httpProxyPort :=
        if r.scheme? = some .http then
          (port (calls + (rules.take i).countP Rule.isPlainHttp)).toOption
        else r.httpProxyPort }

def Admitted (rules : List Rule) : Prop := (renumber rules >>= RuleSet.validate) = .ok ()

/-- What must hold for rules to be served. -/
structure Servable (supply : Supply) (request : Request) (rules : List Rule) (l : Ledger) : Prop where
  namesRead : ∀ r ∈ rules, r.NameReads
  feedFit : RuleSet.Fit (rules.map Rule.numbered)
  candidatesFit : RuleSet.Fit (candidates request rules)
  keysDrawn : ∃ keys l', Drawn supply.secret l keys l' ∧
    keys.length = (candidates request rules).length
  portsAnswered : ∀ n < (candidates request rules).countP Rule.isPlainHttp,
    ∃ p, supply.port (l.portCalls + n) = .ok p ∧ 0 ≤ p ∧ p ≤ 65535
  listenerPort : 0 ≤ request.socksPort ∧ request.socksPort ≤ 65535
  ownPorts : ∀ r ∈ candidates request rules, r.scheme? ≠ some .http →
    ∀ p, r.httpProxyPort = some p → 0 ≤ p ∧ p ≤ 65535

section Preparation
variable {request : Request} {rules ready : List Rule}

theorem numbered_of_name_none {r : Rule} (h : r.name = none) : r.numbered = r := by
  have hnum : (r.name.bind fun name => Text.integer? (Text.trim name)).getD r.ruleNum = r.ruleNum := by
    rw [h]
    rfl
  rw [Rule.numbered, hnum]

theorem renumberRule_eq_ok_iff {r s : Rule} : renumberRule r = .ok s ↔ r.NameReads ∧ r.numbered = s := by
  unfold renumberRule Rule.NameReads
  cases hname : r.name with
  | none => simp [numbered_of_name_none hname]
  | some name => cases hn : Text.integer? (Text.trim name) <;> simp [Rule.numbered, hname, hn]

theorem renumber_eq_ok_iff {numbered : List Rule} :
    renumber rules = .ok numbered ↔ (∀ r ∈ rules, r.NameReads) ∧ rules.map Rule.numbered = numbered := by
  rw [renumber, mapM_eq_ok_iff]
  simp only [renumberRule_eq_ok_iff, List.forall₂_and_left]
  rw [← List.forall₂_map_left_iff (R := Eq), List.forall₂_eq_eq_eq]

theorem prepare_eq_ok_iff : prepare request rules = .ok ready ↔
    (∀ r ∈ rules, r.NameReads) ∧ RuleSet.Fit (rules.map Rule.numbered) ∧
      ready = assignSocksPort request.socksPort (candidates request rules) := by
  rw [prepare, bind_eq_ok_iff]
  constructor
  · intro h
    obtain ⟨numbered, hnumbered, h⟩ := h
    obtain ⟨hnames, rfl⟩ := renumber_eq_ok_iff.mp hnumbered
    obtain ⟨hfit, hready⟩ := seq_eq_ok_iff.mp h
    exact ⟨hnames, RuleSet.validate_eq_ok_iff.mp hfit, (pure_eq_ok_iff.mp hready).symm⟩
  · intro h
    obtain ⟨hnames, hfit, rfl⟩ := h
    refine ⟨rules.map Rule.numbered, renumber_eq_ok_iff.mpr ⟨hnames, rfl⟩, ?_⟩
    exact seq_eq_ok_iff.mpr ⟨RuleSet.validate_eq_ok_iff.mpr hfit, pure_eq_ok_iff.mpr rfl⟩

theorem admitted_iff :
    Admitted rules ↔ (∀ r ∈ rules, r.NameReads) ∧ RuleSet.Fit (rules.map Rule.numbered) := by
  rw [Admitted, bind_eq_ok_iff]
  simp only [renumber_eq_ok_iff, RuleSet.validate_eq_ok_iff]
  constructor
  · intro h
    obtain ⟨_, ⟨hnames, rfl⟩, hfit⟩ := h
    exact ⟨hnames, hfit⟩
  · intro h
    exact ⟨_, ⟨h.1, rfl⟩, h.2⟩

theorem prepare_eq_error_iff {e : RuleError} : prepare request rules = .error e ↔
    (renumber rules >>= RuleSet.validate) = .error e := by
  unfold prepare
  cases renumber rules with
  | error _ => simp [bind, Except.bind]
  | ok numbered => cases hfeed : RuleSet.validate numbered <;> simp [hfeed, bind, Except.bind, pure, Except.pure]

theorem prepare_eq_ok_iff_admitted : prepare request rules = .ok ready ↔
    Admitted rules ∧ ready = assignSocksPort request.socksPort (candidates request rules) := by
  rw [prepare_eq_ok_iff, admitted_iff, and_assoc]

end Preparation

@[simp] theorem length_assignSocksPort (port : Int) (rules : List Rule) :
    (assignSocksPort port rules).length = rules.length :=
  List.length_map _

section Filling
variable {port : Nat → Except String Int} {calls : Nat} {socksPort : Int} {keys : List String}
  {rules : List Rule}

theorem map_authored_withKeys (hlen : keys.length = rules.length) :
    (withKeys rules keys).map Rule.authored = rules.map Rule.authored := by
  induction rules generalizing keys with
  | nil => simp [withKeys]
  | cons r rest ih =>
    cases keys with
    | nil => simp at hlen
    | cons key keys => exact congrArg (r.authored :: ·) (ih (Nat.succ.inj hlen))

theorem map_authored_withPorts :
    (withPorts port calls rules).map Rule.authored = rules.map Rule.authored := by
  induction rules generalizing calls with
  | nil => rfl
  | cons r rest ih =>
    cases hr : r.isPlainHttp with
    | false => rw [withPorts_cons_other hr, List.map_cons, ih, List.map_cons]
    | true =>
      rw [withPorts_cons_http hr, List.map_cons, ih, List.map_cons]
      rfl

theorem map_authored_assignSocksPort :
    (assignSocksPort socksPort rules).map Rule.authored = rules.map Rule.authored := by
  rw [assignSocksPort, List.map_map]
  rfl

theorem withKeys_filled : ∀ r ∈ withKeys (assignSocksPort socksPort rules) keys,
    r.socksServerPort = some socksPort ∧ r.secretKey.isSome = true := by
  intro s hs
  obtain ⟨r, hr, key, _, rfl⟩ := mem_withKeys hs
  obtain ⟨r, _, rfl⟩ := List.mem_map.mp hr
  exact ⟨rfl, rfl⟩

theorem equip_eq (hlen : keys.length = rules.length) :
    withPorts port calls (withKeys (assignSocksPort socksPort rules) keys) =
      equip port calls socksPort keys rules := by
  induction rules generalizing keys calls with
  | nil => rfl
  | cons r rest ih =>
    cases keys with
    | nil => simp at hlen
    | cons key keys =>
      have hrest (calls : Nat) : withPorts port calls (withKeys (assignSocksPort socksPort rest) keys) =
          equip port calls socksPort keys rest := ih (Nat.succ.inj hlen)
      let filled : Rule := { r with socksServerPort := some socksPort, secretKey := some key }
      change withPorts port calls (filled :: withKeys (assignSocksPort socksPort rest) keys) = _
      cases hr : r.isPlainHttp with
      | false =>
        have hscheme : ¬r.scheme? = some .http := by simpa [Rule.isPlainHttp] using hr
        rw [withPorts_cons_other (show filled.isPlainHttp = false from hr), hrest]
        simp [equip, List.mapIdx_cons, filled, hscheme, hr]
      | true =>
        have hscheme := Rule.isPlainHttp_iff.mp hr
        rw [withPorts_cons_http (show filled.isPlainHttp = true from hr), hrest]
        simp [equip, List.mapIdx_cons, filled, Rule.withPort, hscheme, hr, Nat.add_assoc, Nat.add_comm 1]

theorem validateRuntime_withPorts_iff (hanswered : Answered port calls rules)
    (hfilled : ∀ r ∈ rules, r.socksServerPort = some socksPort ∧ r.secretKey.isSome = true) :
    RuleSet.validateRuntime (withPorts port calls rules) = .ok () ↔
      RuleSet.Fit rules ∧ isPort socksPort = true ∧
        ∀ s ∈ withPorts port calls rules, ∀ p, s.httpProxyPort = some p → isPort p = true := by
  have hfit : RuleSet.Fit (withPorts port calls rules) ↔ RuleSet.Fit rules := by
    rw [← RuleSet.fit_map_authored, map_authored_withPorts, RuleSet.fit_map_authored]
  have hcheck (hvalid : RuleSet.Fit (withPorts port calls rules)) (s : Rule)
      (hs : s ∈ withPorts port calls rules) : s.checkRuntime = .ok () ↔
        isPort socksPort = true ∧ ∀ p, s.httpProxyPort = some p → isPort p = true := by
    obtain ⟨r, hr, hport⟩ := mem_withPorts hs
    have hs' : s.socksServerPort = some socksPort ∧ s.secretKey.isSome = true := by
      rw [hport]
      exact hfilled r hr
    have hvalid' := Rule.validate_eq_ok_iff.mp (hvalid.valid s hs)
    have hproxy := Rule.checkHttpProxyPort_eq_ok_iff hvalid' fun hhttp =>
      isSome_port_of_answered hanswered s hs (Rule.isPlainHttp_iff.mpr hhttp)
    rw [Rule.checkRuntime_eq_ok_iff, hproxy, hs'.1, Rule.checkSocksServerPort_some_eq_ok_iff]
    simp only [hvalid', hs'.2, true_and, and_comm]
  rw [RuleSet.validateRuntime_eq_ok_iff]
  constructor
  · intro h
    obtain ⟨hvalid, hruntime⟩ := h
    have hruntime' := fun s hs => (hcheck hvalid s hs).mp (hruntime s hs)
    obtain ⟨s, hs⟩ := List.exists_mem_of_ne_nil _ hvalid.nonempty
    exact ⟨hfit.mp hvalid, (hruntime' s hs).1, fun s hs => (hruntime' s hs).2⟩
  · intro h
    obtain ⟨hvalid, hsocks, hports⟩ := h
    exact ⟨hfit.mpr hvalid, fun s hs => (hcheck (hfit.mpr hvalid) s hs).mpr ⟨hsocks, hports s hs⟩⟩

/-- What the port of the listener and the keys have no part in holds before as after. -/
theorem forall_withKeys_iff (socksPort : Int) {P : Rule → Prop} (hlen : keys.length = rules.length)
    (hP : ∀ r key, P { r with socksServerPort := some socksPort, secretKey := some key } ↔ P r) :
    (∀ r ∈ withKeys (assignSocksPort socksPort rules) keys, P r) ↔ ∀ r ∈ rules, P r := by
  induction rules generalizing keys with
  | nil => simp [withKeys, assignSocksPort]
  | cons r rest ih =>
    cases keys with
    | nil => simp at hlen
    | cons key keys =>
      rw [List.forall_mem_cons, ← ih (Nat.succ.inj hlen), ← hP r key, ← List.forall_mem_cons]
      rfl

theorem countP_withKeys (socksPort : Int) (hlen : keys.length = rules.length) :
    (withKeys (assignSocksPort socksPort rules) keys).countP Rule.isPlainHttp =
      rules.countP Rule.isPlainHttp := by
  have hcount (xs : List Rule) :
      xs.countP Rule.isPlainHttp = (xs.map Rule.authored).countP Rule.isPlainHttp := by
    rw [List.countP_map]
    rfl
  rw [hcount, map_authored_withKeys (by simpa using hlen), map_authored_assignSocksPort, ← hcount]

theorem answered_withKeys_iff (socksPort : Int) (hlen : keys.length = rules.length) :
    Answered port calls (withKeys (assignSocksPort socksPort rules) keys) ↔ Answered port calls rules := by
  rw [Answered, countP_withKeys socksPort hlen, Answered]

theorem fit_withKeys_iff (hlen : keys.length = rules.length) :
    RuleSet.Fit (withKeys (assignSocksPort socksPort rules) keys) ↔ RuleSet.Fit rules := by
  rw [← RuleSet.fit_map_authored, map_authored_withKeys (by simpa using hlen),
    map_authored_assignSocksPort, RuleSet.fit_map_authored]

theorem validateRuntime_equip_iff (hlen : keys.length = rules.length) (hanswered : Answered port calls rules) :
    RuleSet.validateRuntime (equip port calls socksPort keys rules) = .ok () ↔
      RuleSet.Fit rules ∧ isPort socksPort = true ∧
        (∀ n < rules.countP Rule.isPlainHttp, ∃ p, port (calls + n) = .ok p ∧ isPort p = true) ∧
        ∀ r ∈ rules, r.isPlainHttp = false → ∀ p, r.httpProxyPort = some p → isPort p = true := by
  have hkeyed := (answered_withKeys_iff socksPort hlen).mpr hanswered
  rw [← equip_eq hlen, validateRuntime_withPorts_iff hkeyed withKeys_filled, fit_withKeys_iff hlen,
    forall_ports_withPorts hkeyed, countP_withKeys socksPort hlen]
  have hown := forall_withKeys_iff socksPort hlen
    (P := fun r => r.isPlainHttp = false → ∀ p, r.httpProxyPort = some p → isPort p = true)
    fun r key => Iff.rfl
  rw [hown]

end Filling

/-- `Equipped supply request rules l keys l₁ served`: the machine has given all that the candidates need, a key
to each of them and a port to each one for plain http, which makes `served` of them; `l₁` is the ledger after the
draws. -/
structure Equipped (supply : Supply) (request : Request) (rules : List Rule) (l : Ledger) (keys : List String)
    (l₁ : Ledger) (served : List Rule) : Prop where
  admitted : Admitted rules
  drawn : Drawn supply.secret l keys l₁
  length_keys : keys.length = (candidates request rules).length
  answered : Answered supply.port l.portCalls (candidates request rules)
  served_eq : served = equip supply.port l.portCalls request.socksPort keys (candidates request rules)

section Stages
variable {supply : Supply} {request : Request} {rules ready keyed served : List Rule} {l l₁ l₂ : Ledger}
  {keys : List String} {events : List Event}

theorem assignKeys_ready_eq_ok_iff {secret : Nat → String} (socksPort : Int) :
    assignKeys secret (assignSocksPort socksPort rules) l = (.ok keyed, l₁) ↔ ∃ keys, Drawn secret l keys l₁ ∧
      keys.length = rules.length ∧ keyed = withKeys (assignSocksPort socksPort rules) keys := by
  rw [assignKeys_eq_ok_iff, length_assignSocksPort]

theorem Equipped.stages (h : Equipped supply request rules l keys l₁ served) :
    ∃ ready keyed, prepare request rules = .ok ready ∧ assignKeys supply.secret ready l = (.ok keyed, l₁) ∧
      allocatePorts supply.port keyed l₁ = (.ok served,
        ⟨keys.reverse ++ l.issued, l₁.draws,
          l.portCalls + (candidates request rules).countP Rule.isPlainHttp⟩, portEvents served) := by
  obtain ⟨hadmitted, hdrawn, hlen, hanswered, rfl⟩ := h
  have hkeys := (assignKeys_ready_eq_ok_iff request.socksPort).mpr ⟨keys, hdrawn, hlen, rfl⟩
  refine ⟨_, _, prepare_eq_ok_iff_admitted.mpr ⟨hadmitted, rfl⟩, hkeys, ?_⟩
  have hkeyed := (answered_withKeys_iff request.socksPort hlen).mpr hanswered
  rw [← hdrawn.portCalls_eq] at hkeyed
  rw [allocatePorts_of_answered hkeyed, hdrawn.portCalls_eq, equip_eq hlen, countP_withKeys _ hlen,
    hdrawn.issued_eq]

theorem equipped_of_stages (hprepare : prepare request rules = .ok ready)
    (hkeys : assignKeys supply.secret ready l = (.ok keyed, l₁))
    (hports : allocatePorts supply.port keyed l₁ = (.ok served, l₂, events)) :
    ∃ keys, Equipped supply request rules l keys l₁ served ∧ PortsTold served events ∧
      l₂ = ⟨keys.reverse ++ l.issued, l₁.draws,
        l.portCalls + (candidates request rules).countP Rule.isPlainHttp⟩ := by
  obtain ⟨hadmitted, rfl⟩ := prepare_eq_ok_iff_admitted.mp hprepare
  obtain ⟨keys, hdrawn, hlen, rfl⟩ := (assignKeys_ready_eq_ok_iff request.socksPort).mp hkeys
  obtain ⟨hanswered, rfl⟩ := allocatePorts_eq_ok_iff.mp (congrArg Prod.fst hports)
  rw [allocatePorts_of_answered hanswered] at hports
  obtain ⟨hl₂, hevents⟩ := Prod.mk.inj (Prod.mk.inj hports).2
  refine ⟨keys, ⟨hadmitted, hdrawn, hlen, ?_, ?_⟩, (portsTold_of_answered hanswered).mpr hevents.symm, ?_⟩
  · rwa [hdrawn.portCalls_eq, answered_withKeys_iff _ hlen] at hanswered
  · rw [hdrawn.portCalls_eq, equip_eq hlen]
  · rw [← hl₂, hdrawn.issued_eq, hdrawn.portCalls_eq, countP_withKeys _ hlen]

end Stages

section Success
variable {supply : Supply} {request : Request} {rules served : List Rule} {l : Ledger}

theorem provision_result_eq_ok_iff : (provision supply false request rules l).result = .ok served ↔
    (∀ r ∈ rules, r.NameReads) ∧ RuleSet.Fit (rules.map Rule.numbered) ∧
      ∃ keys l', Drawn supply.secret l keys l' ∧ keys.length = (candidates request rules).length ∧
        Answered supply.port l.portCalls (candidates request rules) ∧
        served = equip supply.port l.portCalls request.socksPort keys (candidates request rules) ∧
        RuleSet.validateRuntime served = .ok () := by
  constructor
  · intro h
    have hcourse := provision_course supply false request rules l
    generalize hout : provision supply false request rules l = out at h hcourse
    cases hcourse with
    | served hprepare hkeys hports hcheck hannounce =>
      cases h
      obtain ⟨keys, hequipped, _, _⟩ := equipped_of_stages hprepare hkeys hports
      obtain ⟨hnames, hfit⟩ := admitted_iff.mp hequipped.admitted
      exact ⟨hnames, hfit, keys, _, hequipped.drawn, hequipped.length_keys, hequipped.answered,
        hequipped.served_eq, hcheck⟩
    | _ => cases h
  · intro h
    obtain ⟨hnames, hfit, keys, l', hdrawn, hlen, hanswered, hserved, hcheck⟩ := h
    have hequipped : Equipped supply request rules l keys l' served :=
      ⟨admitted_iff.mpr ⟨hnames, hfit⟩, hdrawn, hlen, hanswered, hserved⟩
    obtain ⟨_, _, hprepare, hkeys, hports⟩ := hequipped.stages
    rw [(Course.served hprepare hkeys hports hcheck rfl).eq]

/-- Provisioning without a log succeeds exactly when the rules are servable, and what it serves are the
candidates with the keys drawn and the ports answered for them. -/
theorem provision_succeeds_iff_servable (supply : Supply) (request : Request) (rules : List Rule)
    (l : Ledger) :
    ((∃ served, (provision supply false request rules l).result = .ok served) ↔
      Servable supply request rules l) ∧
    ∀ served, (provision supply false request rules l).result = .ok served →
      ∃ keys l', Drawn supply.secret l keys l' ∧ keys.length = (candidates request rules).length ∧
        served = equip supply.port l.portCalls request.socksPort keys (candidates request rules) := by
  refine ⟨⟨?_, ?_⟩, ?_⟩
  · intro h
    obtain ⟨served, h⟩ := h
    obtain ⟨hnames, hfeed, keys, l', hdrawn, hlen, hanswered, rfl, hcheck⟩ :=
      provision_result_eq_ok_iff.mp h
    obtain ⟨hfit, hsocks, hports, hown⟩ := (validateRuntime_equip_iff hlen hanswered).mp hcheck
    simp only [isPort_iff] at hsocks hports hown
    refine ⟨hnames, hfeed, hfit, ⟨keys, l', hdrawn, hlen⟩, hports, hsocks, fun r hr hscheme => ?_⟩
    exact hown r hr (by simpa [Rule.isPlainHttp] using hscheme)
  · intro h
    obtain ⟨keys, l', hdrawn, hlen⟩ := h.keysDrawn
    have hanswered : Answered supply.port l.portCalls (candidates request rules) := by
      intro n hn
      obtain ⟨p, hp, _⟩ := h.portsAnswered n hn
      exact ⟨p, hp⟩
    refine ⟨_, provision_result_eq_ok_iff.mpr
      ⟨h.namesRead, h.feedFit, keys, l', hdrawn, hlen, hanswered, rfl, ?_⟩⟩
    rw [validateRuntime_equip_iff hlen hanswered]
    simp only [isPort_iff]
    refine ⟨h.candidatesFit, h.listenerPort, h.portsAnswered, fun r hr hhttp => ?_⟩
    exact h.ownPorts r hr (by simpa [Rule.isPlainHttp] using hhttp)
  · intro served h
    obtain ⟨_, _, keys, l', hdrawn, hlen, _, hserved, _⟩ := provision_result_eq_ok_iff.mp h
    exact ⟨keys, l', hdrawn, hlen, hserved⟩

end Success

end Provision
end AccessGate
