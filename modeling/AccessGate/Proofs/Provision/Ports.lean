import AccessGate.Provision.ProxyPort
import AccessGate.Proofs.Checks

/-! # Local ports that are answered

The calls for a port are made for the rules for plain http alone, in their order, so the n-th of these
rules has the answer to the n-th call, and all other rules stay as they are. -/
namespace AccessGate

/-- Whether a rule is served by the local proxy, and so gets a port of its own. -/
def Rule.isPlainHttp (r : Rule) : Bool := r.scheme? = some .http

def Rule.withPort (port : Option Int) (r : Rule) : Rule := { r with httpProxyPort := port }

theorem Rule.isPlainHttp_iff {r : Rule} : r.isPlainHttp = true ↔ r.scheme? = some .http :=
  decide_eq_true_iff

namespace Provision

/-- The rules with the answers to the calls from `calls` on. -/
def withPorts (port : Nat → Except String Int) (calls : Nat) (rules : List Rule) : List Rule :=
  rules.mapIdx fun i r =>
    if r.isPlainHttp then
      r.withPort (port (calls + (rules.take i).countP Rule.isPlainHttp)).toOption
    else r

def portEvents (rules : List Rule) : List Event :=
  rules.filterMap fun r =>
    if r.isPlainHttp then r.httpProxyPort.map (Event.portAllocated r.ruleNum) else none

/-- What rules that have their ports are told of with: one event for each rule for plain http, in the order of
the rules, of its number and its port. -/
def PortsTold (rules : List Rule) (events : List Event) : Prop :=
  List.Forall₂ (fun r e => ∃ p, r.httpProxyPort = some p ∧ e = .portAllocated r.ruleNum p)
    (rules.filter Rule.isPlainHttp) events

def Answered (port : Nat → Except String Int) (calls : Nat) (rules : List Rule) : Prop :=
  ∀ n < rules.countP Rule.isPlainHttp, ∃ p, port (calls + n) = .ok p

section Calls
variable {port : Nat → Except String Int} {calls : Nat} {r : Rule} {rest : List Rule}

@[simp] theorem withPorts_nil : withPorts port calls [] = [] := rfl

theorem withPorts_cons_http (h : r.isPlainHttp = true) : withPorts port calls (r :: rest) =
    r.withPort (port calls).toOption :: withPorts port (calls + 1) rest := by
  simp [withPorts, List.mapIdx_cons, h, Nat.add_assoc, Nat.add_comm 1]

theorem withPorts_cons_other (h : r.isPlainHttp = false) :
    withPorts port calls (r :: rest) = r :: withPorts port calls rest := by
  simp [withPorts, List.mapIdx_cons, h]

theorem portEvents_cons_http {p : Int} (h : r.isPlainHttp = true) (hport : r.httpProxyPort = some p) :
    portEvents (r :: rest) = .portAllocated r.ruleNum p :: portEvents rest := by
  rw [portEvents, List.filterMap_cons, if_pos h, hport]
  rfl

theorem portEvents_cons_other (h : r.isPlainHttp = false) :
    portEvents (r :: rest) = portEvents rest := by
  simp [portEvents, h]

theorem forall_calls_cons_http {P : Except String Int → Prop} (h : r.isPlainHttp = true) :
    (∀ n < (r :: rest).countP Rule.isPlainHttp, P (port (calls + n))) ↔
      P (port calls) ∧ ∀ n < rest.countP Rule.isPlainHttp, P (port (calls + 1 + n)) := by
  rw [List.countP_cons_of_pos h]
  constructor
  · intro hall
    refine ⟨hall 0 (Nat.zero_lt_succ _), fun n hn => ?_⟩
    have hnext := hall (n + 1) (Nat.succ_lt_succ hn)
    rwa [Nat.add_comm n 1, ← Nat.add_assoc] at hnext
  · rintro ⟨hfirst, hrest⟩ n hn
    cases n with
    | zero => exact hfirst
    | succ n =>
      rw [Nat.add_comm n 1, ← Nat.add_assoc]
      exact hrest n (Nat.lt_of_succ_lt_succ hn)

theorem forall_calls_cons_other {P : Except String Int → Prop} (h : r.isPlainHttp = false) :
    (∀ n < (r :: rest).countP Rule.isPlainHttp, P (port (calls + n))) ↔
      ∀ n < rest.countP Rule.isPlainHttp, P (port (calls + n)) := by
  rw [List.countP_cons_of_neg (Bool.eq_false_iff.mp h)]

theorem answered_cons_http (h : r.isPlainHttp = true) :
    Answered port calls (r :: rest) ↔ (∃ p, port calls = .ok p) ∧ Answered port (calls + 1) rest :=
  forall_calls_cons_http (P := fun answer => ∃ p, answer = .ok p) h

theorem answered_cons_other (h : r.isPlainHttp = false) :
    Answered port calls (r :: rest) ↔ Answered port calls rest :=
  forall_calls_cons_other (P := fun answer => ∃ p, answer = .ok p) h

end Calls

variable {port : Nat → Except String Int} {rules served : List Rule} {l : Ledger}

/-- Once the calls for the rules in front are answered, the rules behind go on with the ledger counted on. -/
theorem allocatePorts_append {before rest : List Rule} {out : Except RuleError (List Rule)} {l' : Ledger}
    {events : List Event} (h : Answered port l.portCalls before)
    (hrest : allocatePorts port rest { l with portCalls := l.portCalls + before.countP Rule.isPlainHttp } =
      (out, l', events)) :
    allocatePorts port (before ++ rest) l =
      (out.map (withPorts port l.portCalls before ++ ·), l',
        portEvents (withPorts port l.portCalls before) ++ events) := by
  induction before generalizing l with
  | nil =>
    change allocatePorts port rest l = _
    rw [show allocatePorts port rest l = (out, l', events) from hrest]
    cases out <;> rfl
  | cons r before ih =>
    rw [List.cons_append]
    cases hr : r.isPlainHttp with
    | false =>
      have hscheme : ¬r.scheme? = some .http := by simpa [Rule.isPlainHttp] using hr
      rw [List.countP_cons_of_neg (Bool.eq_false_iff.mp hr)] at hrest
      rw [allocatePorts, if_neg hscheme, ih ((answered_cons_other hr).mp h) hrest, withPorts_cons_other hr,
        portEvents_cons_other hr]
      cases out <;> rfl
    | true =>
      obtain ⟨⟨p, hp⟩, hbefore⟩ := (answered_cons_http hr).mp h
      have hcount : l.portCalls + (before.countP Rule.isPlainHttp + 1) =
          l.portCalls + 1 + before.countP Rule.isPlainHttp := by omega
      rw [List.countP_cons_of_pos hr, hcount] at hrest
      have htail := ih (l := { l with portCalls := l.portCalls + 1 }) hbefore hrest
      have htold : portEvents (r.withPort (some p) :: withPorts port (l.portCalls + 1) before) =
          .portAllocated r.ruleNum p :: portEvents (withPorts port (l.portCalls + 1) before) :=
        portEvents_cons_http (r := r.withPort (some p)) hr rfl
      rw [allocatePorts, if_pos (Rule.isPlainHttp_iff.mp hr), hp, withPorts_cons_http hr, hp,
        Except.toOption, htold]
      simp only [htail]
      cases out <;> rfl

theorem allocatePorts_of_answered (h : Answered port l.portCalls rules) : allocatePorts port rules l =
    (.ok (withPorts port l.portCalls rules),
      { l with portCalls := l.portCalls + rules.countP Rule.isPlainHttp },
      portEvents (withPorts port l.portCalls rules)) := by
  have hnone : allocatePorts port [] { l with portCalls := l.portCalls + rules.countP Rule.isPlainHttp } =
      (.ok [], { l with portCalls := l.portCalls + rules.countP Rule.isPlainHttp }, []) := rfl
  simpa [Except.map] using allocatePorts_append h hnone

theorem answered_of_allocatePorts (h : (allocatePorts port rules l).1 = .ok served) :
    Answered port l.portCalls rules := by
  induction rules generalizing l served with
  | nil => simp [Answered]
  | cons r rest ih =>
    cases hr : r.isPlainHttp with
    | false =>
      have hscheme : ¬r.scheme? = some .http := by simpa [Rule.isPlainHttp] using hr
      rw [allocatePorts, if_neg hscheme, map_eq_ok_iff] at h
      obtain ⟨others, hothers, _⟩ := h
      exact (answered_cons_other hr).mpr (ih hothers)
    | true =>
      rw [allocatePorts, if_pos (Rule.isPlainHttp_iff.mp hr)] at h
      cases hp : port l.portCalls with
      | error reason => simp [hp] at h
      | ok p =>
        simp only [hp, map_eq_ok_iff] at h
        obtain ⟨others, hothers, _⟩ := h
        exact (answered_cons_http hr).mpr ⟨⟨p, hp⟩, ih hothers⟩

theorem allocatePorts_eq_ok_iff : (allocatePorts port rules l).1 = .ok served ↔
    Answered port l.portCalls rules ∧ served = withPorts port l.portCalls rules := by
  constructor
  · intro h
    have hanswered := answered_of_allocatePorts h
    rw [allocatePorts_of_answered hanswered] at h
    exact ⟨hanswered, (Except.ok.inj h).symm⟩
  · intro h
    obtain ⟨hanswered, rfl⟩ := h
    rw [allocatePorts_of_answered hanswered]

/-- The calls for the rules `before` are answered, and the next one, which is made for `r`, is not. -/
structure Unanswered (port : Nat → Except String Int) (calls : Nat) (rules before : List Rule) (r : Rule)
    (reason : String) : Prop where
  split : ∃ behind, rules = before ++ r :: behind
  plainHttp : r.isPlainHttp = true
  answered : Answered port calls before
  refused : port (calls + before.countP Rule.isPlainHttp) = .error reason

theorem answered_or_unanswered (port : Nat → Except String Int) (calls : Nat) (rules : List Rule) :
    Answered port calls rules ∨ ∃ before r reason, Unanswered port calls rules before r reason := by
  induction rules generalizing calls with
  | nil => exact .inl (by simp [Answered])
  | cons r rest ih =>
    cases hr : r.isPlainHttp with
    | false =>
      rcases ih calls with hrest | ⟨before, s, reason, ⟨behind, rfl⟩, hs, hbefore, hrefused⟩
      · exact .inl ((answered_cons_other hr).mpr hrest)
      · refine .inr ⟨r :: before, s, reason, ⟨behind, rfl⟩, hs, (answered_cons_other hr).mpr hbefore, ?_⟩
        rwa [List.countP_cons_of_neg (Bool.eq_false_iff.mp hr)]
    | true =>
      cases hp : port calls with
      | error reason => exact .inr ⟨[], r, reason, ⟨rest, rfl⟩, hr, by simp [Answered], hp⟩
      | ok p =>
        have hfirst : ∃ p, port calls = .ok p := ⟨p, hp⟩
        rcases ih (calls + 1) with hrest | ⟨before, s, reason, ⟨behind, rfl⟩, hs, hbefore, hrefused⟩
        · exact .inl ((answered_cons_http hr).mpr ⟨hfirst, hrest⟩)
        · refine .inr ⟨r :: before, s, reason, ⟨behind, rfl⟩, hs,
            (answered_cons_http hr).mpr ⟨hfirst, hbefore⟩, ?_⟩
          rwa [List.countP_cons_of_pos hr, Nat.add_comm _ 1, ← Nat.add_assoc]

theorem allocatePorts_of_unanswered {before : List Rule} {r : Rule} {reason : String}
    (h : Unanswered port l.portCalls rules before r reason) : allocatePorts port rules l =
      (.error ⟨.supply (.portsUnavailable reason), some r.ruleNum⟩,
        { l with portCalls := l.portCalls + before.countP Rule.isPlainHttp + 1 },
        portEvents (withPorts port l.portCalls before)) := by
  obtain ⟨⟨behind, rfl⟩, hr, hbefore, hrefused⟩ := h
  have hrest : allocatePorts port (r :: behind)
      { l with portCalls := l.portCalls + before.countP Rule.isPlainHttp } =
      (.error ⟨.supply (.portsUnavailable reason), some r.ruleNum⟩,
        { l with portCalls := l.portCalls + before.countP Rule.isPlainHttp + 1 }, []) := by
    rw [allocatePorts, if_pos (Rule.isPlainHttp_iff.mp hr)]
    simp only [hrefused]
  rw [allocatePorts_append hbefore hrest, List.append_nil]
  rfl

theorem allocatePorts_eq_error_iff {e : RuleError} {l' : Ledger} {events : List Event} :
    allocatePorts port rules l = (.error e, l', events) ↔
      ∃ before r reason, Unanswered port l.portCalls rules before r reason ∧
        e = ⟨.supply (.portsUnavailable reason), some r.ruleNum⟩ ∧
        l' = { l with portCalls := l.portCalls + before.countP Rule.isPlainHttp + 1 } ∧
        events = portEvents (withPorts port l.portCalls before) := by
  constructor
  · intro h
    rcases answered_or_unanswered port l.portCalls rules with hanswered | ⟨before, r, reason, hport⟩
    · rw [allocatePorts_of_answered hanswered] at h
      cases h
    · rw [allocatePorts_of_unanswered hport] at h
      cases h
      exact ⟨before, r, reason, hport, rfl, rfl, rfl⟩
  · rintro ⟨before, r, reason, hport, rfl, rfl, rfl⟩
    exact allocatePorts_of_unanswered hport

theorem ledger_of_allocatePorts {out : Except RuleError (List Rule)} {l' : Ledger} {events : List Event}
    (h : allocatePorts port rules l = (out, l', events)) : l' = { l with portCalls := l'.portCalls } := by
  induction rules generalizing l out events with
  | nil =>
    cases h
    rfl
  | cons r rest ih =>
    rw [allocatePorts] at h
    split at h
    · cases hp : port l.portCalls with
      | error reason =>
        simp only [hp] at h
        cases h
        rfl
      | ok p =>
        simp only [hp] at h
        cases h
        exact ih (l := { l with portCalls := l.portCalls + 1 }) rfl
    · cases h
      exact ih rfl

theorem issued_of_allocatePorts {out : Except RuleError (List Rule)} {l' : Ledger} {events : List Event}
    (h : allocatePorts port rules l = (out, l', events)) : l'.issued = l.issued := by
  rw [ledger_of_allocatePorts h]

theorem mem_withPorts {calls : Nat} {s : Rule} (h : s ∈ withPorts port calls rules) :
    ∃ r ∈ rules, s = r.withPort s.httpProxyPort := by
  obtain ⟨i, hi, rfl⟩ := List.mem_mapIdx.mp h
  refine ⟨rules[i], List.getElem_mem hi, ?_⟩
  split <;> rfl

/-- The rules for plain http have the answers to the calls, one each and in their order. -/
theorem ports_withPorts {calls : Nat} :
    ((withPorts port calls rules).filter Rule.isPlainHttp).map Rule.httpProxyPort =
      (List.range (rules.countP Rule.isPlainHttp)).map fun n => (port (calls + n)).toOption := by
  induction rules generalizing calls with
  | nil => rfl
  | cons r rest ih =>
    cases hr : r.isPlainHttp with
    | false =>
      rw [withPorts_cons_other hr, List.filter_cons_of_neg (by simp [hr]), ih,
        List.countP_cons_of_neg (by simp [hr])]
    | true =>
      have hfilled : (r.withPort (port calls).toOption).isPlainHttp = true := hr
      rw [withPorts_cons_http hr, List.filter_cons_of_pos hfilled, List.map_cons, ih,
        List.countP_cons_of_pos hr, List.range_succ_eq_map, List.map_cons, List.map_map]
      refine congrArg₂ List.cons rfl (List.map_congr_left fun n _ => ?_)
      rw [Function.comp_apply, Nat.succ_eq_add_one, Nat.add_comm n 1, ← Nat.add_assoc]

theorem countP_withPorts {calls : Nat} :
    (withPorts port calls rules).countP Rule.isPlainHttp = rules.countP Rule.isPlainHttp := by
  have hlength : (((withPorts port calls rules).filter Rule.isPlainHttp).map Rule.httpProxyPort).length =
      rules.countP Rule.isPlainHttp := by
    rw [ports_withPorts, List.length_map, List.length_range]
  rwa [List.length_map, ← List.countP_eq_length_filter] at hlength

theorem forall_ports_withPorts {calls : Nat} {P : Int → Prop} (h : Answered port calls rules) :
    (∀ s ∈ withPorts port calls rules, ∀ p, s.httpProxyPort = some p → P p) ↔
      (∀ n < rules.countP Rule.isPlainHttp, ∃ p, port (calls + n) = .ok p ∧ P p) ∧
        ∀ r ∈ rules, r.isPlainHttp = false → ∀ p, r.httpProxyPort = some p → P p := by
  induction rules generalizing calls with
  | nil => simp
  | cons r rest ih =>
    cases hr : r.isPlainHttp with
    | false =>
      rw [withPorts_cons_other hr, List.forall_mem_cons, List.forall_mem_cons,
        ih ((answered_cons_other hr).mp h),
        forall_calls_cons_other (P := fun answer => ∃ p, answer = .ok p ∧ P p) hr]
      simp only [hr, true_implies]
      exact and_left_comm
    | true =>
      obtain ⟨⟨p, hp⟩, hrest⟩ := (answered_cons_http hr).mp h
      rw [withPorts_cons_http hr, List.forall_mem_cons, List.forall_mem_cons, ih hrest,
        forall_calls_cons_http (P := fun answer => ∃ p, answer = .ok p ∧ P p) hr, hp]
      simp [hr, Rule.withPort, Except.toOption, and_assoc]

theorem isSome_port_of_answered {calls : Nat} (h : Answered port calls rules) :
    ∀ s ∈ withPorts port calls rules, s.isPlainHttp = true → s.httpProxyPort.isSome = true := by
  induction rules generalizing calls with
  | nil => simp
  | cons r rest ih =>
    cases hr : r.isPlainHttp with
    | false =>
      rw [withPorts_cons_other hr, List.forall_mem_cons]
      refine ⟨fun hs => ?_, ih ((answered_cons_other hr).mp h)⟩
      rw [hr] at hs
      cases hs
    | true =>
      obtain ⟨⟨p, hp⟩, hrest⟩ := (answered_cons_http hr).mp h
      rw [withPorts_cons_http hr, List.forall_mem_cons]
      refine ⟨fun _ => ?_, ih hrest⟩
      rw [hp]
      rfl

theorem PortsTold.allocations {events : List Event} (h : PortsTold rules events) :
    ∀ e ∈ events, ∃ ruleNum p, e = .portAllocated ruleNum p := by
  unfold PortsTold at h
  generalize rules.filter Rule.isPlainHttp = proxied at h
  induction h with
  | nil => simp
  | cons hfirst _ ih =>
    obtain ⟨p, _, rfl⟩ := hfirst
    exact List.forall_mem_cons.mpr ⟨⟨_, p, rfl⟩, ih⟩

theorem portsTold_iff {events : List Event}
    (hports : ∀ r ∈ rules, r.isPlainHttp = true → r.httpProxyPort.isSome = true) :
    PortsTold rules events ↔ events = portEvents rules := by
  induction rules generalizing events with
  | nil => simp [PortsTold, portEvents]
  | cons r rest ih =>
    obtain ⟨hfirst, hrest⟩ := List.forall_mem_cons.mp hports
    cases hr : r.isPlainHttp with
    | false =>
      rw [portEvents_cons_other hr, ← ih hrest, PortsTold, List.filter_cons_of_neg (by simp [hr]), PortsTold]
    | true =>
      obtain ⟨p, hp⟩ := Option.isSome_iff_exists.mp (hfirst hr)
      rw [portEvents_cons_http hr hp, PortsTold, List.filter_cons_of_pos hr, List.forall₂_cons_left_iff]
      constructor
      · rintro ⟨e, others, ⟨q, hq, rfl⟩, hothers, rfl⟩
        obtain rfl : p = q := Option.some.inj (hp.symm.trans hq)
        rw [(ih hrest).mp hothers]
      · rintro rfl
        exact ⟨_, _, ⟨p, hp, rfl⟩, (ih hrest).mpr rfl, rfl⟩

theorem portsTold_of_answered {calls : Nat} (h : Answered port calls rules) {events : List Event} :
    PortsTold (withPorts port calls rules) events ↔ events = portEvents (withPorts port calls rules) :=
  portsTold_iff (isSome_port_of_answered h)

end Provision
end AccessGate
