import AccessGate.Proofs.Checks
import AccessGate.Provision.Basic

/-! # Provisioning in step

Two runs of provisioning are compared. `R` relates a key of the one to the key of the other that stands in its place;
as long as it pairs every key with one key only, a secret is taken on the one side exactly when it is on the other. If
no stage tells related rules apart, both runs go the same way, and what the one ends in is related to what the other
ends in. -/
namespace AccessGate

/-- Results in step: the same error, or values that are related. -/
inductive InStep {ε α : Type} (R : α → α → Prop) : Except ε α → Except ε α → Prop
  | error (e : ε) : InStep R (.error e) (.error e)
  | ok {a a' : α} (h : R a a') : InStep R (.ok a) (.ok a')

namespace InStep
variable {ε α β : Type} {R : α → α → Prop} {P : β → β → Prop} {x x' : Except ε α}

theorem refl (hR : ∀ a, R a a) (x : Except ε α) : InStep R x x := by
  cases x with
  | error e => exact .error e
  | ok a => exact .ok (hR a)

theorem of_eq (h : x = x') : InStep Eq x x' := by
  subst h
  exact refl (fun _ => rfl) x

theorem bind {f f' : α → Except ε β} (hx : InStep R x x') (hf : ∀ a a', R a a' → InStep P (f a) (f' a')) :
    InStep P (x >>= f) (x' >>= f') := by
  cases hx with
  | error e => exact .error e
  | ok h => exact hf _ _ h

theorem map {f f' : α → β} (hx : InStep R x x') (hf : ∀ a a', R a a' → P (f a) (f' a')) :
    InStep P (x.map f) (x'.map f') := by
  cases hx with
  | error e => exact .error e
  | ok h => exact .ok (hf _ _ h)

theorem mapM {xs xs' : List α} {f f' : α → Except ε β}
    (h : List.Forall₂ (fun a a' => InStep P (f a) (f' a')) xs xs') :
    InStep (List.Forall₂ P) (xs.mapM f) (xs'.mapM f') := by
  induction h with
  | nil => exact .ok .nil
  | cons hfirst _ ih =>
    rw [List.mapM_cons, List.mapM_cons]
    exact hfirst.bind fun _ _ hb => ih.bind fun _ _ hbs => .ok (.cons hb hbs)

end InStep

namespace Provision

structure Ledger.Alike (R : String → String → Prop) (l l' : Ledger) : Prop where
  issued : List.Forall₂ R l.issued l'.issued
  draws : l.draws = l'.draws
  portCalls : l.portCalls = l'.portCalls

structure Supply.Alike (R : String → String → Prop) (supply supply' : Supply) : Prop where
  secret : ∀ i, R (supply.secret i) (supply'.secret i)
  port : supply.port = supply'.port

structure Outcome.Alike {α : Type} (R : String → String → Prop) (P : α → α → Prop) (o o' : Outcome α) :
    Prop where
  result : InStep P o.result o'.result
  ledger : o.ledger.Alike R o'.ledger
  events : o.events = o'.events

/-- The stages of provisioning carry one relation over to the other: `Q₀` of the rules that are to get keys, and `Q` of
those that have them. -/
structure Carries (R : String → String → Prop) (Q₀ Q : Rule → Rule → Prop) : Prop where
  withKey {r r' : Rule} {key key' : String} (h : Q₀ r r') (hkey : R key key') :
    Q { r with secretKey := some key } { r' with secretKey := some key' }
  withPort {r r' : Rule} (h : Q r r') (port : Int) :
    Q { r with httpProxyPort := some port } { r' with httpProxyPort := some port }
  ruleNum {r r' : Rule} (h : Q r r') : r.ruleNum = r'.ruleNum
  scheme {r r' : Rule} (h : Q r r') : r.scheme? = r'.scheme?

variable {R : String → String → Prop} {Q₀ Q : Rule → Rule → Prop} {secret secret' : Nat → String}
  {rules rules' : List Rule} {l l' : Ledger}

section Ledgers

theorem biUnique_eq : Relator.BiUnique (Eq : String → String → Prop) :=
  ⟨fun _ _ _ h h' => h.trans h'.symm, fun _ _ _ h h' => h.symm.trans h'⟩

theorem Ledger.Alike.refl (l : Ledger) : l.Alike Eq l :=
  ⟨List.forall₂_refl l.issued, rfl, rfl⟩

theorem Ledger.Alike.eq (h : l.Alike Eq l') : l = l' := by
  obtain ⟨issued, draws, portCalls⟩ := l
  obtain ⟨issued', draws', portCalls'⟩ := l'
  obtain ⟨hissued, hdraws, hcalls⟩ := h
  rw [List.forall₂_eq_eq_eq] at hissued
  simp only [Ledger.mk.injEq]
  exact ⟨hissued, hdraws, hcalls⟩

theorem Supply.Alike.refl (supply : Supply) : supply.Alike Eq supply := ⟨fun _ => rfl, rfl⟩

theorem Ledger.Alike.draw (h : l.Alike R l') :
    Ledger.Alike R { l with draws := l.draws + 1 } { l' with draws := l'.draws + 1 } :=
  ⟨h.issued, congrArg (· + 1) h.draws, h.portCalls⟩

end Ledgers

section Stages

theorem drawKey_alike (hR : Relator.BiUnique R) (hsecret : ∀ i, R (secret i) (secret' i))
    (attempts : Nat) (h : l.Alike R l') :
    Option.Rel R (drawKey secret attempts l).1 (drawKey secret' attempts l').1 ∧
      (drawKey secret attempts l).2.Alike R (drawKey secret' attempts l').2 := by
  induction attempts generalizing l l' with
  | zero => exact ⟨.none, h⟩
  | succ attempts ih =>
    have hkey : R (secret l.draws) (secret' l'.draws) := by
      rw [← h.draws]
      exact hsecret l.draws
    have htaken : secret l.draws ∈ l.issued ↔ secret' l'.draws ∈ l'.issued :=
      List.rel_mem hR hkey h.issued
    simp only [drawKey]
    by_cases hmem : secret l.draws ∈ l.issued
    · rw [if_pos hmem, if_pos (htaken.mp hmem)]
      exact ih h.draw
    · rw [if_neg hmem, if_neg (mt htaken.mpr hmem)]
      exact ⟨.some hkey, .cons hkey h.issued, h.draw.draws, h.portCalls⟩

theorem assignKeys_inStep (hQ : Carries R Q₀ Q) (hR : Relator.BiUnique R)
    (hsecret : ∀ i, R (secret i) (secret' i)) (hrules : List.Forall₂ Q₀ rules rules') (h : l.Alike R l') :
    InStep (List.Forall₂ Q) (assignKeys secret rules l).1 (assignKeys secret' rules' l').1 ∧
      (assignKeys secret rules l).2.Alike R (assignKeys secret' rules' l').2 := by
  induction hrules generalizing l l' with
  | nil => exact ⟨.ok .nil, h⟩
  | cons hr _ ih =>
    obtain ⟨hkey, hledger⟩ := drawKey_alike hR hsecret keyAttempts h
    simp only [assignKeys]
    generalize drawKey secret keyAttempts l = drawn at hkey hledger
    generalize drawKey secret' keyAttempts l' = drawn' at hkey hledger
    obtain ⟨key, l₁⟩ := drawn
    obtain ⟨key', l₁'⟩ := drawn'
    cases hkey with
    | none => exact ⟨.error _, hledger⟩
    | some hkey =>
      obtain ⟨hothers, hrest⟩ := ih hledger
      exact ⟨hothers.map fun _ _ hrules => .cons (hQ.withKey hr hkey) hrules, hrest⟩

theorem allocatePorts_inStep (hQ : Carries R Q₀ Q) (port : Nat → Except String Int)
    (hrules : List.Forall₂ Q rules rules') (h : l.Alike R l') :
    InStep (List.Forall₂ Q) (allocatePorts port rules l).1 (allocatePorts port rules' l').1 ∧
      (allocatePorts port rules l).2.1.Alike R (allocatePorts port rules' l').2.1 ∧
      (allocatePorts port rules l).2.2 = (allocatePorts port rules' l').2.2 := by
  induction hrules generalizing l l' with
  | nil => exact ⟨.ok .nil, h, rfl⟩
  | @cons r r' rest rest' hr _ ih =>
    simp only [allocatePorts, ← hQ.scheme hr, ← h.portCalls]
    by_cases hhttp : r.scheme? = some .http
    · rw [if_pos hhttp, if_pos hhttp]
      have hcall : Ledger.Alike R { l with portCalls := l.portCalls + 1 }
          { l' with portCalls := l.portCalls + 1 } := ⟨h.issued, h.draws, rfl⟩
      cases port l.portCalls with
      | error reason =>
        rw [hQ.ruleNum hr]
        exact ⟨.error _, hcall, rfl⟩
      | ok p =>
        obtain ⟨hothers, hledger, hevents⟩ := ih hcall
        refine ⟨hothers.map fun _ _ hrules => .cons (hQ.withPort hr p) hrules, hledger, ?_⟩
        exact congrArg₂ (Event.portAllocated · p :: ·) (hQ.ruleNum hr) hevents
    · rw [if_neg hhttp, if_neg hhttp]
      obtain ⟨hothers, hledger, hevents⟩ := ih h
      exact ⟨hothers.map fun _ _ hrules => .cons hr hrules, hledger, hevents⟩

end Stages

/-- If what is to be served is related on both sides, and neither the last check nor the log tells related rules
apart, provisioning ends in the same way, with related rules. -/
theorem provision_inStep {supply supply' : Supply} {request request' : Request} {logging : Bool}
    (hQ : Carries R Q₀ Q) (hR : Relator.BiUnique R) (hsupply : supply.Alike R supply')
    (hprepare : InStep (List.Forall₂ Q₀) (prepare request rules) (prepare request' rules'))
    (hcheck : ∀ {served served'}, List.Forall₂ Q served served' →
      RuleSet.validateRuntime served = RuleSet.validateRuntime served')
    (hannounce : ∀ {served served'}, List.Forall₂ Q served served' →
      announce logging request.clientId served = announce logging request'.clientId served')
    (h : l.Alike R l') :
    (provision supply logging request rules l).Alike R (List.Forall₂ Q)
      (provision supply' logging request' rules' l') := by
  unfold provision
  rw [← hsupply.port]
  generalize prepare request rules = prepared at hprepare
  generalize prepare request' rules' = prepared' at hprepare
  cases hprepare with
  | error e => exact ⟨.error _, h, rfl⟩
  | ok hready =>
    -- The stages are taken in turn on both sides at once: where the one side ends, so does the other.
    obtain ⟨hkeyed, hledger⟩ := assignKeys_inStep hQ hR hsupply.secret hready h
    simp only
    generalize assignKeys supply.secret _ l = assigned at hkeyed hledger
    generalize assignKeys supply'.secret _ l' = assigned' at hkeyed hledger
    obtain ⟨keyed, l₁⟩ := assigned
    obtain ⟨keyed', l₁'⟩ := assigned'
    cases hkeyed with
    | error e => exact ⟨.error _, hledger, rfl⟩
    | @ok keyed keyed' hkeyed =>
      obtain ⟨hserved, hledger, hevents⟩ := allocatePorts_inStep hQ supply.port hkeyed hledger
      simp only
      generalize allocatePorts supply.port keyed l₁ = allocated at hserved hledger hevents
      generalize allocatePorts supply.port keyed' l₁' = allocated' at hserved hledger hevents
      obtain ⟨served, l₂, events⟩ := allocated
      obtain ⟨served', l₂', events'⟩ := allocated'
      cases hevents
      cases hserved with
      | error e => exact ⟨.error _, hledger, rfl⟩
      | @ok served served' hserved =>
        simp only [hcheck hserved, hannounce hserved]
        cases RuleSet.validateRuntime served' with
        | error e => exact ⟨.error _, hledger, rfl⟩
        | ok _ =>
          cases announce logging request'.clientId served' with
          | error f => exact ⟨.error _, hledger, rfl⟩
          | ok last => exact ⟨.ok hserved, hledger, rfl⟩

end Provision
end AccessGate
