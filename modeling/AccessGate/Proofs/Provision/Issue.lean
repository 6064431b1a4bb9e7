import AccessGate.Proofs.Provision.Served
import AccessGate.Provision.Step

/-! # Keys that are given out

The keys that rules are given are collected step by step, those of a batch that comes to nothing among them.
Each key is new when it is given. So over any row of steps no key is given twice, and the ledger holds the keys
that were given and no others. -/
namespace AccessGate.Provision

/-- The keys that the rules of a row are given in turn, down to the first rule that gets none. -/
def keysFor (secret : Nat → String) : List Rule → Ledger → List String
  | [], _ => []
  | _ :: rest, l =>
    match drawKey secret keyAttempts l with
    | (none, _) => []
    | (some key, l) => key :: keysFor secret rest l

def Step.keysGiven (supply : Supply) (rules : List Rule) (l : Ledger) : Step → List String
  | .assignKeys => keysFor supply.secret rules l
  | .provision request =>
    match prepare request rules with
    | .error _ => []
    | .ok ready => keysFor supply.secret ready l
  | .renumber | .scope _ | .assignSocksPort _ | .allocatePorts => []

structure Call where
  step : Step
  rules : List Rule

def Call.run (supply : Supply) (logging : Bool) (l : Ledger) (call : Call) : Outcome (List Rule) :=
  call.step.run supply logging call.rules l

/-- The ledger after a row of calls. A call that fails leaves its ledger to the next one. -/
def ledgerAfter (supply : Supply) (logging : Bool) (l : Ledger) : List Call → Ledger
  | [] => l
  | call :: rest => ledgerAfter supply logging (call.run supply logging l).ledger rest

def keysGiven (supply : Supply) (logging : Bool) (l : Ledger) : List Call → List String
  | [] => []
  | call :: rest =>
    call.step.keysGiven supply call.rules l ++ keysGiven supply logging (call.run supply logging l).ledger rest

/-- `Issues l keys l'`: what is handed out between `l` and `l'` are the keys, in their order, each of them
once, and none of them a key already. -/
structure Issues (l : Ledger) (keys : List String) (l' : Ledger) : Prop where
  issued : l'.issued = keys.reverse ++ l.issued
  nodup : keys.Nodup
  fresh : ∀ key ∈ keys, key ∉ l.issued

namespace Issues
variable {l l₁ l₂ : Ledger} {keys keys' : List String}

theorem nothing (h : l₁.issued = l.issued) : Issues l [] l₁ :=
  ⟨h, List.nodup_nil, by simp⟩

theorem congr_right (h : Issues l keys l₁) (hsame : l₂.issued = l₁.issued) : Issues l keys l₂ :=
  ⟨hsame.trans h.issued, h.nodup, h.fresh⟩

theorem suffix (h : Issues l keys l₁) : l.issued <:+ l₁.issued := by
  rw [h.issued]
  exact List.suffix_append _ _

theorem mem_iff (h : Issues l keys l₁) {key : String} : key ∈ l₁.issued ↔ key ∈ keys ∨ key ∈ l.issued := by
  rw [h.issued, List.mem_append, List.mem_reverse]

theorem trans (h : Issues l keys l₁) (h' : Issues l₁ keys' l₂) : Issues l (keys ++ keys') l₂ := by
  have hlater : ∀ key ∈ keys', key ∉ keys ∧ key ∉ l.issued := by
    intro key hkey
    have hnew := h'.fresh key hkey
    rwa [h.mem_iff, not_or] at hnew
  constructor
  · rw [h'.issued, h.issued, List.reverse_append, List.append_assoc]
  · apply List.Nodup.append h.nodup h'.nodup
    intro key hkey hkey'
    exact (hlater key hkey').1 hkey
  · intro key hkey
    rcases List.mem_append.mp hkey with hkey | hkey
    · exact h.fresh key hkey
    · exact (hlater key hkey).2

end Issues

section Rows
variable {secret : Nat → String} {rules : List Rule} {l l' : Ledger} {keys : List String}

theorem Drawn.issues (h : Drawn secret l keys l') : Issues l keys l' :=
  ⟨h.issued_eq, h.nodup, h.fresh⟩

theorem keysFor_of_drawn (h : Drawn secret l keys l')
    (hend : keys.length = rules.length ∨ keys.length < rules.length ∧ Exhausted secret l') :
    keysFor secret rules l = keys := by
  induction h generalizing rules with
  | nil l =>
    cases rules with
    | nil => rfl
    | cons r rest =>
      have hstuck : Exhausted secret l := by simpa using hend
      have hdraw : drawKey secret keyAttempts l = _ := drawKey_of_taken hstuck
      rw [keysFor, hdraw]
  | @cons l l' keys skipped few taken fresh _ ih =>
    cases rules with
    | nil => simp at hend
    | cons r rest =>
      have hrest : keys.length = rest.length ∨ keys.length < rest.length ∧ Exhausted secret l' := by
        simpa using hend
      have hdraw : drawKey secret keyAttempts l = _ := drawKey_of_fresh few taken fresh
      rw [keysFor, hdraw]
      exact congrArg (_ :: ·) (ih hrest)

theorem issues_assignKeys {out : Except RuleError (List Rule)} (h : assignKeys secret rules l = (out, l')) :
    Issues l (keysFor secret rules l) l' := by
  rcases drawn_or_exhausted secret l rules.length with
    ⟨keys, l₁, hdrawn, hlen⟩ | ⟨keys, l₁, hdrawn, hlen, hstuck⟩
  · rw [assignKeys_of_drawn hdrawn hlen] at h
    cases h
    rw [keysFor_of_drawn hdrawn (.inl hlen)]
    exact hdrawn.issues
  · rw [assignKeys_of_exhausted hdrawn hlen hstuck] at h
    cases h
    rw [keysFor_of_drawn hdrawn (.inr ⟨hlen, hstuck⟩)]
    exact hdrawn.issues.congr_right rfl

end Rows

section Steps
variable {supply : Supply} {logging : Bool} {request : Request} {rules served : List Rule} {l : Ledger}
  {step : Step}

theorem issues_provision (supply : Supply) (logging : Bool) (request : Request) (rules : List Rule)
    (l : Ledger) : Issues l ((Step.provision request).keysGiven supply rules l)
      (provision supply logging request rules l).ledger := by
  have hcourse := provision_course supply logging request rules l
  generalize provision supply logging request rules l = out at hcourse
  rw [Step.keysGiven]
  cases hcourse with
  | unprepared hprepare =>
    rw [hprepare]
    exact .nothing rfl
  | keyless hprepare hkeys =>
    rw [hprepare]
    exact issues_assignKeys hkeys
  | portless hprepare hkeys hports | refused hprepare hkeys hports _
  | unannounced hprepare hkeys hports _ _ | served hprepare hkeys hports _ _ =>
    rw [hprepare]
    exact (issues_assignKeys hkeys).congr_right (issued_of_allocatePorts hports)

theorem Step.issues (supply : Supply) (logging : Bool) (rules : List Rule) (l : Ledger) (step : Step) :
    Issues l (step.keysGiven supply rules l) (step.run supply logging rules l).ledger := by
  cases step with
  | renumber | scope _ | assignSocksPort _ => exact .nothing rfl
  | assignKeys => exact issues_assignKeys rfl
  | allocatePorts => exact .nothing (issued_of_allocatePorts rfl)
  | provision request => exact issues_provision supply logging request rules l

theorem keys_of_assignKeys {secret : Nat → String} {l' : Ledger}
    (h : assignKeys secret rules l = (.ok served, l')) :
    served.map Rule.secretKey = (keysFor secret rules l).map some := by
  obtain ⟨keys, hdrawn, hlen, rfl⟩ := assignKeys_eq_ok_iff.mp h
  rw [keysFor_of_drawn hdrawn (.inl hlen), map_secretKey_withKeys hlen]

theorem keysGiven_of_provision (h : (provision supply logging request rules l).result = .ok served) :
    served.map Rule.secretKey = ((Step.provision request).keysGiven supply rules l).map some := by
  obtain ⟨hnames, hfit, keys, _, hdrawn, hlen, _, rfl, _⟩ :=
    provision_result_eq_ok_iff.mp (provision_result_unlogged h)
  have hready : keys.length = (assignSocksPort request.socksPort (candidates request rules)).length := by
    rw [hlen, length_assignSocksPort]
  rw [Step.keysGiven, prepare_eq_ok_iff.mpr ⟨hnames, hfit, rfl⟩]
  simp only [keysFor_of_drawn hdrawn (.inl hready), map_secretKey_equip hlen]

/-- The rules that a step with keys returns have the keys that it gave, one each and in their order. -/
theorem Step.keys_of_run (hstep : step = .assignKeys ∨ ∃ request, step = .provision request)
    (h : (step.run supply logging rules l).result = .ok served) :
    served.map Rule.secretKey = (step.keysGiven supply rules l).map some := by
  rcases hstep with rfl | ⟨request, rfl⟩
  · have hassign := mapError_eq_ok_iff.mp h
    exact keys_of_assignKeys (Prod.ext hassign rfl)
  · exact keysGiven_of_provision h

end Steps

section Runs
variable {supply : Supply} {logging : Bool}

theorem issues_ledgerAfter (supply : Supply) (logging : Bool) (l : Ledger) (calls : List Call) :
    Issues l (keysGiven supply logging l calls) (ledgerAfter supply logging l calls) := by
  induction calls generalizing l with
  | nil => exact .nothing rfl
  | cons call rest ih => exact (call.step.issues supply logging call.rules l).trans (ih _)

theorem ledgerAfter_concat (l : Ledger) (calls : List Call) (call : Call) :
    ledgerAfter supply logging l (calls ++ [call]) =
      (call.run supply logging (ledgerAfter supply logging l calls)).ledger := by
  induction calls generalizing l with
  | nil => rfl
  | cons first rest ih => exact ih _

theorem keysGiven_concat (l : Ledger) (calls : List Call) (call : Call) :
    keysGiven supply logging l (calls ++ [call]) = keysGiven supply logging l calls ++
      call.step.keysGiven supply call.rules (ledgerAfter supply logging l calls) := by
  induction calls generalizing l with
  | nil => exact List.append_nil _
  | cons first rest ih =>
    rw [List.cons_append, keysGiven, ih, ← List.append_assoc]
    rfl

/-- Over any row of steps of a new provisioner, succeeding or failing, no key is given to a rule twice, and the
ledger holds the keys given, as many as there are and no others. Whatever the next step is, the ledger loses
none; and if it is one that gives keys and succeeds, the keys of the rules it returns are those it gave, are
distinct, and were given to no rule before. -/
theorem issued_iff_keysGiven (supply : Supply) (logging : Bool) (calls : List Call) :
    (keysGiven supply logging {} calls).Nodup ∧
    (∀ key, key ∈ (ledgerAfter supply logging {} calls).issued ↔ key ∈ keysGiven supply logging {} calls) ∧
    (ledgerAfter supply logging {} calls).issued.Nodup ∧
    (ledgerAfter supply logging {} calls).issued.length = (keysGiven supply logging {} calls).length ∧
    ∀ call : Call,
      (ledgerAfter supply logging {} calls).issued ⊆ (ledgerAfter supply logging {} (calls ++ [call])).issued ∧
      ∀ served, (call.step = .assignKeys ∨ ∃ request, call.step = .provision request) →
        (call.run supply logging (ledgerAfter supply logging {} calls)).result = .ok served →
        ∃ keys, served.map Rule.secretKey = keys.map some ∧
          keysGiven supply logging {} (calls ++ [call]) = keysGiven supply logging {} calls ++ keys ∧
          keys.Nodup ∧ List.Disjoint keys (keysGiven supply logging {} calls) := by
  have hrun := issues_ledgerAfter supply logging {} calls
  have hissued : (ledgerAfter supply logging {} calls).issued =
      (keysGiven supply logging {} calls).reverse := by
    simpa using hrun.issued
  refine ⟨hrun.nodup, ?_, ?_, ?_, fun call => ⟨?_, fun served hstep hserved => ?_⟩⟩
  · intro key
    rw [hissued, List.mem_reverse]
  · rw [hissued, List.nodup_reverse]
    exact hrun.nodup
  · rw [hissued, List.length_reverse]
  · have hnext := call.step.issues supply logging call.rules (ledgerAfter supply logging {} calls)
    rw [ledgerAfter_concat]
    exact hnext.suffix.subset
  · have hall := (issues_ledgerAfter supply logging {} (calls ++ [call])).nodup
    rw [keysGiven_concat, List.nodup_append'] at hall
    obtain ⟨_, hnodup, hdisjoint⟩ := hall
    exact ⟨_, Step.keys_of_run hstep hserved, keysGiven_concat _ _ _, hnodup, List.disjoint_symm hdisjoint⟩

/-- A secret comes so often that the second rule of the batch gets no key; the key of the first one counts. -/
example : keysGiven ⟨fun n => if n < 17 then "a" else "b", fun n => .ok n⟩ true {}
    [⟨.assignKeys, [{}, {}]⟩, ⟨.renumber, [{}]⟩, ⟨.assignKeys, [{}]⟩] = ["a", "b"] := rfl

end Runs

end AccessGate.Provision
