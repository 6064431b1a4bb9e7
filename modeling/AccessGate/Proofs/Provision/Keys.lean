import AccessGate.Provision.Key
import Mathlib.Data.List.Nodup
import Mathlib.Data.Nat.Find

/-! # Keys that are drawn

What the draws for a row of rules come to: for each rule the first secret that is no key yet, as long as
one comes within the attempts allowed. Keys that were handed out stay in the ledger when a later rule of
the row gets none. -/
namespace AccessGate.Provision

/-- The ledger after some draws without a new key and one that gave `key`. -/
def Ledger.issue (l : Ledger) (skipped : Nat) (key : String) : Ledger :=
  { l with issued := key :: l.issued, draws := l.draws + skipped + 1 }

def Ledger.skip (l : Ledger) (draws : Nat) : Ledger := { l with draws := l.draws + draws }

/-- `Drawn secret l keys l'`: the draws from `l` on give `keys`, and leave `l'` behind. Each key is the
first secret drawn for it that was no key yet, and came within the attempts for one key. -/
inductive Drawn (secret : Nat → String) : Ledger → List String → Ledger → Prop
  | nil (l : Ledger) : Drawn secret l [] l
  | cons {l l' : Ledger} {keys : List String} (skipped : Nat) (few : skipped < 16)
      (taken : ∀ i < skipped, secret (l.draws + i) ∈ l.issued)
      (fresh : secret (l.draws + skipped) ∉ l.issued)
      (rest : Drawn secret (l.issue skipped (secret (l.draws + skipped))) keys l') :
      Drawn secret l (secret (l.draws + skipped) :: keys) l'

/-- All draws that may be made for the next key give keys that are taken. -/
def Exhausted (secret : Nat → String) (l : Ledger) : Prop :=
  ∀ i < 16, secret (l.draws + i) ∈ l.issued

def withKeys (rules : List Rule) (keys : List String) : List Rule :=
  List.zipWith (fun r key => { r with secretKey := some key }) rules keys

theorem mem_withKeys {rules : List Rule} {keys : List String} {s : Rule} (h : s ∈ withKeys rules keys) :
    ∃ r ∈ rules, ∃ key ∈ keys, s = { r with secretKey := some key } := by
  rw [withKeys, ← List.map_uncurry_zip_eq_zipWith] at h
  obtain ⟨⟨r, key⟩, hmem, rfl⟩ := List.mem_map.mp h
  obtain ⟨hr, hkey⟩ := List.of_mem_zip hmem
  exact ⟨r, hr, key, hkey, rfl⟩

theorem map_secretKey_withKeys {rules : List Rule} {keys : List String} (hlen : keys.length = rules.length) :
    (withKeys rules keys).map Rule.secretKey = keys.map some := by
  refine List.ext_getElem (by simp [withKeys, hlen]) fun i _ _ => ?_
  simp [withKeys]

section Draws
variable {secret : Nat → String} {l : Ledger}

private theorem drawKey_skip (attempts : Nat) {draws : Nat}
    (taken : ∀ i < draws, secret (l.draws + i) ∈ l.issued) :
    drawKey secret (draws + attempts) l = drawKey secret attempts (l.skip draws) := by
  induction draws generalizing l with
  | zero => rw [Nat.zero_add]; rfl
  | succ draws ih =>
    have hfirst : secret l.draws ∈ l.issued := taken 0 (Nat.zero_lt_succ draws)
    have hrest : ∀ i < draws, secret ((l.skip 1).draws + i) ∈ (l.skip 1).issued := by
      intro i hi
      have hnext := taken (i + 1) (Nat.succ_lt_succ hi)
      rwa [Nat.add_comm i 1, ← Nat.add_assoc] at hnext
    have hskip : (l.skip 1).skip draws = l.skip (draws + 1) := by
      simp only [Ledger.skip, Nat.add_assoc, Nat.add_comm 1]
    rw [Nat.add_right_comm, ← hskip, ← ih hrest, drawKey]
    exact if_pos hfirst

theorem drawKey_of_taken {attempts : Nat} (taken : ∀ i < attempts, secret (l.draws + i) ∈ l.issued) :
    drawKey secret attempts l = (none, l.skip attempts) :=
  drawKey_skip 0 taken

theorem drawKey_of_fresh {attempts skipped : Nat} (few : skipped < attempts)
    (taken : ∀ i < skipped, secret (l.draws + i) ∈ l.issued)
    (fresh : secret (l.draws + skipped) ∉ l.issued) :
    drawKey secret attempts l =
      (some (secret (l.draws + skipped)), l.issue skipped (secret (l.draws + skipped))) := by
  obtain ⟨more, rfl⟩ : ∃ more, attempts = skipped + (more + 1) := ⟨attempts - skipped - 1, by omega⟩
  rw [drawKey_skip _ taken]
  exact if_neg fresh

theorem taken_or_fresh (secret : Nat → String) (l : Ledger) (attempts : Nat) :
    (∀ i < attempts, secret (l.draws + i) ∈ l.issued) ∨
      ∃ skipped < attempts, (∀ i < skipped, secret (l.draws + i) ∈ l.issued) ∧
        secret (l.draws + skipped) ∉ l.issued := by
  by_cases h : ∃ i, i < attempts ∧ secret (l.draws + i) ∉ l.issued
  · -- The first draw that gives a new key is the one that counts.
    obtain ⟨hlt, hfresh⟩ := Nat.find_spec h
    refine .inr ⟨Nat.find h, hlt, fun i hi => ?_, hfresh⟩
    by_contra hmem
    exact Nat.find_min h hi ⟨Nat.lt_trans hi hlt, hmem⟩
  · refine .inl fun i hi => ?_
    by_contra hmem
    exact h ⟨i, hi, hmem⟩

end Draws

section Rows
variable {secret : Nat → String} {l l' : Ledger} {keys : List String}

theorem Drawn.issued_eq (h : Drawn secret l keys l') : l'.issued = keys.reverse ++ l.issued := by
  induction h with
  | nil l => rfl
  | cons skipped _ _ _ _ ih => rw [ih, List.reverse_cons, List.append_assoc]; rfl

theorem Drawn.portCalls_eq (h : Drawn secret l keys l') : l'.portCalls = l.portCalls := by
  induction h with
  | nil l => rfl
  | cons skipped _ _ _ _ ih => exact ih

theorem Drawn.fresh (h : Drawn secret l keys l') : ∀ key ∈ keys, key ∉ l.issued := by
  induction h with
  | nil l => simp
  | cons skipped _ _ fresh _ ih =>
    refine List.forall_mem_cons.mpr ⟨fresh, fun key hkey hmem => ?_⟩
    exact ih key hkey (List.mem_cons_of_mem _ hmem)

theorem Drawn.nodup (h : Drawn secret l keys l') : keys.Nodup := by
  induction h with
  | nil l => exact List.nodup_nil
  | cons skipped _ _ _ rest ih =>
    refine List.nodup_cons.mpr ⟨fun hmem => ?_, ih⟩
    exact rest.fresh _ hmem List.mem_cons_self

theorem assignKeys_of_drawn {rules : List Rule} (h : Drawn secret l keys l')
    (hlen : keys.length = rules.length) :
    assignKeys secret rules l = (.ok (withKeys rules keys), l') := by
  induction h generalizing rules with
  | nil l =>
    rw [List.eq_nil_of_length_eq_zero hlen.symm]
    rfl
  | cons skipped few taken fresh _ ih =>
    cases rules with
    | nil => simp at hlen
    | cons r rest =>
      have hdraw : drawKey secret keyAttempts _ = _ := drawKey_of_fresh few taken fresh
      rw [assignKeys, hdraw]
      simp only [ih (Nat.succ.inj hlen)]
      rfl

theorem assignKeys_of_exhausted {rules : List Rule} (h : Drawn secret l keys l')
    (hlen : keys.length < rules.length) (hstuck : Exhausted secret l') :
    assignKeys secret rules l =
      (.error ⟨.supply .secretsExhausted, none⟩, l'.skip keyAttempts) := by
  induction h generalizing rules with
  | nil l =>
    cases rules with
    | nil => simp at hlen
    | cons r rest =>
      have hdraw : drawKey secret keyAttempts _ = _ := drawKey_of_taken hstuck
      rw [assignKeys, hdraw]
  | cons skipped few taken fresh _ ih =>
    cases rules with
    | nil => simp at hlen
    | cons r rest =>
      have hdraw : drawKey secret keyAttempts _ = _ := drawKey_of_fresh few taken fresh
      rw [assignKeys, hdraw]
      simp only [ih (Nat.lt_of_succ_lt_succ hlen) hstuck]
      rfl

/-- Either each rule of a row gets its key, or the draws are exhausted at one of the rules. -/
theorem drawn_or_exhausted (secret : Nat → String) (l : Ledger) (count : Nat) :
    (∃ keys l', Drawn secret l keys l' ∧ keys.length = count) ∨
      ∃ keys l', Drawn secret l keys l' ∧ keys.length < count ∧ Exhausted secret l' := by
  induction count generalizing l with
  | zero => exact .inl ⟨[], l, .nil l, rfl⟩
  | succ count ih =>
    rcases taken_or_fresh secret l 16 with hstuck | ⟨skipped, few, taken, fresh⟩
    · exact .inr ⟨[], l, .nil l, Nat.zero_lt_succ count, hstuck⟩
    · rcases ih (l.issue skipped (secret (l.draws + skipped))) with
        ⟨keys, l', h, hlen⟩ | ⟨keys, l', h, hlen, hstuck⟩
      · exact .inl ⟨_, l', .cons skipped few taken fresh h, congrArg Nat.succ hlen⟩
      · exact .inr ⟨_, l', .cons skipped few taken fresh h, Nat.succ_lt_succ hlen, hstuck⟩

theorem assignKeys_eq_ok_iff {rules keyed : List Rule} : assignKeys secret rules l = (.ok keyed, l') ↔
    ∃ keys, Drawn secret l keys l' ∧ keys.length = rules.length ∧ keyed = withKeys rules keys := by
  constructor
  · intro hassign
    rcases drawn_or_exhausted secret l rules.length with ⟨keys, l₁, h, hlen⟩ | ⟨keys, l₁, h, hlen, hstuck⟩
    · rw [assignKeys_of_drawn h hlen, Prod.mk.injEq] at hassign
      obtain ⟨hkeyed, rfl⟩ := hassign
      exact ⟨keys, h, hlen, (Except.ok.inj hkeyed).symm⟩
    · rw [assignKeys_of_exhausted h hlen hstuck] at hassign
      cases hassign
  · intro h
    obtain ⟨keys, h, hlen, rfl⟩ := h
    exact assignKeys_of_drawn h hlen

theorem assignKeys_eq_error_iff {rules : List Rule} {e : RuleError} :
    assignKeys secret rules l = (.error e, l') ↔ ∃ keys l₁, Drawn secret l keys l₁ ∧
      keys.length < rules.length ∧ Exhausted secret l₁ ∧
      e = ⟨.supply .secretsExhausted, none⟩ ∧ l' = l₁.skip keyAttempts := by
  constructor
  · intro hassign
    rcases drawn_or_exhausted secret l rules.length with ⟨keys, l₁, h, hlen⟩ | ⟨keys, l₁, h, hlen, hstuck⟩
    · rw [assignKeys_of_drawn h hlen] at hassign
      cases hassign
    · rw [assignKeys_of_exhausted h hlen hstuck, Prod.mk.injEq, Except.error.injEq] at hassign
      obtain ⟨he, hl'⟩ := hassign
      exact ⟨keys, l₁, h, hlen, hstuck, he.symm, hl'.symm⟩
  · rintro ⟨keys, l₁, h, hlen, hstuck, rfl, rfl⟩
    exact assignKeys_of_exhausted h hlen hstuck

end Rows
end AccessGate.Provision
