import AccessGate.Proofs.Provision.Keys

/-! # What is kept of the draws

Of the secrets that are drawn for a row of rules, those are kept that are no keys yet and are drawn for the first time,
in the order of the draws. The draws end with the last key, or with sixteen draws in a row that bring none. -/
namespace AccessGate.Provision

section Definitions
variable (secret : Nat → String) (l : Ledger)

def Ledger.drawn (count : Nat) : List String := (List.range count).map fun i => secret (l.draws + i)

/-- The secrets among the next draws that are no keys yet, each of them where it is drawn first. -/
def Ledger.fresh (count : Nat) : List String := ((l.drawn secret count).filter (· ∉ l.issued)).eraseDups

/-- The ledger after the next draws, when all that is fresh among them is handed out. -/
def Ledger.after (count : Nat) : Ledger :=
  { l with issued := (l.fresh secret count).reverse ++ l.issued, draws := l.draws + count }

/-- So many draws are made up to key number `k`, the last one included. -/
structure KeyAt (k count : Nat) : Prop where
  length : (l.fresh secret count).length = k
  least : ∀ fewer < count, (l.fresh secret fewer).length < k

/-- None of the draws that may be made after `count` others brings a key. -/
def Stale (count : Nat) : Prop :=
  ∀ i < 16, secret (l.draws + count + i) ∈ l.issued ∨ secret (l.draws + count + i) ∈ l.fresh secret count

/-- The draws that follow key number `k` bring no other key. -/
def StuckAfter (k : Nat) : Prop := ∃ count, KeyAt secret l k count ∧ Stale secret l count

end Definitions

section Shift
variable {secret : Nat → String} {l : Ledger} {skipped k count : Nat}

@[simp] theorem fresh_zero : l.fresh secret 0 = [] := rfl

theorem KeyAt.unique {other : Nat} (h : KeyAt secret l k count) (hother : KeyAt secret l k other) : count = other := by
  rcases Nat.lt_trichotomy count other with hlt | heq | hlt
  · exact absurd h.length (Nat.ne_of_lt (hother.least count hlt))
  · exact heq
  · exact absurd hother.length (Nat.ne_of_lt (h.least other hlt))

theorem keyAt_zero_iff : KeyAt secret l 0 count ↔ count = 0 := by
  constructor
  · intro h
    by_contra hne
    exact absurd (h.least 0 (Nat.pos_of_ne_zero hne)) (by simp)
  · rintro rfl
    exact ⟨rfl, by simp⟩

theorem drawn_succ (count : Nat) :
    l.drawn secret (count + 1) = l.drawn secret count ++ [secret (l.draws + count)] := by
  simp [Ledger.drawn, List.range_succ]

theorem mem_fresh_iff {key : String} :
    key ∈ l.fresh secret count ↔ key ∈ l.drawn secret count ∧ key ∉ l.issued := by
  simp [Ledger.fresh]

theorem fresh_succ_of_old
    (h : secret (l.draws + count) ∈ l.issued ∨ secret (l.draws + count) ∈ l.fresh secret count) :
    l.fresh secret (count + 1) = l.fresh secret count := by
  simp only [mem_fresh_iff] at h
  rw [Ledger.fresh, Ledger.fresh, drawn_succ, List.filter_append, List.eraseDups_append]
  by_cases hissued : secret (l.draws + count) ∈ l.issued
  · simp [hissued]
  · simp [hissued, (h.resolve_left hissued).1, List.removeAll]

theorem fresh_succ_of_new (hissued : secret (l.draws + count) ∉ l.issued)
    (hfresh : secret (l.draws + count) ∉ l.fresh secret count) :
    l.fresh secret (count + 1) = l.fresh secret count ++ [secret (l.draws + count)] := by
  have hdrawn : secret (l.draws + count) ∉ l.drawn secret count :=
    fun hmem => hfresh (mem_fresh_iff.mpr ⟨hmem, hissued⟩)
  rw [Ledger.fresh, Ledger.fresh, drawn_succ, List.filter_append, List.eraseDups_append]
  simp [hissued, hdrawn, List.removeAll, List.eraseDups_cons]

theorem KeyAt.getLast?_eq (h : KeyAt secret l k count) :
    (l.fresh secret count).getLast? = (l.drawn secret count).getLast? := by
  cases count with
  | zero => rfl
  | succ count =>
    have hfewer := h.least count (Nat.lt_succ_self count)
    by_cases hold : secret (l.draws + count) ∈ l.issued ∨ secret (l.draws + count) ∈ l.fresh secret count
    · have hlength := h.length
      rw [fresh_succ_of_old hold] at hlength
      omega
    · obtain ⟨hissued, hfresh⟩ := not_or.mp hold
      rw [fresh_succ_of_new hissued hfresh, drawn_succ, List.getLast?_concat, List.getLast?_concat]

variable (taken : ∀ i < skipped, secret (l.draws + i) ∈ l.issued)
  (fresh : secret (l.draws + skipped) ∉ l.issued)

include taken in
theorem fresh_of_taken (h : count ≤ skipped) : l.fresh secret count = [] := by
  apply List.eq_nil_iff_forall_not_mem.mpr
  intro key hkey
  obtain ⟨hdrawn, hnew⟩ := mem_fresh_iff.mp hkey
  obtain ⟨i, hi, rfl⟩ := List.mem_map.mp hdrawn
  exact hnew (taken i (Nat.lt_of_lt_of_le (List.mem_range.mp hi) h))

include taken fresh in
theorem fresh_issue (count : Nat) : l.fresh secret (skipped + 1 + count) =
    secret (l.draws + skipped) :: (l.issue skipped (secret (l.draws + skipped))).fresh secret count := by
  have hdrawn : l.drawn secret (skipped + 1 + count) = l.drawn secret skipped ++ secret (l.draws + skipped) ::
      (l.issue skipped (secret (l.draws + skipped))).drawn secret count := by
    simp [Ledger.drawn, Ledger.issue, List.range_add, Nat.add_assoc]
  have hnone : (l.drawn secret skipped).filter (· ∉ l.issued) = [] := by
    simpa [Ledger.drawn] using taken
  rw [Ledger.fresh, hdrawn, List.filter_append, hnone, List.nil_append,
    List.filter_cons_of_pos (by simpa using fresh), List.eraseDups_cons, List.filter_filter, Ledger.fresh]
  congr 2
  apply List.filter_congr
  intro key _
  by_cases hkey : key = secret (l.draws + skipped) <;> simp [Ledger.issue, hkey]

include taken fresh in
theorem keyAt_issue_iff : KeyAt secret l (k + 1) count ↔
    ∃ more, count = skipped + 1 + more ∧ KeyAt secret (l.issue skipped (secret (l.draws + skipped))) k more := by
  have hlength (more : Nat) : (l.fresh secret (skipped + 1 + more)).length =
      ((l.issue skipped (secret (l.draws + skipped))).fresh secret more).length + 1 := by
    rw [fresh_issue taken fresh, List.length_cons]
  have hfew {fewer : Nat} (h : fewer ≤ skipped) : (l.fresh secret fewer).length = 0 := by
    rw [fresh_of_taken taken h, List.length_nil]
  constructor
  · intro h
    have hlt : skipped < count := by
      by_contra hle
      have hcount := h.length
      rw [hfew (by omega)] at hcount
      cases hcount
    obtain ⟨more, rfl⟩ := Nat.exists_eq_add_of_le hlt
    refine ⟨more, rfl, Nat.succ.inj ((hlength more).symm.trans h.length), fun fewer hfewer => ?_⟩
    have hleast := h.least (skipped + 1 + fewer) (Nat.add_lt_add_left hfewer _)
    rw [hlength] at hleast
    omega
  · intro ⟨more, hcount, h⟩
    subst hcount
    refine ⟨(hlength more).trans (congrArg Nat.succ h.length), fun fewer hfewer => ?_⟩
    by_cases hle : fewer ≤ skipped
    · rw [hfew hle]
      exact Nat.succ_pos k
    · obtain ⟨less, rfl⟩ := Nat.exists_eq_add_of_lt (Nat.lt_of_not_le hle)
      have hleast := h.least less (by omega)
      rw [Nat.add_right_comm, hlength]
      omega

include taken fresh in
theorem stale_issue_iff : Stale secret l (skipped + 1 + count) ↔
    Stale secret (l.issue skipped (secret (l.draws + skipped))) count := by
  have hdraw (i : Nat) : l.draws + (skipped + 1 + count) + i =
      (l.issue skipped (secret (l.draws + skipped))).draws + count + i := by
    simp only [Ledger.issue]
    omega
  refine forall₂_congr fun i _ => ?_
  rw [hdraw, fresh_issue taken fresh, List.mem_cons, Ledger.issue, List.mem_cons, or_left_comm, or_assoc]

include taken fresh in
theorem stuckAfter_issue_iff : StuckAfter secret l (k + 1) ↔
    StuckAfter secret (l.issue skipped (secret (l.draws + skipped))) k := by
  simp only [StuckAfter, keyAt_issue_iff taken fresh]
  constructor
  · intro ⟨count, ⟨more, hcount, hkey⟩, hstale⟩
    subst hcount
    exact ⟨more, hkey, (stale_issue_iff taken fresh).mp hstale⟩
  · intro ⟨more, hkey, hstale⟩
    exact ⟨_, ⟨more, rfl, hkey⟩, (stale_issue_iff taken fresh).mpr hstale⟩

end Shift

section Runs
variable {secret : Nat → String} {l l' : Ledger} {keys : List String}

theorem stuckAfter_zero_iff : StuckAfter secret l 0 ↔ Exhausted secret l := by
  simp [StuckAfter, keyAt_zero_iff, Stale, Exhausted]

theorem Drawn.draws_le (h : Drawn secret l keys l') :
    l.draws + keys.length ≤ l'.draws ∧ l'.draws ≤ l.draws + 16 * keys.length := by
  induction h with
  | nil l => simp
  | cons skipped few _ _ _ ih =>
    simp only [Ledger.issue] at ih
    simp only [List.length_cons]
    omega

/-- The keys that are drawn are what is fresh among the draws, which end with the last of them. -/
theorem Drawn.exists_count (h : Drawn secret l keys l') : ∃ count, KeyAt secret l keys.length count ∧
    keys = l.fresh secret count ∧ l' = l.after secret count := by
  induction h with
  | nil l => exact ⟨0, keyAt_zero_iff.mpr rfl, rfl, rfl⟩
  | @cons l l' keys skipped few taken fresh rest ih =>
    obtain ⟨count, hkey, hkeys, hl'⟩ := ih
    have hfresh := fresh_issue taken fresh count
    rw [← hkeys] at hfresh
    refine ⟨skipped + 1 + count, (keyAt_issue_iff taken fresh).mpr ⟨count, rfl, hkey⟩, hfresh.symm, ?_⟩
    rw [hl', Ledger.after, Ledger.after, hfresh, ← hkeys]
    simp [Ledger.issue, Nat.add_assoc]

theorem Drawn.not_stuckAfter (h : Drawn secret l keys l') : ∀ k < keys.length, ¬StuckAfter secret l k := by
  induction h with
  | nil l => simp
  | cons skipped few taken fresh _ ih =>
    intro k hk
    cases k with
    | zero =>
      rw [stuckAfter_zero_iff]
      exact fun hstuck => fresh (hstuck skipped few)
    | succ k =>
      rw [stuckAfter_issue_iff taken fresh]
      exact ih k (Nat.lt_of_succ_lt_succ hk)

theorem exhausted_after_iff {count : Nat} : Exhausted secret (l.after secret count) ↔ Stale secret l count := by
  simp [Exhausted, Stale, Ledger.after, or_comm]

theorem drawn_iff : Drawn secret l keys l' ↔ (∀ k < keys.length, ¬StuckAfter secret l k) ∧
    ∃ count, KeyAt secret l keys.length count ∧ keys = l.fresh secret count ∧ l' = l.after secret count := by
  constructor
  · exact fun h => ⟨h.not_stuckAfter, h.exists_count⟩
  · intro ⟨hstuck, count, hkey, hkeys, hl'⟩
    rcases drawn_or_exhausted secret l keys.length with
      ⟨keys₁, l₁, h, hlen⟩ | ⟨keys₁, l₁, h, hlen, hexhausted⟩
    · obtain ⟨count₁, hkey₁, hkeys₁, hl₁⟩ := h.exists_count
      rw [hlen] at hkey₁
      obtain rfl := hkey.unique hkey₁
      rwa [hkeys, hl', ← hkeys₁, ← hl₁]
    · obtain ⟨count₁, hkey₁, _, rfl⟩ := h.exists_count
      exact absurd ⟨count₁, hkey₁, exhausted_after_iff.mp hexhausted⟩ (hstuck _ hlen)

variable {rules keyed : List Rule} {e : RuleError}

theorem assignKeys_eq_ok_iff_fresh : assignKeys secret rules l = (.ok keyed, l') ↔
    (∀ k < rules.length, ¬StuckAfter secret l k) ∧ ∃ count, KeyAt secret l rules.length count ∧
      rules.length ≤ count ∧ count ≤ 16 * rules.length ∧
      (l.fresh secret count).getLast? = (l.drawn secret count).getLast? ∧
      keyed = withKeys rules (l.fresh secret count) ∧ l' = l.after secret count := by
  rw [assignKeys_eq_ok_iff]
  constructor
  · intro ⟨keys, hdrawn, hlen, hkeyed⟩
    obtain ⟨count, hkey, hkeys, hl'⟩ := hdrawn.exists_count
    have hbounds := hdrawn.draws_le
    rw [hl'] at hbounds
    simp only [Ledger.after, Nat.add_le_add_iff_left, hlen] at hbounds
    rw [hlen] at hkey
    refine ⟨hlen ▸ hdrawn.not_stuckAfter, count, hkey, hbounds.1, hbounds.2, hkey.getLast?_eq, ?_, hl'⟩
    rw [hkeyed, hkeys]
  · intro ⟨hstuck, count, hkey, _, _, _, hkeyed, hl'⟩
    rw [← hkey.length] at hstuck
    have hdrawn : Drawn secret l (l.fresh secret count) l' :=
      drawn_iff.mpr ⟨hstuck, count, hkey.length.symm ▸ hkey, rfl, hl'⟩
    exact ⟨_, hdrawn, hkey.length, hkeyed⟩

theorem assignKeys_eq_error_iff_stale : assignKeys secret rules l = (.error e, l') ↔
    ∃ k < rules.length, (∀ j < k, ¬StuckAfter secret l j) ∧ ∃ count, KeyAt secret l k count ∧
      Stale secret l count ∧ e = ⟨.supply .secretsExhausted, none⟩ ∧ e.errorClass = .provisioning ∧
      l' = (l.after secret count).skip 16 := by
  rw [assignKeys_eq_error_iff]
  constructor
  · intro ⟨keys, l₁, hdrawn, hlen, hexhausted, he, hl'⟩
    obtain ⟨count, hkey, _, rfl⟩ := hdrawn.exists_count
    have hstale := exhausted_after_iff.mp hexhausted
    have hclass : e.errorClass = .provisioning := by
      rw [he]
      rfl
    exact ⟨keys.length, hlen, hdrawn.not_stuckAfter, count, hkey, hstale, he, hclass, hl'⟩
  · intro ⟨k, hk, hstuck, count, hkey, hstale, he, _, hl'⟩
    rw [← hkey.length] at hstuck hk
    have hdrawn : Drawn secret l (l.fresh secret count) (l.after secret count) :=
      drawn_iff.mpr ⟨hstuck, count, hkey.length.symm ▸ hkey, rfl, rfl⟩
    exact ⟨_, _, hdrawn, hk, exhausted_after_iff.mpr hstale, he, hl'⟩

theorem assignKeys_fails_iff :
    (∃ e l', assignKeys secret rules l = (.error e, l')) ↔ ∃ k < rules.length, StuckAfter secret l k := by
  rcases drawn_or_exhausted secret l rules.length with ⟨keys, l₁, h, hlen⟩ | ⟨keys, l₁, h, hlen, hexhausted⟩
  · constructor
    · intro ⟨e, l', herror⟩
      cases (assignKeys_of_drawn h hlen).symm.trans herror
    · intro ⟨k, hk, hstuck⟩
      exact absurd hstuck (h.not_stuckAfter k (hlen ▸ hk))
  · obtain ⟨count, hkey, _, rfl⟩ := h.exists_count
    constructor
    · intro _
      exact ⟨_, hlen, count, hkey, exhausted_after_iff.mp hexhausted⟩
    · intro _
      exact ⟨_, _, assignKeys_of_exhausted h hlen hexhausted⟩

end Runs

/-- The keys that rules are given are the draws that are fresh, in the order of the draws and one for each rule, and
the draws end with the last key. None are given exactly when for one of the rules all the draws that may be made bring
no key: then these draws are the last ones, and the keys of the rules before stay handed out. -/
theorem assignKeys_filters (secret : Nat → String) (rules : List Rule) (l : Ledger) :
    (∀ keyed l', assignKeys secret rules l = (.ok keyed, l') ↔
      (∀ k < rules.length, ¬StuckAfter secret l k) ∧ ∃ count, KeyAt secret l rules.length count ∧
        rules.length ≤ count ∧ count ≤ 16 * rules.length ∧
        (l.fresh secret count).getLast? = (l.drawn secret count).getLast? ∧
        keyed = withKeys rules (l.fresh secret count) ∧ l' = l.after secret count) ∧
    (∀ e l', assignKeys secret rules l = (.error e, l') ↔
      ∃ k < rules.length, (∀ j < k, ¬StuckAfter secret l j) ∧ ∃ count, KeyAt secret l k count ∧
        Stale secret l count ∧ e = ⟨.supply .secretsExhausted, none⟩ ∧ e.errorClass = .provisioning ∧
        l' = (l.after secret count).skip 16) ∧
    ((∃ e l', assignKeys secret rules l = (.error e, l')) ↔ ∃ k < rules.length, StuckAfter secret l k) :=
  ⟨fun _ _ => assignKeys_eq_ok_iff_fresh, fun _ _ => assignKeys_eq_error_iff_stale, assignKeys_fails_iff⟩

end AccessGate.Provision
