import AccessGate.Proofs.Checks
import Mathlib.Order.Nat

/-! # Where the checks of a set of rules stop

The rules of a set are looked at one after the other, against the numbers of those before. So a set that is refused
is refused at its first rule that is not valid or repeats a number, whatever is wrong with later ones. Before a set
is served it is looked at a second time, for what is filled in; that never comes before a fault of the first time. -/
namespace AccessGate.RuleSet

variable {rules rest : List Rule} {r : Rule} {seen : List Int} {i : Nat} {e : RuleError}

/-- `RefusedAt rules i e`: the rule at place `i` is refused with `e`, its own error if it is not valid, and else the
error that an earlier rule has its number. -/
inductive RefusedAt (rules : List Rule) (i : Nat) : RuleError → Prop
  | invalid {r : Rule} {e : RuleError} (hrule : rules[i]? = some r) (hinvalid : r.validate = .error e) :
      RefusedAt rules i e
  | repeated {r : Rule} (hrule : rules[i]? = some r) (hvalid : r.validate = .ok ())
      (hearlier : r.ruleNum ∈ (rules.take i).map Rule.ruleNum) :
      RefusedAt rules i ⟨.ruleSet (.duplicate r.ruleNum), some r.ruleNum⟩

theorem validateFrom_of_error (h : r.validate = .error e) : validateFrom seen (r :: rest) = .error e := by
  rw [validateFrom, h]
  rfl

theorem validateFrom_of_seen (h : r.validate = .ok ()) (hseen : r.ruleNum ∈ seen) :
    validateFrom seen (r :: rest) = .error ⟨.ruleSet (.duplicate r.ruleNum), some r.ruleNum⟩ := by
  rw [validateFrom, h]
  simp [bind, Except.bind, hseen, throw, throwThe, MonadExceptOf.throw]

theorem validateFrom_of_new (h : r.validate = .ok ()) (hseen : r.ruleNum ∉ seen) :
    validateFrom seen (r :: rest) = validateFrom (r.ruleNum :: seen) rest := by
  rw [validateFrom, h]
  simp [bind, Except.bind, hseen]

/-- What is left to check when the rules before place `i` have passed. -/
def validateAt (rules : List Rule) (i : Nat) : Except RuleError Unit :=
  validateFrom ((rules.take i).map Rule.ruleNum).reverse (rules.drop i)

theorem validateAt_of_refused (h : RefusedAt rules i e) : validateAt rules i = .error e := by
  rw [validateAt]
  cases h with
  | invalid hrule hinvalid =>
    obtain ⟨hi, rfl⟩ := List.getElem?_eq_some_iff.mp hrule
    rw [List.drop_eq_getElem_cons hi]
    exact validateFrom_of_error hinvalid
  | repeated hrule hvalid hearlier =>
    obtain ⟨hi, rfl⟩ := List.getElem?_eq_some_iff.mp hrule
    rw [List.drop_eq_getElem_cons hi]
    exact validateFrom_of_seen hvalid (List.mem_reverse.mpr hearlier)

theorem validateAt_succ (hi : i < rules.length) (h : ∀ e, ¬RefusedAt rules i e) :
    validateAt rules i = validateAt rules (i + 1) := by
  have hrule : rules[i]? = some rules[i] := List.getElem?_eq_getElem hi
  cases hvalid : rules[i].validate with
  | error e => exact absurd (.invalid hrule hvalid) (h e)
  | ok =>
    have hnew : rules[i].ruleNum ∉ ((rules.take i).map Rule.ruleNum).reverse := fun hseen =>
      h _ (.repeated hrule hvalid (List.mem_reverse.mp hseen))
    rw [validateAt, List.drop_eq_getElem_cons hi, validateFrom_of_new hvalid hnew, validateAt,
      List.take_succ_eq_append_getElem hi, List.map_append, List.reverse_append]
    rfl

theorem validateFrom_eq_validateAt (hi : i ≤ rules.length) (h : ∀ j < i, ∀ e, ¬RefusedAt rules j e) :
    validateFrom [] rules = validateAt rules i := by
  -- Nothing is refused before `i`, so what is left stays the same from place to place.
  induction i with
  | zero => rfl
  | succ i ih =>
    rw [ih (by omega) fun j hj => h j (by omega), validateAt_succ hi (h i (Nat.lt_succ_self i))]

theorem validateAt_length : validateAt rules rules.length = .ok () := by
  rw [validateAt, List.drop_length]
  rfl

theorem RefusedAt.lt_length (h : RefusedAt rules i e) : i < rules.length := by
  cases h with
  | invalid hrule _ | repeated hrule _ _ => exact (List.getElem?_eq_some_iff.mp hrule).1

theorem validateFrom_of_isLeast (hleast : IsLeast {i | ∃ e, RefusedAt rules i e} i) (h : RefusedAt rules i e) :
    validateFrom [] rules = .error e := by
  rw [validateFrom_eq_validateAt h.lt_length.le fun j hj e' he' => Nat.not_lt.mpr (hleast.2 ⟨e', he'⟩) hj]
  exact validateAt_of_refused h

theorem validateFrom_eq_error_iff : validateFrom [] rules = .error e ↔
    ∃ i, IsLeast {i | ∃ e, RefusedAt rules i e} i ∧ RefusedAt rules i e := by
  classical
  constructor
  · intro h
    by_cases hrefused : ∃ i e, RefusedAt rules i e
    · have hleast : IsLeast {i | ∃ e, RefusedAt rules i e} (Nat.find hrefused) := Nat.isLeast_find hrefused
      obtain ⟨e', he'⟩ := hleast.1
      obtain rfl := Except.error.inj (h.symm.trans (validateFrom_of_isLeast hleast he'))
      exact ⟨_, hleast, he'⟩
    · -- With nothing refused the check runs to the end of the list, where it passes.
      have hnone : ∀ j < rules.length, ∀ e, ¬RefusedAt rules j e := fun j _ e hj => hrefused ⟨j, e, hj⟩
      rw [validateFrom_eq_validateAt le_rfl hnone, validateAt_length] at h
      cases h
  · rintro ⟨i, hleast, h⟩
    exact validateFrom_of_isLeast hleast h

theorem validate_eq_error_iff : validate rules = .error e ↔
    rules = [] ∧ e = ⟨.ruleSet .empty, none⟩ ∨
      ∃ i, IsLeast {i | ∃ e, RefusedAt rules i e} i ∧ RefusedAt rules i e := by
  rw [← validateFrom_eq_error_iff, validate]
  cases rules with
  | nil => simp [validateFrom, eq_comm]
  | cons r rest => simp

/-- A set of rules passes exactly when it is not empty, its rules are valid and their numbers differ. Any other set,
but for the empty one, is refused at the first of its rules that is not valid or repeats a number. A set is fit to be
served exactly when it passes and each of its rules is fit to be served; else the error is that of the set, if it
has one, even where an earlier rule is not filled in, and otherwise that of its first rule that is not fit. -/
theorem validate_stops_at_first_refused (rules : List Rule) :
    (validate rules = .ok () ↔ Fit rules) ∧
    (∀ e, validate rules = .error e ↔ rules = [] ∧ e = ⟨.ruleSet .empty, none⟩ ∨
      ∃ i, IsLeast {i | ∃ e, RefusedAt rules i e} i ∧ RefusedAt rules i e) ∧
    (validateRuntime rules = .ok () ↔ validate rules = .ok () ∧ ∀ r ∈ rules, r.validateRuntime = .ok ()) ∧
    ∀ e, validateRuntime rules = .error e ↔ validate rules = .error e ∨ validate rules = .ok () ∧
      ∃ before r after, rules = before ++ r :: after ∧ (∀ s ∈ before, s.validateRuntime = .ok ()) ∧
        r.validateRuntime = .error e := by
  refine ⟨validate_eq_ok_iff, fun e => validate_eq_error_iff, ?_, fun e => ?_⟩
  · rw [validateRuntime, seq_eq_ok_iff, forM_eq_ok_iff]
  · rw [validateRuntime, ← forM_eq_error_iff]
    cases validate rules <;> simp [bind, Except.bind]

end AccessGate.RuleSet
