import AccessGate.Rule.Set
import Mathlib.Data.List.Forall2
import Mathlib.Data.List.Nodup

/-! # Checks that pass

A check passes or ends with its first fault. A chain of checks passes when each of its members does, so a
set of rules passes when it is fit: not empty, made of valid rules, and without repeated numbers. -/
namespace AccessGate

section Chain
variable {ε ε' α β : Type}

theorem bind_eq_ok_iff {x : Except ε α} {f : α → Except ε β} {b : β} :
    (x >>= f) = .ok b ↔ ∃ a, x = .ok a ∧ f a = .ok b := by
  cases x <;> simp [bind, Except.bind]

theorem seq_eq_ok_iff {x : Except ε Unit} {y : Except ε β} {b : β} :
    (x >>= fun _ => y) = .ok b ↔ x = .ok () ∧ y = .ok b := by
  cases x <;> simp [bind, Except.bind]

theorem pure_eq_ok_iff {a b : α} : (pure a : Except ε α) = .ok b ↔ a = b := by
  simp [pure, Except.pure]

theorem mapError_eq_ok_iff {x : Except ε α} {f : ε → ε'} {a : α} :
    x.mapError f = .ok a ↔ x = .ok a := by
  cases x <;> simp [Except.mapError]

theorem map_eq_ok_iff {x : Except ε α} {f : α → β} {b : β} :
    x.map f = .ok b ↔ ∃ a, x = .ok a ∧ f a = b := by
  cases x <;> simp [Except.map]

theorem refuse_eq_ok_iff {c : Prop} [Decidable c] {e : ε} {f : PUnit → Except ε α} {x : Except ε α}
    {a : α} : (if c then throw e >>= f else x) = .ok a ↔ ¬c ∧ x = .ok a := by
  split <;> simp_all [throw, throwThe, MonadExceptOf.throw, bind, Except.bind]

theorem exists_eq_ok_iff {x : Except ε PUnit} : (∃ u, x = .ok u) ↔ x = .ok () :=
  ⟨fun ⟨(), h⟩ => h, fun h => ⟨(), h⟩⟩

theorem forM_eq_ok_iff {check : α → Except ε PUnit} {xs : List α} :
    xs.forM check = .ok () ↔ ∀ x ∈ xs, check x = .ok () := by
  induction xs with
  | nil => simp [List.forM, pure, Except.pure]
  | cons x xs ih =>
    change (check x >>= fun _ => xs.forM check) = .ok () ↔ _
    rw [seq_eq_ok_iff, ih, List.forall_mem_cons]

theorem mapM_eq_ok_iff {read : α → Except ε β} {xs : List α} {ys : List β} :
    xs.mapM read = .ok ys ↔ List.Forall₂ (fun x y => read x = .ok y) xs ys := by
  induction xs generalizing ys with
  | nil => simp [pure, Except.pure, eq_comm]
  | cons x xs ih =>
    simp only [List.mapM_cons, bind_eq_ok_iff, pure_eq_ok_iff, ih, List.forall₂_cons_left_iff]
    constructor
    · intro h
      obtain ⟨y, hy, ys', hys, rfl⟩ := h
      exact ⟨y, ys', hy, hys, rfl⟩
    · intro h
      obtain ⟨y, ys', hy, hys, rfl⟩ := h
      exact ⟨y, hy, ys', hys, rfl⟩

theorem mapError_eq_error_iff {x : Except ε α} {f : ε → ε'} {e : ε'} :
    x.mapError f = .error e ↔ ∃ e₀, x = .error e₀ ∧ e = f e₀ := by
  cases x <;> simp [Except.mapError, eq_comm]

theorem map_eq_error_iff {x : Except ε α} {f : α → β} {e : ε} : x.map f = .error e ↔ x = .error e := by
  cases x <;> simp [Except.map]

theorem mapM_eq_error_iff {read : α → Except ε β} {xs : List α} {e : ε} :
    xs.mapM read = .error e ↔ ∃ before x after, xs = before ++ x :: after ∧
      (∀ y ∈ before, ∃ b, read y = .ok b) ∧ read x = .error e := by
  induction xs with
  | nil => simp [pure, Except.pure]
  | cons x xs ih =>
    rw [List.mapM_cons]
    cases hx : read x with
    | error e' =>
      change Except.error e' = .error e ↔ _
      constructor
      · intro h
        cases h
        exact ⟨[], x, xs, rfl, by simp, hx⟩
      · intro h
        obtain ⟨before, y, after, hsplit, hbefore, hy⟩ := h
        cases before with
        | nil =>
          cases hsplit
          rw [Except.error.inj (hx.symm.trans hy)]
        | cons z before =>
          cases hsplit
          obtain ⟨b, hb⟩ := hbefore x List.mem_cons_self
          exact absurd (hx.symm.trans hb) (by simp)
    | ok b =>
      have hrest : (xs.mapM read >>= fun bs => pure (b :: bs)) = Except.error e ↔
          xs.mapM read = .error e := by
        cases xs.mapM read <;> simp [bind, Except.bind, pure, Except.pure]
      change (xs.mapM read >>= fun bs => pure (b :: bs)) = .error e ↔ _
      rw [hrest, ih]
      constructor
      · intro h
        obtain ⟨before, y, after, rfl, hbefore, hy⟩ := h
        exact ⟨x :: before, y, after, rfl, List.forall_mem_cons.mpr ⟨⟨b, hx⟩, hbefore⟩, hy⟩
      · intro h
        obtain ⟨before, y, after, hsplit, hbefore, hy⟩ := h
        cases before with
        | nil =>
          cases hsplit
          exact absurd (hx.symm.trans hy) (by simp)
        | cons z before =>
          cases hsplit
          exact ⟨before, y, after, rfl, (List.forall_mem_cons.mp hbefore).2, hy⟩

theorem forM_eq_map_mapM (check : α → Except ε PUnit) (xs : List α) :
    xs.forM check = (xs.mapM check).map fun _ => () := by
  induction xs with
  | nil => rfl
  | cons x xs ih =>
    change (check x >>= fun _ => xs.forM check) = _
    rw [ih, List.mapM_cons]
    cases check x with
    | error e => rfl
    | ok => cases xs.mapM check <;> rfl

theorem forM_eq_error_iff {check : α → Except ε PUnit} {xs : List α} {e : ε} :
    xs.forM check = .error e ↔ ∃ before x after, xs = before ++ x :: after ∧
      (∀ y ∈ before, check y = .ok ()) ∧ check x = .error e := by
  rw [forM_eq_map_mapM, map_eq_error_iff, mapM_eq_error_iff]
  simp only [exists_eq_ok_iff]

end Chain

theorem isPort_iff {n : Int} : isPort n = true ↔ 0 ≤ n ∧ n ≤ 65535 := by
  simp only [isPort, Bool.and_eq_true, decide_eq_true_eq]
  rfl

namespace Rule

theorem validate_eq_ok_iff {r : Rule} : r.validate = .ok () ↔ r.check = .ok () :=
  mapError_eq_ok_iff

theorem schemeOf?_of_readPattern {pattern : Option String} {read : String × Scheme}
    (h : readPattern pattern = .ok read) : pattern.bind schemeOf? = some read.2 := by
  cases pattern with
  | none => simp [readPattern] at h
  | some p =>
    simp only [readPattern] at h
    split at h
    · simp at h
    · cases hscheme : schemeOf? p with
      | none => simp [hscheme] at h
      | some scheme =>
        simp only [hscheme, Except.ok.injEq] at h
        rw [Option.bind_some, hscheme, ← h]

theorem readPattern_eq_ok_iff {field : Option String} {read : String × Scheme} :
    readPattern field = .ok read ↔ ∃ pattern, field = some pattern ∧
      Text.hasInnerBlank (Text.trim pattern) = false ∧ read.1 = Text.trim pattern ∧
        schemeOf? pattern = some read.2 := by
  cases field with
  | none => simp [readPattern]
  | some pattern =>
    obtain ⟨trimmed, scheme⟩ := read
    cases hblank : Text.hasInnerBlank (Text.trim pattern) with
    | true => simp [readPattern, hblank]
    | false =>
      cases hscheme : schemeOf? pattern with
      | none => simp [readPattern, hblank, hscheme]
      | some found => simp [readPattern, hblank, hscheme, @eq_comm _ trimmed]

theorem checkHostPort_eq_ok_iff {scheme : Scheme} {pattern : String} :
    checkHostPort scheme pattern = .ok () ↔ ∃ parts, urlParts scheme pattern = .ok parts ∧
      (∃ port, parts.location.portNumber? = .ok port) ∧ parts.location.host ≠ [] ∧
        parts.path.length ≤ 1 := by
  unfold checkHostPort
  cases urlParts scheme pattern with
  | error fault => simp
  | ok parts =>
    simp only
    cases hport : parts.location.portNumber? with
    | error fault => simp [hport]
    | ok port =>
      by_cases hhost : parts.location.host = []
      · simp [hhost]
      · by_cases hpath : 1 < parts.path.length
        · simp [hhost, hpath, Nat.not_le.mpr hpath]
        · simp [hport, hhost, hpath, Nat.not_lt.mp hpath]

theorem check_eq_ok_iff {r : Rule} : r.check = .ok () ↔
    0 < r.ruleNum ∧ checkClientId r.clientId = .ok () ∧ checkEntities r.allowedEntities = .ok () ∧
      checkApps r.apps = .ok () ∧ ∃ read, readPattern r.pattern = .ok read ∧
        ∃ t, readPatternType read.1 r.patternType = .ok t ∧ checkPatternType read.1 t read.2 = .ok () := by
  unfold check
  rw [refuse_eq_ok_iff, seq_eq_ok_iff, seq_eq_ok_iff, seq_eq_ok_iff]
  simp only [bind_eq_ok_iff, Int.not_le]

theorem readPatternType_congr {pattern : String} {field : Option PatternTypeField} {t : PatternType}
    (h : readPatternType pattern field = .ok t) (other : String) :
    readPatternType other field = .ok t := by
  cases field with
  | none => simp [readPatternType] at h
  | some field => exact h

theorem scheme?_of_check {r : Rule} {pattern : String} (h : r.check = .ok ())
    (hexact : readPatternType pattern r.patternType = .ok .urlExact) : r.scheme? = some .http := by
  obtain ⟨_, _, _, _, ⟨read, scheme⟩, hread, t, htype, hfit⟩ := check_eq_ok_iff.mp h
  have ht : t = .urlExact := Except.ok.inj (htype.symm.trans (readPatternType_congr hexact read))
  subst ht
  rw [scheme?, schemeOf?_of_readPattern hread]
  cases scheme with
  | http => rfl
  | https => cases hfit
  | socket => cases hfit

theorem checkRuntime_eq_ok_iff {r : Rule} : r.checkRuntime = .ok () ↔ r.check = .ok () ∧
    r.checkHttpProxyPort = .ok () ∧ checkSocksServerPort r.socksServerPort = .ok () ∧
      r.secretKey.isSome = true := by
  unfold checkRuntime
  rw [seq_eq_ok_iff, seq_eq_ok_iff, seq_eq_ok_iff]
  cases r.secretKey <;> simp [throw, throwThe, MonadExceptOf.throw, pure, Except.pure]

/-- For a valid rule that has a local port if it is for plain http, only the range of the port counts. -/
theorem checkHttpProxyPort_eq_ok_iff {r : Rule} (h : r.check = .ok ())
    (hport : r.scheme? = some .http → r.httpProxyPort.isSome = true) :
    r.checkHttpProxyPort = .ok () ↔ ∀ port, r.httpProxyPort = some port → isPort port = true := by
  unfold checkHttpProxyPort
  cases hp : r.httpProxyPort with
  | some port => cases hrange : isPort port <;> simp [hrange]
  | none =>
    obtain ⟨_, _, _, _, read, _, t, htype, _⟩ := check_eq_ok_iff.mp h
    have ht := readPatternType_congr htype (r.pattern.getD "")
    have hexact : t ≠ .urlExact := by
      rintro rfl
      simpa [hp] using hport (scheme?_of_check h ht)
    simp [ht, hexact, bind, Except.bind, pure, Except.pure]

@[simp] theorem checkSocksServerPort_some_eq_ok_iff {port : Int} :
    checkSocksServerPort (some port) = .ok () ↔ isPort port = true := by
  cases h : isPort port <;> simp [checkSocksServerPort, h]

def authored (r : Rule) : Rule :=
  { r with httpProxyPort := none, socksServerPort := none, secretKey := none }

@[simp] theorem validate_authored (r : Rule) : r.authored.validate = r.validate := rfl

@[simp] theorem ruleNum_authored (r : Rule) : r.authored.ruleNum = r.ruleNum := rfl

end Rule

namespace RuleSet

/-- Rules that no check tells apart. -/
structure CheckedAlike (r r' : Rule) : Prop where
  ruleNum : r.ruleNum = r'.ruleNum
  validate : r.validate = r'.validate
  validateRuntime : r.validateRuntime = r'.validateRuntime

theorem validateFrom_congr {rules rules' : List Rule} (h : List.Forall₂ CheckedAlike rules rules')
    (seen : List Int) : validateFrom seen rules = validateFrom seen rules' := by
  induction h generalizing seen with
  | nil => rfl
  | cons hr _ ih => simp only [validateFrom, hr.validate, hr.ruleNum, ih]

theorem validate_congr {rules rules' : List Rule} (h : List.Forall₂ CheckedAlike rules rules') :
    validate rules = validate rules' := by
  have hempty : rules.isEmpty = rules'.isEmpty := by cases h <;> rfl
  simp only [validate, hempty, validateFrom_congr h]

theorem validateRuntime_congr {rules rules' : List Rule} (h : List.Forall₂ CheckedAlike rules rules') :
    validateRuntime rules = validateRuntime rules' := by
  have heach : rules.forM Rule.validateRuntime = rules'.forM Rule.validateRuntime := by
    induction h with
    | nil => rfl
    | cons hr _ ih =>
      simp only [List.forM_eq_forM, List.forM_cons, hr.validateRuntime] at ih ⊢
      rw [ih]
  simp only [validateRuntime, validate_congr h, heach]

theorem validateRuntime_map {f : Rule → Rule} {rules : List Rule} (h : ∀ r ∈ rules, CheckedAlike (f r) r) :
    validateRuntime (rules.map f) = validateRuntime rules := by
  apply validateRuntime_congr
  rw [List.forall₂_map_left_iff, List.forall₂_same]
  exact h

structure Fit (rules : List Rule) : Prop where
  nonempty : rules ≠ []
  valid : ∀ r ∈ rules, r.validate = .ok ()
  distinct : (rules.map Rule.ruleNum).Nodup

theorem validateFrom_eq_ok_iff (seen : List Int) (rules : List Rule) :
    validateFrom seen rules = .ok () ↔ (∀ r ∈ rules, r.validate = .ok ()) ∧
      (rules.map Rule.ruleNum).Nodup ∧ ∀ r ∈ rules, r.ruleNum ∉ seen := by
  induction rules generalizing seen with
  | nil => simp [validateFrom]
  | cons r rest ih =>
    rw [validateFrom, seq_eq_ok_iff, refuse_eq_ok_iff, ih]
    simp only [List.forall_mem_cons, List.map_cons, List.nodup_cons]
    simp only [List.mem_map, List.mem_cons, not_or, not_exists, not_and]
    constructor
    · intro h
      obtain ⟨hr, hseen, hvalid, hdistinct, hrest⟩ := h
      exact ⟨⟨hr, hvalid⟩, ⟨fun s hs => (hrest s hs).1, hdistinct⟩, hseen, fun s hs => (hrest s hs).2⟩
    · intro h
      obtain ⟨⟨hr, hvalid⟩, ⟨hnew, hdistinct⟩, hseen, hrest⟩ := h
      exact ⟨hr, hseen, hvalid, hdistinct, fun s hs => ⟨hnew s hs, hrest s hs⟩⟩

theorem validate_eq_ok_iff {rules : List Rule} : validate rules = .ok () ↔ Fit rules := by
  unfold validate
  split
  · rename_i h
    have hnil : rules = [] := List.isEmpty_iff.mp h
    exact ⟨fun h => (by cases h), fun h => absurd hnil h.nonempty⟩
  · rename_i h
    rw [validateFrom_eq_ok_iff]
    refine ⟨fun h' => ⟨?_, h'.1, h'.2.1⟩, fun h' => ⟨h'.valid, h'.distinct, by simp⟩⟩
    rintro rfl
    exact h rfl

theorem fit_map_authored {rules : List Rule} : Fit (rules.map Rule.authored) ↔ Fit rules := by
  constructor
  · intro h
    refine ⟨fun hnil => h.nonempty (by rw [hnil]; rfl), fun r hr => ?_, ?_⟩
    · exact h.valid r.authored (List.mem_map_of_mem hr)
    · simpa [Function.comp_def] using h.distinct
  · intro h
    refine ⟨fun hnil => h.nonempty (List.map_eq_nil_iff.mp hnil), ?_, ?_⟩
    · simpa using h.valid
    · simpa [Function.comp_def] using h.distinct

theorem validateRuntime_eq_ok_iff {rules : List Rule} :
    validateRuntime rules = .ok () ↔ Fit rules ∧ ∀ r ∈ rules, r.checkRuntime = .ok () := by
  rw [validateRuntime, seq_eq_ok_iff, validate_eq_ok_iff, forM_eq_ok_iff]
  simp only [Rule.validateRuntime, mapError_eq_ok_iff]

end RuleSet
end AccessGate
