import AccessGate.Credential
import AccessGate.Proofs.Checks
import AccessGate.Proofs.Text.Trim

/-! # Rules in other words

Blanks around a pattern do not count, and neither does the way in which a pattern type is given. Whatever a rule is
asked for, its pattern is trimmed and its type is read first, so rules that differ in these two alone give the same
answers; only the message on a number that is not positive shows a pattern as it stands. -/
namespace AccessGate

/-- The class of an error and the number of the rule it arose at, without its wording. -/
def RuleError.verdict (e : RuleError) : ErrorClass × Option Int := (e.errorClass, e.ruleNum)

namespace Rule

section Reading
variable {pattern : String} {field : Option String}

@[simp] theorem schemeOf?_trim : schemeOf? (Text.trim pattern) = schemeOf? pattern := by
  simp [schemeOf?]

theorem scheme?_eq_of_trimmed (r : Rule) : r.scheme? = (r.pattern.map Text.trim).bind schemeOf? := by
  cases hpattern : r.pattern <;> simp [scheme?, hpattern]

theorem readPattern_map_trim : readPattern (field.map Text.trim) = readPattern field := by
  cases field with
  | none => rfl
  | some pattern => simp [readPattern]

theorem readPatternType_eq_of_read (pattern : String) (type : Option PatternTypeField) :
    readPatternType pattern type = (type.map PatternTypeField.read).getD (.error (.patternTypeMissing pattern)) := by
  cases type <;> rfl

theorem httpsParts_eq_of_trimmed (r : Rule) : r.httpsParts = match r.pattern.map Text.trim, r.scheme? with
    | some pattern, some .https => urlParts .https pattern
    | _, _ => .error .notHttps := by
  unfold httpsParts
  cases r.pattern with
  | none => rfl
  | some pattern =>
    rw [Option.map_some]
    cases r.scheme? with
    | none => rfl
    | some scheme => cases scheme <;> rfl

theorem trim_getD : Text.trim (field.getD "") = (field.map Text.trim).getD "" := by
  cases field <;> rfl

end Reading

/-- Rules that say the same in other words: once patterns are trimmed and types are read, there is no difference. -/
structure Reworded (r r' : Rule) : Prop where
  rest : { r with pattern := none, patternType := none } = { r' with pattern := none, patternType := none }
  pattern : r.pattern.map Text.trim = r'.pattern.map Text.trim
  type : r.patternType.map PatternTypeField.read = r'.patternType.map PatternTypeField.read

theorem check_of_not_pos {r : Rule} (h : ¬0 < r.ruleNum) : r.check = .error (.ruleNumNotPositive r.pattern) := by
  simp [check, Int.not_lt.mp h, throw, throwThe, MonadExceptOf.throw, bind, Except.bind]

theorem checkRuntime_of_check_error {r : Rule} {f : RuleFault} (h : r.check = .error f) :
    r.checkRuntime = .error f := by
  simp [checkRuntime, h, bind, Except.bind]

namespace Reworded
variable {r r' : Rule} {loopback : String}

theorem congr {α : Type} (h : r.Reworded r') (f : Rule → α)
    (hf : ∀ s : Rule, f { s with pattern := none, patternType := none } = f s) : f r = f r' := by
  rw [← hf r, h.rest, hf]

theorem ruleNum_eq (h : r.Reworded r') : r.ruleNum = r'.ruleNum := h.congr Rule.ruleNum fun _ => rfl

theorem httpProxyPort_eq (h : r.Reworded r') : r.httpProxyPort = r'.httpProxyPort :=
  h.congr Rule.httpProxyPort fun _ => rfl

theorem errorAt_eq (h : r.Reworded r') (f : RuleFault) : r.errorAt f = r'.errorAt f :=
  h.congr (Rule.errorAt · f) fun _ => rfl

theorem scheme?_eq (h : r.Reworded r') : r.scheme? = r'.scheme? := by
  rw [scheme?_eq_of_trimmed, h.pattern, ← scheme?_eq_of_trimmed]

section Checks

theorem readPattern_eq (h : r.Reworded r') : readPattern r.pattern = readPattern r'.pattern := by
  rw [← readPattern_map_trim, h.pattern, readPattern_map_trim]

theorem readPatternType_eq (h : r.Reworded r') (pattern : String) :
    readPatternType pattern r.patternType = readPatternType pattern r'.patternType := by
  rw [readPatternType_eq_of_read, h.type, ← readPatternType_eq_of_read]

theorem check_eq_of_pos (h : r.Reworded r') (hpos : 0 < r.ruleNum) : r.check = r'.check := by
  have hpos' : 0 < r'.ruleNum := h.ruleNum_eq ▸ hpos
  have hclient : r.clientId = r'.clientId := h.congr Rule.clientId fun _ => rfl
  have hentities : r.allowedEntities = r'.allowedEntities := h.congr Rule.allowedEntities fun _ => rfl
  have happs : r.apps = r'.apps := h.congr Rule.apps fun _ => rfl
  unfold check
  rw [if_neg (Int.not_le.mpr hpos), if_neg (Int.not_le.mpr hpos'), hclient, hentities, happs, h.readPattern_eq]
  simp only [h.readPatternType_eq]

theorem check_eq_of_pattern (h : r.Reworded r') (hpattern : r.pattern = r'.pattern) : r.check = r'.check := by
  by_cases hpos : 0 < r.ruleNum
  · exact h.check_eq_of_pos hpos
  · rw [check_of_not_pos hpos, check_of_not_pos (h.ruleNum_eq ▸ hpos), hpattern]

/-- The type of a valid rule is read whatever its pattern is, so the missing type is not reported here. -/
theorem checkHttpProxyPort_eq (h : r.Reworded r') (hvalid : r.check = .ok ()) :
    r.checkHttpProxyPort = r'.checkHttpProxyPort := by
  obtain ⟨_, _, _, _, _, _, t, htype, _⟩ := check_eq_ok_iff.mp hvalid
  have hread := readPatternType_congr htype (r.pattern.getD "")
  have hread' := readPatternType_congr htype (r'.pattern.getD "")
  rw [h.readPatternType_eq] at hread'
  simp only [checkHttpProxyPort, h.httpProxyPort_eq, hread, hread']

theorem checkRuntime_eq (h : r.Reworded r') (hcheck : r.check = r'.check) : r.checkRuntime = r'.checkRuntime := by
  cases hvalid : r.check with
  | error f => rw [checkRuntime_of_check_error hvalid, checkRuntime_of_check_error (hcheck ▸ hvalid)]
  | ok _ =>
    have hsocks : r.socksServerPort = r'.socksServerPort := h.congr Rule.socksServerPort fun _ => rfl
    have hkey : r.secretKey = r'.secretKey := h.congr Rule.secretKey fun _ => rfl
    unfold checkRuntime
    rw [hcheck, h.checkHttpProxyPort_eq hvalid, hsocks, hkey]

theorem validate_eq (h : r.Reworded r') (hcheck : r.check = r'.check) : r.validate = r'.validate := by
  rw [validate, validate, hcheck, funext h.errorAt_eq]

theorem validateRuntime_eq (h : r.Reworded r') (hcheck : r.check = r'.check) :
    r.validateRuntime = r'.validateRuntime := by
  rw [validateRuntime, validateRuntime, h.checkRuntime_eq hcheck, funext h.errorAt_eq]

/-- The checks come to the same verdict on both rules, though a number that is not positive is reported with the
pattern as it stands. -/
theorem verdicts_eq (h : r.Reworded r') :
    r.validate.mapError RuleError.verdict = r'.validate.mapError RuleError.verdict ∧
    r.validateRuntime.mapError RuleError.verdict = r'.validateRuntime.mapError RuleError.verdict := by
  by_cases hpos : 0 < r.ruleNum
  · have hcheck := h.check_eq_of_pos hpos
    rw [h.validate_eq hcheck, h.validateRuntime_eq hcheck]
    exact ⟨rfl, rfl⟩
  · have hcheck := check_of_not_pos hpos
    have hcheck' := check_of_not_pos (h.ruleNum_eq ▸ hpos)
    rw [validate, validate, validateRuntime, validateRuntime, checkRuntime_of_check_error hcheck,
      checkRuntime_of_check_error hcheck', hcheck, hcheck']
    simp [Except.mapError, RuleError.verdict, errorAt, RuleError.errorClass, Fault.errorClass, h.ruleNum_eq]

end Checks

section Targets

theorem httpsParts_eq (h : r.Reworded r') : r.httpsParts = r'.httpsParts := by
  rw [httpsParts_eq_of_trimmed, h.pattern, h.scheme?_eq, ← httpsParts_eq_of_trimmed]

theorem httpsHost_eq (h : r.Reworded r') : r.httpsHost = r'.httpsHost := by
  rw [httpsHost, httpsHost, h.httpsParts_eq]

theorem httpsPort_eq (h : r.Reworded r') : r.httpsPort = r'.httpsPort := by
  rw [httpsPort, httpsPort, h.httpsParts_eq]

theorem target_eq (h : r.Reworded r') : r.target loopback = r'.target loopback := by
  have htrim : Text.trim (r.pattern.getD "") = Text.trim (r'.pattern.getD "") := by
    rw [trim_getD, h.pattern, ← trim_getD]
  simp only [target, h.scheme?_eq, h.httpProxyPort_eq, h.httpsHost_eq, h.httpsPort_eq, h.errorAt_eq, htrim]

theorem projectFrom_eq {rules rules' : List Rule} (h : List.Forall₂ Reworded rules rules') (used : List String) :
    projectFrom loopback used rules = projectFrom loopback used rules' := by
  induction h generalizing used with
  | nil => rfl
  | @cons r r' _ _ hr _ ih =>
    have hkey : r.secretKey = r'.secretKey := hr.congr Rule.secretKey fun _ => rfl
    simp only [projectFrom, hkey, hr.errorAt_eq, hr.ruleNum_eq, hr.target_eq, ih]

end Targets
end Reworded
end Rule
end AccessGate
