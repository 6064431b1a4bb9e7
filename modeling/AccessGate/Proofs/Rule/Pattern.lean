import AccessGate.Proofs.Checks
import AccessGate.Proofs.Text.Trim

/-! # What a rule says of its pattern

The scheme of a pattern is the one it starts with, and there is no more than one since no scheme starts
another. The type of a rule is known, or written as its name with blanks around it. -/
namespace AccessGate

namespace Scheme
variable {s t : Scheme} {cs : List Char}

theorem eq_of_isPrefix_text (h : s.text.toList <+: t.text.toList) : s = t := by
  revert h
  cases s <;> cases t <;> decide

theorem eq_of_isPrefix (hs : s.text.toList <+: cs) (ht : t.text.toList <+: cs) : s = t := by
  rcases List.prefix_or_prefix_of_prefix hs ht with h | h
  · exact eq_of_isPrefix_text h
  · exact (eq_of_isPrefix_text h).symm

theorem ofChars?_eq_some_iff : ofChars? cs = some s ↔ s.text.toList <+: cs := by
  constructor
  · intro h
    unfold ofChars? at h
    repeat' split at h
    all_goals cases h
    all_goals exact List.isPrefixOf_iff_prefix.mp ‹_›
  · intro h
    have hother : ∀ t, t.text.toList.isPrefixOf cs = true → t = s := fun t ht =>
      eq_of_isPrefix (List.isPrefixOf_iff_prefix.mp ht) h
    unfold ofChars?
    split
    · rw [hother .http ‹_›]
    · split
      · rw [hother .https ‹_›]
      · split
        · rw [hother .socket ‹_›]
        · cases s <;> exact absurd (List.isPrefixOf_iff_prefix.mpr h) ‹_›

end Scheme

theorem PatternType.ofName?_eq_some_iff {name : String} {t : PatternType} :
    ofName? name = some t ↔ name = t.name := by
  constructor
  · intro h
    simpa [eq_comm] using List.find?_some h
  · rintro rfl
    cases t <;> rfl

/-- `field.Names t`: the field is the type `t`, or a text that is the name of `t` once it is trimmed. -/
inductive PatternTypeField.Names : PatternTypeField → PatternType → Prop
  | known (t : PatternType) : Names (.known t) t
  | written {s : String} {t : PatternType} (h : Text.trim s = t.name) : Names (.written s) t

theorem PatternTypeField.read_eq_ok_iff {field : PatternTypeField} {t : PatternType} :
    field.read = .ok t ↔ field.Names t := by
  cases field with
  | known t' =>
    constructor
    · intro h
      cases h
      exact .known _
    · intro h
      cases h
      rfl
  | written s =>
    have hread : (PatternTypeField.written s).read = .ok t ↔ PatternType.ofName? (Text.trim s) = some t := by
      cases hname : PatternType.ofName? (Text.trim s) <;> simp [read, hname]
    rw [hread, PatternType.ofName?_eq_some_iff]
    constructor
    · exact .written
    · rintro ⟨⟩
      assumption

theorem PatternTypeField.read_eq_error_iff {field : PatternTypeField} {f : RuleFault} :
    field.read = .error f ↔
      ∃ s, field = .written s ∧ (∀ t, ¬field.Names t) ∧ f = .unsupportedPatternType s := by
  simp only [← read_eq_ok_iff]
  cases field with
  | known t => simp [read]
  | written s => cases hname : PatternType.ofName? (Text.trim s) <;> simp [read, hname, eq_comm]

namespace Rule
variable {r : Rule} {scheme : Scheme} {t : PatternType}

def Opens (r : Rule) (scheme : Scheme) : Prop :=
  ∃ pattern, r.pattern = some pattern ∧ scheme.text.toList <+: (Text.trim pattern).toList

def HasType (r : Rule) (t : PatternType) : Prop := ∃ field, r.patternType = some field ∧ field.Names t

theorem hasType_iff {field : PatternTypeField} (h : r.patternType = some field) :
    r.HasType t ↔ field.Names t := by
  simp [HasType, h]

theorem scheme?_eq_some_iff : r.scheme? = some scheme ↔ r.Opens scheme := by
  simp only [scheme?, schemeOf?, Option.bind_eq_some_iff, Scheme.ofChars?_eq_some_iff, Opens, Text.toList_trim]

theorem Opens.unique {scheme' : Scheme} (h : r.Opens scheme) (h' : r.Opens scheme') : scheme = scheme' :=
  Option.some.inj ((scheme?_eq_some_iff.mpr h).symm.trans (scheme?_eq_some_iff.mpr h'))

theorem readPatternType_eq_ok_iff {pattern : String} :
    readPatternType pattern r.patternType = .ok t ↔ r.HasType t := by
  simp only [HasType, ← PatternTypeField.read_eq_ok_iff]
  cases r.patternType <;> simp [readPatternType]

theorem HasType.unique {t' : PatternType} (h : r.HasType t) (h' : r.HasType t') : t = t' := by
  have hread : readPatternType "" r.patternType = .ok t := readPatternType_eq_ok_iff.mpr h
  exact Except.ok.inj (hread.symm.trans (readPatternType_eq_ok_iff.mpr h'))

theorem checkPatternType_hostPort {pattern : String} (h : scheme ≠ .socket) :
    checkPatternType pattern .hostPort scheme = checkHostPort scheme pattern := by
  cases scheme with
  | http => rw [checkPatternType]; simp
  | https => rw [checkPatternType]; simp
  | socket => exact absurd rfl h

end Rule
end AccessGate
