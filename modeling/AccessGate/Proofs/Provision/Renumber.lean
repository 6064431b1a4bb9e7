import AccessGate.Proofs.Provision.Servable
import AccessGate.Proofs.Text.Numeral

/-! # Numbers from names

An old feed gives the numbers of its rules in their names. Renumbering takes over what the names write and nothing
else: it goes through when every name writes an integer, and stops at the first name that writes none. -/
namespace AccessGate

def Rule.NameWrites (r : Rule) : Prop := ∀ name, r.name = some name → ∃ n, Text.WritesInteger name n

/-- `r.Renumbered s`: the rule `s` is `r` with the number that its name writes; without a name it is `r`. -/
inductive Rule.Renumbered (r : Rule) : Rule → Prop
  | unnamed (h : r.name = none) : r.Renumbered r
  | named {name : String} {n : Int} (h : r.name = some name) (hn : Text.WritesInteger name n) :
      r.Renumbered { r with ruleNum := n }

section
variable {r s : Rule} {name : String} {n : Int}

theorem Rule.nameReads_iff : r.NameReads ↔ r.NameWrites := by
  simp only [NameReads, NameWrites, Text.integer?_trim_eq_some_iff]

theorem Rule.numbered_of_writes (h : r.name = some name) (hn : Text.WritesInteger name n) :
    r.numbered = { r with ruleNum := n } := by
  rw [numbered, h, Option.bind_some, Text.integer?_trim_eq_some_iff.mpr hn, Option.getD_some]

theorem Rule.renumbered_iff : r.Renumbered s ↔ r.NameReads ∧ r.numbered = s := by
  constructor
  · intro h
    cases h with
    | unnamed hname => exact ⟨by simp [NameReads, hname], Provision.numbered_of_name_none hname⟩
    | named hname hn =>
      refine ⟨nameReads_iff.mpr fun other hother => ?_, numbered_of_writes hname hn⟩
      cases hname.symm.trans hother
      exact ⟨_, hn⟩
  · intro h
    obtain ⟨hreads, hs⟩ := h
    subst hs
    cases hname : r.name with
    | none =>
      rw [Provision.numbered_of_name_none hname]
      exact .unnamed hname
    | some name =>
      obtain ⟨n, hn⟩ := nameReads_iff.mp hreads name hname
      rw [numbered_of_writes hname hn]
      exact .named hname hn

theorem Rule.Renumbered.again (h : r.Renumbered s) : s.Renumbered s := by
  cases h with
  | unnamed hname => exact .unnamed hname
  | named hname hn => exact .named hname hn

theorem Rule.Renumbered.eq_of_name (h : r.Renumbered s) (hname : r.name = some name)
    (hn : Text.WritesInteger name n) : s = { r with ruleNum := n } := by
  rw [← (renumbered_iff.mp h).2, numbered_of_writes hname hn]

end

namespace Provision
variable {rules numbered : List Rule} {r : Rule} {e : RuleError}

theorem renumberRule_eq_ok_iff_renumbered {s : Rule} : renumberRule r = .ok s ↔ r.Renumbered s := by
  rw [renumberRule_eq_ok_iff, Rule.renumbered_iff]

theorem renumber_eq_ok_iff_renumbered :
    renumber rules = .ok numbered ↔ List.Forall₂ Rule.Renumbered rules numbered := by
  rw [renumber, mapM_eq_ok_iff]
  simp only [renumberRule_eq_ok_iff_renumbered]

theorem exists_renumberRule_iff : (∃ s, renumberRule r = .ok s) ↔ r.NameWrites := by
  simp only [renumberRule_eq_ok_iff, Rule.nameReads_iff]
  simp

theorem renumberRule_eq_error_iff : renumberRule r = .error e ↔ ∃ name, r.name = some name ∧
    (∀ n, ¬Text.WritesInteger name n) ∧ e = ⟨.ruleName name, none⟩ := by
  simp only [renumberRule, ← Text.integer?_trim_eq_some_iff]
  cases r.name with
  | none => simp
  | some name => cases hread : Text.integer? (Text.trim name) <;> simp [hread, eq_comm]

theorem exists_renumber_iff : (∃ numbered, renumber rules = .ok numbered) ↔ ∀ r ∈ rules, r.NameWrites := by
  simp only [renumber_eq_ok_iff, ← Rule.nameReads_iff]
  simp

theorem renumber_again (h : renumber rules = .ok numbered) : renumber numbered = .ok numbered := by
  rw [renumber_eq_ok_iff_renumbered] at h ⊢
  induction h with
  | nil => exact .nil
  | cons hr _ ih => exact .cons hr.again ih

theorem renumber_eq_error_iff : renumber rules = .error e ↔ ∃ front r name back, rules = front ++ r :: back ∧
    (∀ s ∈ front, s.NameWrites) ∧ r.name = some name ∧ (∀ n, ¬Text.WritesInteger name n) ∧
      e = ⟨.ruleName name, none⟩ := by
  rw [renumber, mapM_eq_error_iff]
  simp only [exists_renumberRule_iff, renumberRule_eq_error_iff]
  constructor
  · intro h
    obtain ⟨front, r, back, hrules, hfront, name, hr⟩ := h
    exact ⟨front, r, name, back, hrules, hfront, hr⟩
  · intro h
    obtain ⟨front, r, name, back, hrules, hfront, hr⟩ := h
    exact ⟨front, r, back, hrules, hfront, name, hr⟩

/-- Renumbering goes through exactly when all names write integers. It keeps the rules in their order, and changes of
each rule with a name the number alone, to what the name writes; so a second time it changes nothing. An integer of
at most 4300 digits is written by its decimal digits, with blanks around them or without. Otherwise renumbering fails
over the first name that writes no integer. -/
theorem renumber_follows_names (rules : List Rule) :
    ((∃ numbered, renumber rules = .ok numbered) ↔ ∀ r ∈ rules, r.NameWrites) ∧
    (∀ numbered, renumber rules = .ok numbered ↔ List.Forall₂ Rule.Renumbered rules numbered) ∧
    (∀ numbered, renumber rules = .ok numbered → renumber numbered = .ok numbered) ∧
    (∀ (r s : Rule) (n : Int) (before after : String), (Nat.toDigits 10 n.natAbs).length ≤ 4300 →
      (∀ c ∈ before.toList, Text.isBlank c = true) → (∀ c ∈ after.toList, Text.isBlank c = true) →
      r.name = some (before ++ Text.decimal n ++ after) → (r.Renumbered s ↔ s = { r with ruleNum := n })) ∧
    ∀ e, renumber rules = .error e ↔ ∃ front r name back, rules = front ++ r :: back ∧
      (∀ s ∈ front, s.NameWrites) ∧ r.name = some name ∧ (∀ n, ¬Text.WritesInteger name n) ∧
        e.errorClass = .legacyParse ∧ e.ruleNum = none ∧ e.fault = .ruleName name ∧
        e.message = s!"Rule name {Text.quoted name} is not a rule number" := by
  refine ⟨exists_renumber_iff, fun numbered => renumber_eq_ok_iff_renumbered, fun numbered => renumber_again, ?_,
    fun e => ?_⟩
  · intro r s n before after hfew hbefore hafter hname
    have hn : Text.WritesInteger (before ++ Text.decimal n ++ after) n :=
      Text.writesInteger_decimal hfew hbefore hafter
    constructor
    · exact fun h => h.eq_of_name hname hn
    · intro hs
      rw [hs]
      exact .named hname hn
  · obtain ⟨fault, ruleNum⟩ := e
    rw [renumber_eq_error_iff]
    constructor
    · intro h
      obtain ⟨front, r, name, back, hrules, hfront, hname, hnone, he⟩ := h
      cases he
      exact ⟨front, r, name, back, hrules, hfront, hname, hnone, rfl, rfl, rfl, rfl⟩
    · intro h
      obtain ⟨front, r, name, back, hrules, hfront, hname, hnone, _, hnum, hfault, _⟩ := h
      exact ⟨front, r, name, back, hrules, hfront, hname, hnone, congrArg₂ RuleError.mk hfault hnum⟩

section Sample

def namedSample : List Rule :=
  [{ name := some " -7\t" }, { ruleNum := 5 }, { name := some "+1_\u0662" }]

def decimalSample : Rule := { name := some (" " ++ Text.decimal (-7) ++ "\t") }

theorem renumber_follows_names_sample :
    (∀ r ∈ namedSample, r.NameWrites) ∧ (∃ numbered, renumber namedSample = .ok numbered ∧
      numbered.map Rule.ruleNum = [-7, 5, 12] ∧ renumber numbered = .ok numbered) ∧
    decimalSample.Renumbered { decimalSample with ruleNum := -7 } ∧
    ∃ front r name back, namedSample ++ [{ name := some "seven" }] = front ++ r :: back ∧
      (∀ s ∈ front, s.NameWrites) ∧ r.name = some name ∧ ∀ n, ¬Text.WritesInteger name n := by
  obtain ⟨hreads, _, hagain, hdecimal, _⟩ := renumber_follows_names namedSample
  obtain ⟨_, _, _, _, hrefused⟩ := renumber_follows_names (namedSample ++ [{ name := some "seven" }])
  have hseven := hdecimal decimalSample { decimalSample with ruleNum := -7 } (-7) " " "\t" (by decide)
    (List.all_eq_true.mp rfl) (List.all_eq_true.mp rfl) rfl
  obtain ⟨front, r, name, back, hrules, hfront, hname, hnone, _⟩ := (hrefused _).mp rfl
  refine ⟨hreads.mp ⟨_, rfl⟩, ⟨_, rfl, rfl, hagain _ rfl⟩, hseven.mpr rfl, ?_⟩
  exact ⟨front, r, name, back, hrules, hfront, hname, hnone⟩

end Sample

end Provision
end AccessGate
