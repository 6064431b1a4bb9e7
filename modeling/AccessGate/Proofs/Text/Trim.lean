import AccessGate.Proofs.Text.Strip
import AccessGate.Text.Blank

/-! # Trimmed texts

Trimming takes the blanks off both ends of a text and nothing else, so a second trimming finds none, and a text
without blanks is left as it is. A text is unbroken if trimming takes all its blanks. -/
namespace AccessGate.Text

variable {cs : List Char} {s : String}

theorem trimChars_eq (cs : List Char) : trimChars cs = strip isBlank cs := rfl

theorem trimChars_of_forall_not_blank (h : ∀ c ∈ cs, isBlank c = false) : trimChars cs = cs := by
  rw [trimChars_eq, strip_eq_self (.of_forall h)]

theorem trim_of_forall_not_blank (h : ∀ c ∈ s.toList, isBlank c = false) : trim s = s := by
  rw [trim, trimChars_of_forall_not_blank h, String.ofList_toList]

theorem forall_not_blank_of_all (h : (s.toList.all fun c => !isBlank c) = true) :
    ∀ c ∈ s.toList, isBlank c = false := by
  simpa using h

theorem trimChars_padded {before after : List Char} (hbefore : ∀ c ∈ before, isBlank c = true)
    (hafter : ∀ c ∈ after, isBlank c = true) : trimChars (before ++ cs ++ after) = trimChars cs := by
  rw [trimChars_eq, strip_padded hbefore hafter, trimChars_eq]

theorem trim_padded {before after : String} (hbefore : ∀ c ∈ before.toList, isBlank c = true)
    (hafter : ∀ c ∈ after.toList, isBlank c = true) : trim (before ++ s ++ after) = trim s := by
  simp only [trim, String.toList_append, trimChars_padded hbefore hafter]

theorem exists_padding (cs : List Char) : ∃ before after, cs = before ++ trimChars cs ++ after ∧
    (∀ c ∈ before, isBlank c = true) ∧ ∀ c ∈ after, isBlank c = true :=
  exists_strip isBlank cs

theorem trimChars_eq_self (hhead : ∀ c ∈ cs.head?, isBlank c = false)
    (hlast : ∀ c ∈ cs.getLast?, isBlank c = false) : trimChars cs = cs := by
  rw [trimChars_eq, strip_eq_self ⟨hhead, hlast⟩]

theorem mem_trimChars_iff {c : Char} (hc : isBlank c = false) : c ∈ trimChars cs ↔ c ∈ cs := by
  rw [trimChars_eq, mem_strip_iff hc]

@[simp] theorem trimChars_trimChars (cs : List Char) : trimChars (trimChars cs) = trimChars cs := by
  simp only [trimChars_eq, strip_strip]

@[simp] theorem trim_trim (s : String) : trim (trim s) = trim s := by
  rw [trim, toList_trim, trimChars_trimChars, trim]

theorem trim_eq_empty_iff : trim s = "" ↔ trimChars s.toList = [] := by
  rw [trim, String.ofList_eq_empty_iff]

/-- No blank is left in a text once it is trimmed. -/
def Unbroken (s : String) : Prop := ∀ c ∈ (trim s).toList, isBlank c = false

theorem hasInnerBlank_eq_false_iff : hasInnerBlank s = false ↔ Unbroken s := by
  simp [hasInnerBlank, Unbroken]

theorem hasInnerBlank_iff : hasInnerBlank s = true ↔ ¬Unbroken s := by
  rw [← hasInnerBlank_eq_false_iff, Bool.not_eq_false]

@[simp] theorem unbroken_trim : Unbroken (trim s) ↔ Unbroken s := by
  rw [Unbroken, trim_trim, Unbroken]

end AccessGate.Text
