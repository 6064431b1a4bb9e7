import AccessGate.Proofs.Text.Trim

/-! # Enclosed blanks

A blank is enclosed in a text if characters that are not blank stand on both sides of it, however far away. Blanks
around a text enclose nothing and are not enclosed, and in a text that is bare at both ends every blank is enclosed. So
a text holds an inner blank exactly when it encloses one. -/
namespace AccessGate.Text

section Places
variable {p : Char → Bool} {before cs after : List Char}

/-- `Encloses p cs`: a character of a kind stands between two that are not of that kind. -/
def Encloses (p : Char → Bool) (cs : List Char) : Prop :=
  ∃ i j k : Fin cs.length, i < j ∧ j < k ∧ p cs[i] = false ∧ p cs[j] = true ∧ p cs[k] = false

instance : Decidable (Encloses p cs) :=
  inferInstanceAs (Decidable (∃ i j k : Fin cs.length,
    i < j ∧ j < k ∧ p cs[i] = false ∧ p cs[j] = true ∧ p cs[k] = false))

/-- The place of a character of a row once others stand around the row. -/
def placeWithin (before after : List Char) (i : Fin cs.length) : Fin (before ++ cs ++ after).length :=
  ⟨before.length + i, by simp only [List.length_append]; omega⟩

@[simp] theorem placeWithin_lt_placeWithin {i j : Fin cs.length} :
    placeWithin before after i < placeWithin before after j ↔ i < j := by
  simp only [placeWithin, Fin.lt_def, Nat.add_lt_add_iff_left]

@[simp] theorem getElem_placeWithin (i : Fin cs.length) :
    (before ++ cs ++ after)[placeWithin before after i] = cs[i] := by
  simp [placeWithin, List.getElem_append_right]

theorem exists_placeWithin {j : Fin (before ++ cs ++ after).length} (hfront : before.length ≤ j)
    (hback : j < before.length + cs.length) : ∃ i : Fin cs.length, placeWithin before after i = j := by
  refine ⟨⟨j - before.length, by omega⟩, Fin.ext ?_⟩
  simp only [placeWithin]
  omega

theorem exists_placeWithin_of_between {i k : Fin cs.length} {j : Fin (before ++ cs ++ after).length}
    (hij : placeWithin before after i < j) (hjk : j < placeWithin before after k) :
    ∃ j' : Fin cs.length, placeWithin before after j' = j := by
  simp only [placeWithin, Fin.lt_def] at hij hjk
  exact exists_placeWithin (by omega) (by omega)

theorem exists_placeWithin_or_mem (j : Fin (before ++ cs ++ after).length) :
    (∃ i : Fin cs.length, placeWithin before after i = j) ∨
      (before ++ cs ++ after)[j] ∈ before ∨ (before ++ cs ++ after)[j] ∈ after := by
  by_cases hfront : before.length ≤ j
  · by_cases hback : j < before.length + cs.length
    · exact .inl (exists_placeWithin hfront hback)
    · refine .inr (.inr ?_)
      rw [Fin.getElem_fin, List.getElem_append_right (by simpa using hback)]
      exact List.getElem_mem _
  · refine .inr (.inl ?_)
    rw [Fin.getElem_fin, List.getElem_append_left (by simp; omega), List.getElem_append_left (by omega)]
    exact List.getElem_mem _

theorem exists_placeWithin_of_not (hbefore : ∀ c ∈ before, p c = true) (hafter : ∀ c ∈ after, p c = true)
    {j : Fin (before ++ cs ++ after).length} (hj : p (before ++ cs ++ after)[j] = false) :
    ∃ i : Fin cs.length, placeWithin before after i = j := by
  rcases exists_placeWithin_or_mem j with hwithin | hmem | hmem
  · exact hwithin
  · exact absurd (hj.symm.trans (hbefore _ hmem)) Bool.false_ne_true
  · exact absurd (hj.symm.trans (hafter _ hmem)) Bool.false_ne_true

theorem encloses_padded (hbefore : ∀ c ∈ before, p c = true) (hafter : ∀ c ∈ after, p c = true) :
    Encloses p (before ++ cs ++ after) ↔ Encloses p cs := by
  constructor
  · rintro ⟨i, j, k, hij, hjk, hi, hj, hk⟩
    -- The outer two are not of the kind, so they stand in the row, and with them what stands between.
    obtain ⟨i, rfl⟩ := exists_placeWithin_of_not hbefore hafter hi
    obtain ⟨k, rfl⟩ := exists_placeWithin_of_not hbefore hafter hk
    obtain ⟨j, rfl⟩ := exists_placeWithin_of_between hij hjk
    simp only [placeWithin_lt_placeWithin, getElem_placeWithin] at hij hjk hi hj hk
    exact ⟨i, j, k, hij, hjk, hi, hj, hk⟩
  · rintro ⟨i, j, k, hij, hjk, hi, hj, hk⟩
    refine ⟨placeWithin before after i, placeWithin before after j, placeWithin before after k, ?_⟩
    simp only [placeWithin_lt_placeWithin, getElem_placeWithin]
    exact ⟨hij, hjk, hi, hj, hk⟩

theorem encloses_iff_of_bare (h : Bare p cs) : Encloses p cs ↔ ∃ c ∈ cs, p c = true := by
  constructor
  · rintro ⟨_, j, _, _, _, _, hj, _⟩
    exact ⟨cs[j], List.getElem_mem j.isLt, hj⟩
  · rintro ⟨c, hc, hkind⟩
    obtain ⟨j, hj, rfl⟩ := List.mem_iff_getElem.mp hc
    have hfirst : p cs[0] = false := h.head _ (by simp [List.head?_eq_getElem?])
    have hlast : p cs[cs.length - 1] = false := h.last _ (by simp [List.getLast?_eq_getElem?])
    have hne_first : j ≠ 0 := by
      rintro rfl
      simp [hfirst] at hkind
    have hne_last : j ≠ cs.length - 1 := by
      rintro rfl
      simp [hlast] at hkind
    refine ⟨⟨0, by omega⟩, ⟨j, hj⟩, ⟨cs.length - 1, by omega⟩, ?_, ?_, hfirst, hkind, hlast⟩
    · exact Fin.mk_lt_mk.mpr (by omega)
    · exact Fin.mk_lt_mk.mpr (by omega)

theorem exists_mem_strip_iff : (∃ c ∈ strip p cs, p c = true) ↔ Encloses p cs := by
  obtain ⟨before, after, hcs, hbefore, hafter⟩ := exists_strip p cs
  conv_rhs => rw [hcs]
  rw [encloses_padded hbefore hafter, encloses_iff_of_bare (bare_strip p cs)]

end Places

variable {s t : String}

theorem unbroken_iff_not_encloses : Unbroken s ↔ ¬Encloses isBlank s.toList := by
  rw [← exists_mem_strip_iff, Unbroken, toList_trim, trimChars_eq]
  simp

theorem hasInnerBlank_iff_encloses : hasInnerBlank s = true ↔ Encloses isBlank s.toList := by
  rw [hasInnerBlank_iff, unbroken_iff_not_encloses, not_not]

inductive Padded (s : String) : String → Prop
  | mk {before after : String} (hbefore : ∀ c ∈ before.toList, isBlank c = true)
      (hafter : ∀ c ∈ after.toList, isBlank c = true) : Padded s (before ++ s ++ after)

theorem Padded.hasInnerBlank_eq (h : Padded s t) : hasInnerBlank t = hasInnerBlank s := by
  obtain ⟨hbefore, hafter⟩ := h
  rw [Bool.eq_iff_iff, hasInnerBlank_iff_encloses, hasInnerBlank_iff_encloses, String.toList_append,
    String.toList_append, encloses_padded hbefore hafter]

/-- A text holds an inner blank exactly when it encloses one. So blanks that are added at its ends, or taken from them,
make no difference; and no blank is left in a text without an inner one once it is trimmed. -/
theorem hasInnerBlank_marks_enclosed (s : String) :
    (hasInnerBlank s = true ↔ Encloses isBlank s.toList) ∧
    (∀ t, Padded s t ∨ Padded t s → hasInnerBlank t = hasInnerBlank s) ∧
    (hasInnerBlank s = false ↔ ∀ c ∈ (trim s).toList, isBlank c = false) := by
  refine ⟨hasInnerBlank_iff_encloses, ?_, hasInnerBlank_eq_false_iff⟩
  rintro t (hadded | hremoved)
  · exact hadded.hasInnerBlank_eq
  · exact hremoved.hasInnerBlank_eq.symm

theorem hasInnerBlank_marks_enclosed_sample :
    Padded "no\u2003reply" ("\t" ++ "no\u2003reply" ++ "\u00a0") ∧
    Encloses isBlank ("\t" ++ "no\u2003reply" ++ "\u00a0").toList ∧
    hasInnerBlank ("\t" ++ "no\u2003reply" ++ "\u00a0") = hasInnerBlank "no\u2003reply" := by
  have hbefore : ∀ c ∈ "\t".toList, isBlank c = true := List.all_eq_true.mp rfl
  have hafter : ∀ c ∈ "\u00a0".toList, isBlank c = true := List.all_eq_true.mp rfl
  have hpadded : Padded "no\u2003reply" ("\t" ++ "no\u2003reply" ++ "\u00a0") := .mk hbefore hafter
  obtain ⟨_, hpadding, _⟩ := hasInnerBlank_marks_enclosed "no\u2003reply"
  obtain ⟨hencloses, _, _⟩ := hasInnerBlank_marks_enclosed ("\t" ++ "no\u2003reply" ++ "\u00a0")
  exact ⟨hpadded, hencloses.mp rfl, hpadding _ (.inl hpadded)⟩

/-- Blanks alone enclose nothing. -/
example : ¬Encloses isBlank "\t \u3000".toList := by decide

end AccessGate.Text
