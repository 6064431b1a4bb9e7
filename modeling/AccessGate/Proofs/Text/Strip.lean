import Mathlib.Data.List.DropRight

/-! # Stripped texts

The characters of one kind are taken off both ends of a text, and nothing else is. What is left is bare: it has no such
character at either end. A bare text is left as it is. -/
namespace AccessGate.Text

variable {p : Char → Bool} {cs before after : List Char}

/-- The characters left when those of a kind are gone from both ends. -/
def strip (p : Char → Bool) (cs : List Char) : List Char := (cs.dropWhile p).rdropWhile p

structure Bare (p : Char → Bool) (cs : List Char) : Prop where
  head : ∀ c ∈ cs.head?, p c = false
  last : ∀ c ∈ cs.getLast?, p c = false

theorem Bare.of_forall (h : ∀ c ∈ cs, p c = false) : Bare p cs := by
  constructor
  · intro c hc
    exact h c (List.mem_of_head? hc)
  · intro c hc
    exact h c (List.mem_of_getLast? hc)

theorem strip_eq_self (h : Bare p cs) : strip p cs = cs := by
  have hdrop : cs.dropWhile p = cs := by
    cases cs with
    | nil => rfl
    | cons c cs => simp [h.head c rfl]
  rw [strip, hdrop, List.rdropWhile_eq_self_iff]
  intro hne
  simp [h.last _ (List.getLast?_eq_some_getLast hne)]

theorem bare_strip (p : Char → Bool) (cs : List Char) : Bare p (strip p cs) := by
  constructor
  · intro c hc
    -- Taking characters off the end leaves the first one, which was reached by taking them off the start.
    obtain ⟨rest, hrest⟩ : strip p cs <+: cs.dropWhile p := List.rdropWhile_prefix p _
    have hfirst : (cs.dropWhile p).head? = some c := by
      rw [← hrest, List.head?_append, Option.mem_def.mp hc, Option.some_or]
    simpa [hfirst] using List.head?_dropWhile_not p cs
  · intro c hc
    have hne : strip p cs ≠ [] := by
      intro hnil
      simp [hnil] at hc
    have hlast : (strip p cs).getLast hne = c := by simpa [List.getLast?_eq_some_getLast hne] using hc
    have hnot : ¬p ((strip p cs).getLast hne) = true := List.rdropWhile_last_not p _ hne
    simpa [hlast] using hnot

theorem exists_strip (p : Char → Bool) (cs : List Char) : ∃ before after, cs = before ++ strip p cs ++ after ∧
    (∀ c ∈ before, p c = true) ∧ ∀ c ∈ after, p c = true := by
  refine ⟨cs.takeWhile p, (cs.dropWhile p).rtakeWhile p, ?_, ?_, ?_⟩
  · rw [strip, List.append_assoc, List.rdropWhile_append_rtakeWhile, List.takeWhile_append_dropWhile]
  · intro c hc
    exact List.mem_takeWhile_imp hc
  · intro c hc
    exact List.mem_rtakeWhile_imp hc

theorem strip_padded (hbefore : ∀ c ∈ before, p c = true) (hafter : ∀ c ∈ after, p c = true) :
    strip p (before ++ cs ++ after) = strip p cs := by
  rw [strip, List.append_assoc, List.dropWhile_append_of_pos hbefore, List.dropWhile_append]
  split
  · rename_i hempty
    rw [List.dropWhile_eq_nil_iff.mpr hafter, strip, List.isEmpty_iff.mp hempty]
  · rw [List.rdropWhile, List.reverse_append, List.dropWhile_append_of_pos (by simpa using hafter)]
    rfl

@[simp] theorem strip_strip (p : Char → Bool) (cs : List Char) : strip p (strip p cs) = strip p cs :=
  strip_eq_self (bare_strip p cs)

theorem mem_strip_iff {c : Char} (hc : p c = false) : c ∈ strip p cs ↔ c ∈ cs := by
  obtain ⟨before, after, hcs, hbefore, hafter⟩ := exists_strip p cs
  have hfront : c ∉ before := fun h => by simp [hbefore c h] at hc
  have hback : c ∉ after := fun h => by simp [hafter c h] at hc
  conv_rhs => rw [hcs]
  simp [hfront, hback]

theorem strip_eq_nil_iff : strip p cs = [] ↔ ∀ c ∈ cs, p c = true := by
  constructor
  · intro h c hc
    by_contra hnot
    have hmem := (mem_strip_iff (Bool.not_eq_true _ ▸ hnot)).mpr hc
    simp [h] at hmem
  · intro h
    have hnil : strip p (cs ++ [] ++ []) = strip p [] := strip_padded h (by simp)
    simpa [strip] using hnil

end AccessGate.Text
