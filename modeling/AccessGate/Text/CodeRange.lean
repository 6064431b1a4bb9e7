/-! # Ranges of code points

A character class is a list of ranges in rising order, both ends included. -/
namespace AccessGate.Text

/-- Whether one of the ranges holds `n`. The ranges rise, so the search ends at the first one that
starts above `n`. -/
def covers : List (Nat × Nat) → Nat → Bool
  | [], _ => false
  | (low, high) :: rest, n => if n < low then false else n ≤ high || covers rest n

theorem exists_mem_of_covers {ranges : List (Nat × Nat)} {n : Nat} (h : covers ranges n = true) :
    ∃ r ∈ ranges, r.1 ≤ n ∧ n ≤ r.2 := by
  induction ranges with
  | nil => simp [covers] at h
  | cons r rest ih =>
    obtain ⟨low, high⟩ := r
    simp only [covers] at h
    split at h
    · cases h
    · rename_i hlow
      simp only [Bool.or_eq_true, decide_eq_true_eq] at h
      cases h with
      | inl hhigh => exact ⟨(low, high), by simp, by omega, hhigh⟩
      | inr hrest =>
        obtain ⟨r, hr, hin⟩ := ih hrest
        exact ⟨r, List.mem_cons_of_mem _ hr, hin⟩

end AccessGate.Text
