import AccessGate.Text.Integer

/-! # Decimal digits of numbers

The digits that are written of a number are plain digits, count up to the number again, and have no zero at their
head unless the number is zero. -/
namespace AccessGate.Text

variable {n : Nat} {c : Char}

theorem forall_code_lt {P : Char → Prop} (hP : ∀ m < n, P (Char.ofNat m)) (h : c.toNat < n) : P c := by
  rw [← Char.ofNat_toNat c]
  exact hP c.toNat h

theorem isAsciiDigit_eq_isDigit (c : Char) : isAsciiDigit c = c.isDigit := by
  simp only [isAsciiDigit, Char.isDigit, ge_iff_le, UInt32.le_iff_toNat_le]
  rfl

theorem isAsciiDigit_of_mem_toDigits (h : c ∈ Nat.toDigits 10 n) : isAsciiDigit c = true := by
  rw [isAsciiDigit_eq_isDigit]
  exact Nat.isDigit_of_mem_toDigits (by omega) (by omega) h

theorem digitsValue_map (cs : List Char) :
    digitsValue (cs.map fun c => c.toNat - 0x30) = Nat.ofDigitChars 10 cs 0 := by
  rw [digitsValue, List.foldl_map, Nat.ofDigitChars_eq_foldl]
  rfl

theorem digitsValue_toDigits (n : Nat) :
    digitsValue ((Nat.toDigits 10 n).map fun c => c.toNat - 0x30) = n := by
  rw [digitsValue_map]
  exact Nat.ofDigitChars_toDigits (by omega) (by omega)

theorem digitChar_ne_zero (hsmall : n < 10) (h : n ≠ 0) : n.digitChar ≠ '0' := by
  decide +revert

theorem head?_toDigits_ne_zero (h : n ≠ 0) : (Nat.toDigits 10 n).head? ≠ some '0' := by
  induction n using Nat.strongRecOn with
  | ind n ih =>
    by_cases hsmall : n < 10
    · rw [Nat.toDigits_of_lt_base hsmall]
      simpa using digitChar_ne_zero hsmall h
    · have hhead := ih (n / 10) (by omega) (by omega)
      obtain ⟨c, cs, hcs⟩ := List.exists_cons_of_ne_nil (Nat.toDigits_ne_nil (b := 10) (n := n / 10))
      rw [Nat.toDigits_of_base_le (by omega) (by omega), hcs]
      simpa [hcs] using hhead

/-- An integer whose digits are within the limit of what can be read. -/
def IsReadable (n : Int) : Prop := (Nat.toDigits 10 n.natAbs).length ≤ digitLimit

instance : DecidablePred IsReadable := fun _ => inferInstanceAs (Decidable (_ ≤ _))

theorem decimalChars_of_nonneg {n : Int} (h : 0 ≤ n) : decimalChars n = Nat.toDigits 10 n.natAbs := by
  obtain ⟨m, rfl⟩ := Int.eq_ofNat_of_zero_le h
  rfl

theorem decimalChars_of_neg {n : Int} (h : n < 0) : decimalChars n = '-' :: Nat.toDigits 10 n.natAbs := by
  obtain ⟨m, rfl⟩ := Int.eq_negSucc_of_lt_zero h
  rfl

theorem digitValue?_of_isAsciiDigit (h : isAsciiDigit c = true) : digitValue? c = some (c.toNat - 0x30) := by
  simp only [isAsciiDigit, Bool.and_eq_true, decide_eq_true_eq] at h
  have hfirst : c.toNat < 0x30 + 10 := by omega
  simp [digitValue?, digitZeros, hfirst, h.1]

theorem isBlank_of_isAsciiDigit (h : isAsciiDigit c = true) : isBlank c = false := by
  have hlt : c.toNat < 0x3A := by
    simp only [isAsciiDigit, Bool.and_eq_true, decide_eq_true_eq] at h
    omega
  exact forall_code_lt (P := fun c => isAsciiDigit c = true → isBlank c = false) (by decide) hlt h

theorem isBlank_of_mem_decimalChars {n : Int} (h : c ∈ decimalChars n) : isBlank c = false := by
  have hdigit (hc : c ∈ Nat.toDigits 10 n.natAbs) : isBlank c = false :=
    isBlank_of_isAsciiDigit (isAsciiDigit_of_mem_toDigits hc)
  by_cases hneg : n < 0
  · rw [decimalChars_of_neg hneg] at h
    rcases List.mem_cons.mp h with rfl | h
    · rfl
    · exact hdigit h
  · rw [decimalChars_of_nonneg (by omega)] at h
    exact hdigit h

end AccessGate.Text
