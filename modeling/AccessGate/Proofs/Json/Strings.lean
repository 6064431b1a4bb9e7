import AccessGate.Json.Parser
import AccessGate.Json.Printer

/-! # Strings read back

A string is written in printable characters only, and reads back from what is written: each character gives one
code unit or a pair of them, and the pair gives the character again. -/
namespace AccessGate

namespace Text

theorem hexValue?_hexDigit {n : Nat} (h : n < 16) : hexValue? (hexDigit n) = some n := by
  decide +revert

theorem hexNumber?_fixedHex (width n : Nat) : hexNumber? (fixedHex width n) = some (n % Nat.pow 16 width) := by
  induction width generalizing n with
  | zero =>
    change some 0 = some (n % 1)
    rw [Nat.mod_one]
  | succ width ih =>
    have hdigit := hexValue?_hexDigit (Nat.mod_lt n (show 0 < 16 by omega))
    have hhigh := ih (n / 16)
    rw [hexNumber?] at hhigh ⊢
    rw [fixedHex, List.foldlM_append, hhigh]
    simp only [Option.bind_eq_bind, Option.bind_some, List.foldlM_cons, List.foldlM_nil, hdigit, Option.map_some]
    change _ = some (n % (Nat.pow 16 width * 16))
    rw [Nat.mul_comm (Nat.pow 16 width), Nat.mod_mul, Nat.add_comm]
    rfl

/-- Whether a character stands on one line of plain text. -/
def IsPlain (c : Char) : Prop := 0x20 ≤ c.toNat ∧ c.toNat ≤ 0x7E

instance : DecidablePred IsPlain := fun _ => inferInstanceAs (Decidable (_ ∧ _))

theorem isPlain_of_all {cs : List Char} (h : cs.all (decide <| IsPlain ·) = true) : ∀ c ∈ cs, IsPlain c := by
  simpa using h

theorem isPlain_hexDigit {n : Nat} (h : n < 16) : IsPlain (hexDigit n) := by
  decide +revert

theorem exists_hexDigit_of_mem_fixedHex {width n : Nat} {c : Char} (hc : c ∈ fixedHex width n) :
    ∃ d < 16, hexDigit d = c := by
  induction width generalizing n with
  | zero => cases hc
  | succ width ih =>
    rcases List.mem_append.mp hc with hc | hc
    · exact ih hc
    · exact ⟨n % 16, Nat.mod_lt n (by omega), (List.mem_singleton.mp hc).symm⟩

theorem isPlain_fixedHex (width n : Nat) : ∀ c ∈ fixedHex width n, IsPlain c := by
  intro c hc
  obtain ⟨d, hd, rfl⟩ := exists_hexDigit_of_mem_fixedHex hc
  exact isPlain_hexDigit hd

end Text

namespace Json

/-- The code units that write a character: one, or a pair above U+FFFF. -/
def unitsOf (c : Char) : List Nat :=
  if c.toNat < 0x10000 then [c.toNat]
  else [0xD800 + (c.toNat - 0x10000) / 0x400, 0xDC00 + (c.toNat - 0x10000) % 0x400]

variable {c : Char} {n : Nat} {text rest : List Char}

theorem stringUnits_unitEscape (h : n < 0x10000) (hrest : rest ≠ []) :
    stringUnits text (unitEscape n ++ rest) =
      (stringUnits text rest).map fun (units, after) => (n :: units, after) := by
  obtain ⟨a, b, c, d, hdigits⟩ : ∃ a b c d, Text.fixedHex 4 n = [a, b, c, d] := ⟨_, _, _, _, rfl⟩
  have hnumber : Text.hexNumber? [a, b, c, d] = some n := by
    rw [← hdigits, Text.hexNumber?_fixedHex]
    exact congrArg some (Nat.mod_eq_of_lt h)
  have hmore : ¬rest.isEmpty = true := by simpa using hrest
  simp only [unitEscape, hdigits, List.cons_append, List.nil_append]
  rw [stringUnits, hnumber]
  simp only [if_neg hmore]

theorem stringUnits_plain (hquote : c ≠ '"') (hescape : c ≠ '\\') (hplain : 0x20 ≤ c.toNat) :
    stringUnits text (c :: rest) =
      (stringUnits text rest).map fun (units, after) => (c.toNat :: units, after) := by
  rw [stringUnits]
  · rw [if_neg (by omega)]
  all_goals simp_all

theorem stringUnits_stringChar (c : Char) (text : List Char) (hrest : rest ≠ []) :
    stringUnits text (stringChar c ++ rest) =
      (stringUnits text rest).map fun (units, after) => (unitsOf c ++ units, after) := by
  -- The characters with an escape of one letter come first, then the plain ones and the numeric escapes.
  unfold stringChar
  iterate 7
    split
    · subst_vars
      simp [stringUnits, escaped?, unitsOf]
  split
  · rename_i hplain
    simp only [Bool.and_eq_true, decide_eq_true_eq] at hplain
    have hone : unitsOf c = [c.toNat] := if_pos (by omega)
    rw [List.singleton_append, stringUnits_plain (by assumption) (by assumption) hplain.1, hone]
    rfl
  · split
    · rename_i hone
      rw [stringUnits_unitEscape hone hrest, unitsOf, if_pos hone]
      rfl
    · rename_i htwo
      have hvalid : c.toNat < 0xD800 ∨ 0xDFFF < c.toNat ∧ c.toNat < 0x110000 := c.valid
      have hescape : unitEscape (0xDC00 + (c.toNat - 0x10000) % 0x400) ++ rest ≠ [] := by simp [unitEscape]
      simp only [List.append_assoc]
      rw [stringUnits_unitEscape (by omega) hescape, stringUnits_unitEscape (by omega) hrest, unitsOf,
        if_neg htwo]
      cases stringUnits text rest <;> rfl

theorem isPlain_stringChar (c : Char) : ∀ d ∈ stringChar c, Text.IsPlain d := by
  have hescape : ∀ n, ∀ d ∈ unitEscape n, Text.IsPlain d := by
    intro n d hd
    simp only [unitEscape, List.mem_cons] at hd
    rcases hd with rfl | rfl | hd
    · decide
    · decide
    · exact Text.isPlain_fixedHex 4 n d hd
  unfold stringChar
  iterate 7
    split
    · exact Text.isPlain_of_all (by decide)
  split
  · rename_i hplain
    simpa [Text.IsPlain] using hplain
  · split
    · exact hescape _
    · intro d hd
      rcases List.mem_append.mp hd with hd | hd
      · exact hescape _ d hd
      · exact hescape _ d hd

theorem ofUnits_single (units : List Nat) (hhigh : isHighUnit n = false) (hlow : isLowUnit n = false) :
    ofUnits (n :: units) = Char.ofNat n :: ofUnits units := by
  cases units with
  | nil => simp [ofUnits, hhigh, hlow]
  | cons m units => simp [ofUnits, hhigh, hlow]

theorem ofUnits_unitsOf (c : Char) (units : List Nat) : ofUnits (unitsOf c ++ units) = c :: ofUnits units := by
  have hvalid : c.toNat < 0xD800 ∨ 0xDFFF < c.toNat ∧ c.toNat < 0x110000 := c.valid
  by_cases hone : c.toNat < 0x10000
  · have hhigh : isHighUnit c.toNat = false := by
      simp only [isHighUnit, Bool.and_eq_false_iff, decide_eq_false_iff_not]
      omega
    have hlow : isLowUnit c.toNat = false := by
      simp only [isLowUnit, Bool.and_eq_false_iff, decide_eq_false_iff_not]
      omega
    rw [unitsOf, if_pos hone, List.singleton_append, ofUnits_single units hhigh hlow, Char.ofNat_toNat]
  · -- Both units of the pair lie in their ranges, and together they count from U+10000.
    have hpair : (isHighUnit (0xD800 + (c.toNat - 0x10000) / 0x400) &&
        isLowUnit (0xDC00 + (c.toNat - 0x10000) % 0x400)) = true := by
      simp only [isHighUnit, isLowUnit, Bool.and_eq_true, decide_eq_true_eq]
      omega
    have hvalue : 0x10000 + 0x400 * (0xD800 + (c.toNat - 0x10000) / 0x400 - 0xD800) +
        (0xDC00 + (c.toNat - 0x10000) % 0x400 - 0xDC00) = c.toNat := by omega
    rw [unitsOf, if_neg hone]
    simp only [List.cons_append, List.nil_append]
    rw [ofUnits, if_pos hpair, hvalue, Char.ofNat_toNat]

theorem string_stringChars (s : String) (rest : List Char) :
    string (s.toList.flatMap stringChar ++ '"' :: rest) = .ok (s, rest) := by
  have hunits : ∀ (text cs : List Char), stringUnits text (cs.flatMap stringChar ++ '"' :: rest) =
      .ok (cs.flatMap unitsOf, rest) := by
    intro text cs
    induction cs with
    | nil => simp [stringUnits]
    | cons c cs ih =>
      rw [List.flatMap_cons, List.append_assoc, stringUnits_stringChar c text (by simp), ih]
      rfl
  have hchars : ∀ cs : List Char, ofUnits (cs.flatMap unitsOf) = cs := by
    intro cs
    induction cs with
    | nil => rfl
    | cons c cs ih => rw [List.flatMap_cons, ofUnits_unitsOf, ih]
  rw [string, hunits]
  simp [Except.map, hchars]

end Json
end AccessGate
