import AccessGate.Proofs.Json.Strings
import AccessGate.Proofs.Text.Decimal
import AccessGate.Secret

/-! # The form of secrets

The texts that have the form of a secret are those that are made of sixteen bytes, and each of them is made of one row
of bytes only. So as many secrets can be drawn as there are rows of bytes. -/
namespace AccessGate.Secret

open Text (fixedHex hexDigit hexValue?)

variable {cs : List Char} {bytes : List UInt8} {s : String}

theorem toNat_lt_of_hexValue? {c : Char} (h : (hexValue? c).isSome = true) : c.toNat < 128 := by
  apply Nat.lt_of_not_le
  intro hge
  have hnone : hexValue? c = none := by
    simp only [hexValue?, Bool.and_eq_true, decide_eq_true_iff]
    rw [if_neg (by omega), if_neg (by omega), if_neg (by omega)]
  rw [hnone] at h
  cases h

theorem isHex_iff {c : Char} :
    ((hexValue? c).isSome && !('A' ≤ c && c ≤ 'F')) = true ↔ ∃ d < 16, hexDigit d = c := by
  constructor
  · intro h
    have hlt := toNat_lt_of_hexValue? (Bool.and_eq_true_iff.mp h).1
    revert h
    apply Text.forall_code_lt _ hlt
    decide
  · intro ⟨d, hd, hdigit⟩
    subst hdigit
    decide +revert

theorem fixedHex_two {high low : Nat} (hhigh : high < 16) (hlow : low < 16) :
    fixedHex 2 (16 * high + low) = [hexDigit high, hexDigit low] := by
  have hdiv : (16 * high + low) / 16 = high := by omega
  have hmod : (16 * high + low) % 16 = low := by omega
  rw [fixedHex, fixedHex, fixedHex, hdiv, hmod, Nat.mod_eq_of_lt hhigh]
  rfl

theorem fixedHex_toNat_injective : Function.Injective fun b : UInt8 => fixedHex 2 b.toNat := by
  intro b b' h
  have hnumber := congrArg Text.hexNumber? h
  simp only [Text.hexNumber?_fixedHex, Option.some.injEq] at hnumber
  have hb := b.toNat_lt
  have hb' := b'.toNat_lt
  apply UInt8.toNat.inj
  simpa [Nat.mod_eq_of_lt hb, Nat.mod_eq_of_lt hb'] using hnumber

theorem length_flatMap_fixedHex (bytes : List UInt8) :
    (bytes.flatMap fun b => fixedHex 2 b.toNat).length = 2 * bytes.length := by
  induction bytes with
  | nil => rfl
  | cons b bytes ih =>
    rw [List.flatMap_cons, List.length_append, Text.length_fixedHex, ih, List.length_cons]
    omega

theorem exists_bytes (hlength : cs.length = 2 * n) (hhex : ∀ c ∈ cs, ∃ d < 16, hexDigit d = c) :
    ∃ bytes : List UInt8, bytes.length = n ∧ (bytes.flatMap fun b => fixedHex 2 b.toNat) = cs := by
  induction n generalizing cs with
  | zero => exact ⟨[], rfl, (List.length_eq_zero_iff.mp hlength).symm⟩
  | succ n ih =>
    match cs, hlength with
    | c :: c' :: rest, hlength =>
      simp only [List.forall_mem_cons] at hhex
      obtain ⟨⟨high, hhigh, rfl⟩, ⟨low, hlow, rfl⟩, hrest⟩ := hhex
      obtain ⟨bytes, hbytes, rfl⟩ := ih (by simpa [Nat.mul_add] using hlength) hrest
      refine ⟨UInt8.ofNat (16 * high + low) :: bytes, by rw [List.length_cons, hbytes], ?_⟩
      have hbyte : (UInt8.ofNat (16 * high + low)).toNat = 16 * high + low :=
        UInt8.toNat_ofNat_of_lt (show _ < 256 by omega)
      rw [List.flatMap_cons, hbyte, fixedHex_two hhigh hlow]
      rfl

/-- A text has the form of a secret exactly when it is made of sixteen bytes. -/
theorem isFormed_iff : isFormed s = true ↔ ∃ bytes, bytes.length = size ∧ ofBytes bytes = s := by
  rw [isFormed, Bool.and_eq_true, decide_eq_true_iff, List.all_eq_true]
  simp only [isHex_iff]
  constructor
  · intro ⟨hlength, hhex⟩
    obtain ⟨bytes, hbytes, hchars⟩ := exists_bytes hlength hhex
    exact ⟨bytes, hbytes, by rw [ofBytes, hchars, String.ofList_toList]⟩
  · intro ⟨bytes, hbytes, hs⟩
    subst hs
    rw [ofBytes, String.toList_ofList, length_flatMap_fixedHex, hbytes]
    refine ⟨rfl, fun c hc => ?_⟩
    obtain ⟨b, _, hc⟩ := List.mem_flatMap.mp hc
    exact Text.exists_hexDigit_of_mem_fixedHex hc

theorem flatMap_fixedHex_injective :
    Function.Injective fun bytes : List UInt8 => bytes.flatMap fun b => fixedHex 2 b.toNat := by
  intro bytes bytes' h
  have hlength := congrArg List.length h
  simp only [length_flatMap_fixedHex] at hlength
  induction bytes generalizing bytes' with
  | nil =>
    cases bytes' with
    | nil => rfl
    | cons b' bytes' => simp at hlength
  | cons b bytes ih =>
    cases bytes' with
    | nil => simp at hlength
    | cons b' bytes' =>
      obtain ⟨hfirst, hrest⟩ := List.append_inj h (by simp)
      rw [fixedHex_toNat_injective hfirst, ih hrest (by simp only [List.length_cons] at hlength; omega)]

theorem ofBytes_injective : Function.Injective ofBytes := by
  intro bytes bytes' h
  exact flatMap_fixedHex_injective (String.ofList_injective h)

end AccessGate.Secret
