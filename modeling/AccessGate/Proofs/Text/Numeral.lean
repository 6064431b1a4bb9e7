import AccessGate.Proofs.Text.Decimal
import AccessGate.Proofs.Text.Trim
import AccessGate.Proofs.Url.Grammar
import Mathlib.Data.Nat.Digits.Defs

/-! # Texts that write integers

Which texts are read as an integer is said here of the text alone: a sign or none, and digits of any script, with
single underscores between some of them; around these there may be blanks. Reading is sound and complete for this
grammar, so every other text is refused. -/
namespace AccessGate.Text

variable {c : Char} {cs rest : List Char} {d : Nat} {ds : List Nat} {n s : Int}

/-- The signs that a number may have, as they are written and as a factor. -/
inductive IsSign : List Char → Int → Prop
  | none : IsSign [] 1
  | plus : IsSign ['+'] 1
  | minus : IsSign ['-'] (-1)

/-- `Grouped cs ds`: the characters `cs` are the digits `ds`, with single underscores between some of them. -/
inductive Grouped : List Char → List Nat → Prop
  | last {c : Char} {d : Nat} (h : digitValue? c = some d) : Grouped [c] [d]
  | next {c : Char} {d : Nat} {cs : List Char} {ds : List Nat} (h : digitValue? c = some d)
      (hrest : Grouped cs ds) : Grouped (c :: cs) (d :: ds)
  | spaced {c : Char} {d : Nat} {cs : List Char} {ds : List Nat} (h : digitValue? c = some d)
      (hrest : Grouped cs ds) : Grouped (c :: '_' :: cs) (d :: ds)

/-- `Numeral cs n`: the characters `cs` write the integer `n` in at most 4300 digits. -/
inductive Numeral : List Char → Int → Prop
  | mk {sign cs : List Char} {s : Int} {ds : List Nat} (hsign : IsSign sign s) (hdigits : Grouped cs ds)
      (hfew : ds.length ≤ 4300) : Numeral (sign ++ cs) (s * (Nat.ofDigits 10 ds.reverse : Nat))

/-- A text writes an integer, with blanks around it or without. -/
def WritesInteger (s : String) (n : Int) : Prop :=
  ∃ before cs after, s.toList = before ++ cs ++ after ∧ (∀ c ∈ before, isBlank c = true) ∧
    (∀ c ∈ after, isBlank c = true) ∧ Numeral cs n

section Characters

theorem not_isBlank_of_digitValue? (h : digitValue? c = some d) : isBlank c = false := by
  simp only [digitValue?, Option.bind_eq_some_iff] at h
  obtain ⟨start, hfind, hd⟩ := h
  have hmem : start ∈ digitZeros := List.mem_of_find?_eq_some hfind
  have hhigh : c.toNat < start + 10 := by simpa using List.find?_some hfind
  have hlow : start ≤ c.toNat := by
    by_contra hlow
    simp [hlow] at hd
  by_contra hblank
  obtain ⟨r, hr, hrange⟩ := exists_mem_of_covers (Bool.not_eq_false _ ▸ hblank)
  -- The ranges of the blanks and the rows of ten digits do not meet.
  have hapart : ∀ r ∈ [(0x09, 0x0D), (0x1C, 0x20), (0x85, 0x85), (0xA0, 0xA0), (0x1680, 0x1680),
      (0x2000, 0x200A), (0x2028, 0x2029), (0x202F, 0x202F), (0x205F, 0x205F), (0x3000, 0x3000)],
      ∀ start ∈ digitZeros, r.2 < start ∨ start + 10 ≤ r.1 := by decide
  have := hapart r hr start hmem
  omega

theorem isBlank_of_isNumberBlank (h : isNumberBlank c = true) : isBlank c = true := by
  simp only [isNumberBlank, Bool.and_eq_true] at h
  exact h.1

theorem isNumeral_iff : isNumeral c = true ↔ c = '_' ∨ ∃ d, digitValue? c = some d := by
  simp [isNumeral, Option.isSome_iff_exists]

theorem not_isBlank_of_isNumeral (h : isNumeral c = true) : isBlank c = false := by
  rcases isNumeral_iff.mp h with hscore | ⟨d, hd⟩
  · rw [hscore]
    rfl
  · exact not_isBlank_of_digitValue? hd

theorem not_isNumeral_of_isNumberBlank (h : isNumberBlank c = true) : isNumeral c = false := by
  by_contra hnumeral
  have hblank := not_isBlank_of_isNumeral (Bool.not_eq_false _ ▸ hnumeral)
  rw [isBlank_of_isNumberBlank h] at hblank
  cases hblank

end Characters

section Digits

/-- What may follow a digit: nothing, other digits, or an underscore and other digits. -/
def Follows (cs : List Char) (ds : List Nat) : Prop :=
  cs = [] ∧ ds = [] ∨ Grouped cs ds ∨ ∃ rest, cs = '_' :: rest ∧ Grouped rest ds

theorem grouped_cons_iff : Grouped (c :: cs) ds ↔
    ∃ d ds', digitValue? c = some d ∧ ds = d :: ds' ∧ Follows cs ds' := by
  constructor
  · intro h
    cases h with
    | last hd => exact ⟨_, [], hd, rfl, .inl ⟨rfl, rfl⟩⟩
    | next hd hrest => exact ⟨_, _, hd, rfl, .inr (.inl hrest)⟩
    | spaced hd hrest => exact ⟨_, _, hd, rfl, .inr (.inr ⟨_, rfl, hrest⟩)⟩
  · intro h
    obtain ⟨d, ds', hd, hds, hfollows⟩ := h
    subst hds
    rcases hfollows with ⟨hcs, hds'⟩ | hrest | ⟨rest, hcs, hrest⟩
    · rw [hcs, hds']
      exact .last hd
    · exact .next hd hrest
    · rw [hcs]
      exact .spaced hd hrest

theorem not_grouped_score : ¬Grouped ('_' :: cs) ds := by
  intro h
  obtain ⟨d, _, hd, _⟩ := grouped_cons_iff.mp h
  cases hd

theorem Grouped.exists_head (h : Grouped cs ds) : ∃ c rest d, cs = c :: rest ∧ digitValue? c = some d := by
  cases h with
  | last hd | next hd _ | spaced hd _ => exact ⟨_, _, _, rfl, hd⟩

theorem Grouped.isNumeral (h : Grouped cs ds) : ∀ c ∈ cs, isNumeral c = true := by
  induction h with
  | last hd => simpa using isNumeral_iff.mpr (.inr ⟨_, hd⟩)
  | next hd _ ih => exact List.forall_mem_cons.mpr ⟨isNumeral_iff.mpr (.inr ⟨_, hd⟩), ih⟩
  | spaced hd _ ih =>
    exact List.forall_mem_cons.mpr ⟨isNumeral_iff.mpr (.inr ⟨_, hd⟩), List.forall_mem_cons.mpr ⟨rfl, ih⟩⟩

theorem groupedDigits?_cons_of_ne (hscore : c ≠ '_') (afterDigit : Bool) :
    groupedDigits? afterDigit (c :: cs) = some ds ↔
      ∃ d ds', digitValue? c = some d ∧ ds = d :: ds' ∧ groupedDigits? true cs = some ds' := by
  simp only [groupedDigits?, if_neg hscore, Option.bind_eq_bind, Option.bind_eq_some_iff, Option.pure_def,
    Option.some.injEq]
  constructor
  · intro h
    obtain ⟨d, hd, ds', hds', hds⟩ := h
    exact ⟨d, ds', hd, hds.symm, hds'⟩
  · intro h
    obtain ⟨d, ds', hd, hds, hds'⟩ := h
    exact ⟨d, hd, ds', hds', hds.symm⟩

theorem groupedDigits?_iff (cs : List Char) : ∀ ds,
    (groupedDigits? false cs = some ds ↔ Grouped cs ds) ∧ (groupedDigits? true cs = some ds ↔ Follows cs ds) := by
  induction cs with
  | nil =>
    intro ds
    have hnone : ¬Grouped [] ds := fun h => by cases h
    simp [groupedDigits?, Follows, hnone, eq_comm]
  | cons c cs ih =>
    intro ds
    by_cases hscore : c = '_'
    · subst hscore
      simp [groupedDigits?, Follows, not_grouped_score, (ih ds).1]
    · have hgrouped : Grouped (c :: cs) ds ↔
          ∃ d ds', digitValue? c = some d ∧ ds = d :: ds' ∧ groupedDigits? true cs = some ds' := by
        simp only [(ih _).2, grouped_cons_iff]
      have hfollows : Follows (c :: cs) ds ↔ Grouped (c :: cs) ds := by simp [Follows, hscore]
      rw [hfollows, hgrouped, groupedDigits?_cons_of_ne hscore, groupedDigits?_cons_of_ne hscore]
      exact ⟨Iff.rfl, Iff.rfl⟩

theorem groupedDigits?_eq_some_iff : groupedDigits? false cs = some ds ↔ Grouped cs ds := (groupedDigits?_iff cs ds).1

theorem digitsValue_eq_ofDigits (ds : List Nat) : digitsValue ds = Nat.ofDigits 10 ds.reverse := by
  rw [Nat.ofDigits_eq_foldr, List.foldr_reverse, digitsValue]
  simp only [Nat.cast_id, Nat.add_comm]

end Digits

section Reading
variable {sign : List Char}

theorem splitSign_of_isSign (hsign : IsSign sign s) (hdigits : Grouped cs ds) (rest : List Char) :
    splitSign (sign ++ (cs ++ rest)) = (s, cs ++ rest) := by
  cases hsign with
  | plus | minus => rfl
  | none =>
    obtain ⟨c, tail, d, hcs, hd⟩ := hdigits.exists_head
    rw [hcs]
    change splitSign (c :: (tail ++ rest)) = (1, c :: (tail ++ rest))
    unfold splitSign
    split
    · rename_i heq
      cases heq
      cases hd
    · rename_i heq
      cases heq
      cases hd
    · rfl

theorem exists_isSign (cs : List Char) : ∃ sign, IsSign sign (splitSign cs).1 ∧ cs = sign ++ (splitSign cs).2 := by
  unfold splitSign
  split
  · exact ⟨['-'], .minus, rfl⟩
  · exact ⟨['+'], .plus, rfl⟩
  · exact ⟨[], .none, rfl⟩

theorem Numeral.not_isBlank (h : Numeral cs n) : ∀ c ∈ cs, isBlank c = false := by
  obtain ⟨hsign, hdigits, _⟩ := h
  intro c hc
  rcases List.mem_append.mp hc with hc | hc
  · cases hsign with
    | none => cases hc
    | plus | minus =>
      rw [List.mem_singleton.mp hc]
      rfl
  · exact not_isBlank_of_isNumeral (hdigits.isNumeral c hc)

theorem Numeral.ne_nil (h : Numeral cs n) : cs ≠ [] := by
  obtain ⟨_, hdigits, _⟩ := h
  obtain ⟨c, tail, _, hcs, _⟩ := hdigits.exists_head
  simp [hcs]

theorem Numeral.read (h : Numeral cs n) {before after : List Char} (hbefore : ∀ c ∈ before, isNumberBlank c = true)
    (hafter : ∀ c ∈ after, isNumberBlank c = true) : readIntegerChars (before ++ cs ++ after) = .ok n := by
  have hhead : ∀ c ∈ (cs ++ after).head?, isNumberBlank c = false := by
    intro c hc
    have hmem : c ∈ cs := by
      cases cs with
      | nil => exact absurd rfl h.ne_nil
      | cons d cs =>
        cases hc
        exact List.mem_cons_self
    rw [isNumberBlank, h.not_isBlank c hmem, Bool.false_and]
  obtain ⟨_, hdrop⟩ := Url.takeWhile_dropWhile_iff.mpr ⟨List.append_assoc before cs after, hbefore, hhead⟩
  cases h with
  | @mk sign cs s ds hsign hdigits hfew =>
    have hrest : ∀ c ∈ after.head?, isNumeral c = false := fun c hc =>
      not_isNumeral_of_isNumberBlank (hafter c (List.mem_of_head? hc))
    obtain ⟨htake, hleft⟩ := Url.takeWhile_dropWhile_iff.mpr ⟨rfl, hdigits.isNumeral, hrest⟩
    have hgroups := groupedDigits?_eq_some_iff.mpr hdigits
    have hlimit : ¬digitLimit < ds.length := Nat.not_lt.mpr hfew
    have hblank : after.all isNumberBlank = true := List.all_eq_true.mpr hafter
    rw [readIntegerChars, hdrop, List.append_assoc, splitSign_of_isSign hsign hdigits]
    simp only [htake, hleft, hgroups, if_neg hlimit, if_pos hblank, digitsValue_eq_ofDigits]

theorem Numeral.readIntegerChars_eq (h : Numeral cs n) : readIntegerChars cs = .ok n := by
  have hread : readIntegerChars ([] ++ cs ++ []) = .ok n := h.read (by simp) (by simp)
  simpa using hread

theorem readIntegerChars_sound (h : readIntegerChars cs = .ok n) : ∃ before numeral after,
    cs = before ++ numeral ++ after ∧ (∀ c ∈ before, isNumberBlank c = true) ∧
      (∀ c ∈ after, isNumberBlank c = true) ∧ Numeral numeral n := by
  obtain ⟨hcs, hbefore, _⟩ := Url.takeWhile_dropWhile_iff.mp
    (⟨rfl, rfl⟩ : cs.takeWhile isNumberBlank = _ ∧ cs.dropWhile isNumberBlank = _)
  obtain ⟨sign, hsign, hsplit⟩ := exists_isSign (cs.dropWhile isNumberBlank)
  simp only [readIntegerChars] at h
  generalize splitSign (cs.dropWhile isNumberBlank) = split at h hsign hsplit
  obtain ⟨s, body⟩ := split
  split at h
  · cases h
  · rename_i ds hds
    split at h
    · cases h
    · rename_i hlimit
      split at h
      · rename_i hafter
        cases h
        refine ⟨_, sign ++ body.takeWhile isNumeral, body.dropWhile isNumeral, ?_, hbefore,
          List.all_eq_true.mp hafter, ?_⟩
        · rw [List.append_assoc, List.append_assoc, List.takeWhile_append_dropWhile, ← hsplit]
          exact hcs
        · rw [digitsValue_eq_ofDigits]
          exact .mk hsign (groupedDigits?_eq_some_iff.mp hds) (Nat.not_lt.mp hlimit)
      · cases h

theorem integer?_eq_some_iff {s : String} : integer? s = some n ↔ readIntegerChars s.toList = .ok n := by
  rw [integer?, readInteger]
  cases readIntegerChars s.toList <;> simp [Except.toOption]

theorem integer?_trim_eq_some_iff {s : String} : integer? (trim s) = some n ↔ WritesInteger s n := by
  rw [integer?_eq_some_iff, toList_trim]
  constructor
  · intro h
    obtain ⟨before, cs, after, htrim, hbefore, hafter, hcs⟩ := readIntegerChars_sound h
    obtain ⟨front, back, hs, hfront, hback⟩ := exists_padding s.toList
    refine ⟨front ++ before, cs, after ++ back, ?_, ?_, ?_, hcs⟩
    · rw [hs, htrim]
      simp only [List.append_assoc]
    · exact List.forall_mem_append.mpr ⟨hfront, fun c hc => isBlank_of_isNumberBlank (hbefore c hc)⟩
    · exact List.forall_mem_append.mpr ⟨fun c hc => isBlank_of_isNumberBlank (hafter c hc), hback⟩
  · intro h
    obtain ⟨before, cs, after, hs, hbefore, hafter, hcs⟩ := h
    rw [hs, trimChars_padded hbefore hafter, trimChars_of_forall_not_blank hcs.not_isBlank]
    exact hcs.readIntegerChars_eq

end Reading

section Decimal

theorem grouped_of_forall_isAsciiDigit (hdigits : ∀ c ∈ cs, isAsciiDigit c = true) (hne : cs ≠ []) :
    Grouped cs (cs.map fun c => c.toNat - 0x30) := by
  induction cs with
  | nil => exact absurd rfl hne
  | cons c cs ih =>
    obtain ⟨hc, hcs⟩ := List.forall_mem_cons.mp hdigits
    by_cases hnil : cs = []
    · rw [hnil]
      exact .last (digitValue?_of_isAsciiDigit hc)
    · exact .next (digitValue?_of_isAsciiDigit hc) (ih hcs hnil)

theorem numeral_decimalChars (h : IsReadable n) : Numeral (decimalChars n) n := by
  have hdigits : Grouped (Nat.toDigits 10 n.natAbs) ((Nat.toDigits 10 n.natAbs).map fun c => c.toNat - 0x30) :=
    grouped_of_forall_isAsciiDigit (fun _ => isAsciiDigit_of_mem_toDigits) Nat.toDigits_ne_nil
  have hfew : ((Nat.toDigits 10 n.natAbs).map fun c => c.toNat - 0x30).length ≤ 4300 := by
    rw [List.length_map]
    exact h
  have hvalue := digitsValue_toDigits n.natAbs
  rw [digitsValue_eq_ofDigits] at hvalue
  have hsign : ∃ sign s, IsSign sign s ∧ decimalChars n = sign ++ Nat.toDigits 10 n.natAbs ∧ s * n.natAbs = n := by
    by_cases hneg : n < 0
    · exact ⟨['-'], -1, .minus, decimalChars_of_neg hneg, by omega⟩
    · exact ⟨[], 1, .none, decimalChars_of_nonneg (by omega), by omega⟩
  obtain ⟨sign, s, hsign, hchars, hn⟩ := hsign
  have hnumeral := Numeral.mk hsign hdigits hfew
  rwa [hvalue, hn, ← hchars] at hnumeral

theorem integer?_decimal (h : IsReadable n) : integer? (decimal n) = some n := by
  rw [integer?_eq_some_iff, decimal, String.toList_ofList]
  exact (numeral_decimalChars h).readIntegerChars_eq

theorem writesInteger_decimal (h : IsReadable n) {before after : String}
    (hbefore : ∀ c ∈ before.toList, isBlank c = true) (hafter : ∀ c ∈ after.toList, isBlank c = true) :
    WritesInteger (before ++ decimal n ++ after) n := by
  refine ⟨before.toList, decimalChars n, after.toList, ?_, hbefore, hafter, numeral_decimalChars h⟩
  simp [decimal]

end Decimal

/-- Digits of two scripts, grouped. -/
example : integer? " +1_\u0662\t" = some 12 := by decide

end AccessGate.Text
