import AccessGate.Proofs.Checks
import AccessGate.Proofs.Json.RoundTrip
import Mathlib.Data.List.TakeWhile

/-! # Integers too long to be read

Reading a piece of a text leaves an end of the text, and an integer that stops the reading stands in the text: a
row of more digits than are read. Both hold of the smallest pieces and are kept where pieces are put together. -/
namespace AccessGate.Json

open AccessGate.Text (isAsciiDigit digitLimit)

/-- A text holds a row of `n` digits, more than are read. -/
def HoldsLongRow (n : Nat) (cs : List Char) : Prop :=
  digitLimit < n ∧ ∃ row, row <:+: cs ∧ row.length = n ∧ ∀ c ∈ row, isAsciiDigit c = true

/-- What a reading of `cs` may come to: it leaves an end of `cs`, and an integer that stops it stands in `cs`. -/
structure StaysIn {α : Type} (cs : List Char) (out : Reading α) : Prop where
  suffix : ∀ a rest, out = .ok (a, rest) → rest <:+ cs
  long : ∀ n, out = .error (.tooLong n) → HoldsLongRow n cs

section Parts
variable {α β : Type} {cs rest after : List Char} {out : Reading α}

theorem HoldsLongRow.mono {n : Nat} (h : HoldsLongRow n rest) (hin : rest <:+: cs) : HoldsLongRow n cs := by
  obtain ⟨hlong, row, hrow, hlength, hdigits⟩ := h
  exact ⟨hlong, row, hrow.trans hin, hlength, hdigits⟩

theorem StaysIn.ok {a : α} (h : rest <:+ cs) : StaysIn cs (.ok (a, rest)) where
  suffix := by
    rintro _ _ ⟨⟩
    exact h
  long := nofun

theorem StaysIn.syntaxAt {reason : Reason} {left : Nat} :
    StaysIn (α := α) cs (.error (.syntaxAt reason left)) where
  suffix := nofun
  long := nofun

theorem StaysIn.of_suffix (h : StaysIn rest out) (hin : rest <:+ cs) : StaysIn cs out where
  suffix a after hout := (h.suffix a after hout).trans hin
  long n hout := (h.long n hout).mono hin.isInfix

theorem StaysIn.bind {next : α × List Char → Reading β} (h : StaysIn cs out)
    (hnext : ∀ a rest, rest <:+ cs → StaysIn cs (next (a, rest))) : StaysIn cs (Except.bind out next) := by
  cases out with
  | error stop =>
    refine ⟨nofun, fun n hstop => ?_⟩
    cases hstop
    exact h.long n rfl
  | ok read => exact hnext read.1 read.2 (h.suffix _ _ rfl)

theorem StaysIn.map (h : StaysIn cs out) (f : α → β) : StaysIn cs (out.map fun (a, after) => (f a, after)) := by
  have hmap : out.map (fun (a, after) => (f a, after)) = Except.bind out fun (a, after) => .ok (f a, after) := by
    cases out <;> rfl
  rw [hmap]
  exact h.bind fun a rest hrest => .ok hrest

theorem skipSpace_suffix (cs : List Char) : skipSpace cs <:+ cs := List.dropWhile_suffix _

theorem suffix_of_skipSpace {c : Char} (h : skipSpace rest = c :: after) (hrest : rest <:+ cs) : after <:+ cs := by
  have hskip := skipSpace_suffix rest
  rw [h] at hskip
  exact (List.suffix_cons c after).trans (hskip.trans hrest)

end Parts

section Pieces
variable {cs rest digits : List Char}

theorem stringUnits_staysIn (text cs : List Char) : StaysIn cs (stringUnits text cs) := by
  fun_induction stringUnits text cs with
  | case2 rest => exact .ok (List.suffix_cons _ _)
  | case5 a b c d rest unit _ _ ih =>
    exact (ih.map (unit :: ·)).of_suffix (List.suffix_append ['\\', 'u', a, b, c, d] rest)
  | case8 c rest _ _ e _ ih => exact (ih.map (e.toNat :: ·)).of_suffix (List.suffix_append ['\\', c] rest)
  | case11 c rest _ _ _ _ _ ih => exact (ih.map (c.toNat :: ·)).of_suffix (List.suffix_cons _ _)
  | _ => exact .syntaxAt

theorem string_staysIn (cs : List Char) : StaysIn cs (string cs) :=
  (stringUnits_staysIn cs cs).map fun units => String.ofList (ofUnits units)

theorem wholeDigits?_eq_some (h : wholeDigits? cs = some (digits, rest)) :
    cs = digits ++ rest ∧ ∀ c ∈ digits, isAsciiDigit c = true := by
  unfold wholeDigits? at h
  split at h
  · cases h
    exact ⟨rfl, List.forall_mem_singleton.mpr rfl⟩
  · rename_i c tail hzero
    by_cases hc : isAsciiDigit c = true
    · rw [if_pos hc] at h
      cases h
      exact ⟨by simp, List.forall_mem_cons.mpr ⟨hc, fun d hd => List.mem_takeWhile_imp hd⟩⟩
    · simp [hc] at h
  · cases h

theorem fractionDigits_suffix (cs : List Char) : (fractionDigits cs).2 <:+ cs := by
  unfold fractionDigits
  split
  · rename_i rest
    dsimp only
    split
    · exact List.suffix_rfl
    · exact (List.dropWhile_suffix _).trans (List.suffix_cons _ _)
  · exact List.suffix_rfl

theorem splitSign_suffix (cs : List Char) : (Text.splitSign cs).2 <:+ cs := by
  unfold Text.splitSign
  split
  · exact List.suffix_cons _ _
  · exact List.suffix_cons _ _
  · exact List.suffix_rfl

theorem exponent?_suffix (cs : List Char) : (exponent? cs).2 <:+ cs := by
  unfold exponent?
  split
  · rename_i c rest
    split
    · dsimp only
      split
      · exact List.suffix_rfl
      · exact (List.dropWhile_suffix _).trans ((splitSign_suffix rest).trans (List.suffix_cons _ _))
    · exact List.suffix_rfl
  · exact List.suffix_rfl

theorem number_staysIn (cs : List Char) : StaysIn cs (number cs) := by
  unfold number
  split
  rename_i negative body hbody
  have hin : body <:+ cs := by
    split at hbody
    · cases hbody
      exact List.suffix_cons _ _
    · cases hbody
      exact List.suffix_rfl
  cases hwhole : wholeDigits? body with
  | none => exact .syntaxAt
  | some read =>
    obtain ⟨whole, rest⟩ := read
    obtain ⟨rfl, hdigits⟩ := wholeDigits?_eq_some hwhole
    have hrest : (exponent? (fractionDigits rest).2).2 <:+ cs :=
      (exponent?_suffix _).trans ((fractionDigits_suffix _).trans ((List.suffix_append _ _).trans hin))
    dsimp only
    split
    · split
      · rename_i hlong
        refine ⟨nofun, fun n hstop => ?_⟩
        cases hstop
        exact ⟨hlong, whole, (List.prefix_append whole rest).isInfix.trans hin.isInfix, rfl, hdigits⟩
      · exact .ok hrest
    · exact .ok hrest

theorem scalar_staysIn (cs : List Char) : StaysIn cs (scalar cs) := by
  unfold scalar
  split
  · rename_i found hfound
    obtain ⟨word, _, hword⟩ := List.exists_of_findSome?_eq_some hfound
    obtain ⟨rest, hrest, rfl⟩ := Option.map_eq_some_iff.mp hword
    unfold afterWord? at hrest
    split at hrest
    · cases hrest
      exact .ok (List.drop_suffix _ _)
    · cases hrest
  · exact number_staysIn cs

end Pieces

section Values
variable {fuel : Nat} {cs : List Char}

theorem valueAt_staysIn_step (hitems : ∀ cs, StaysIn cs (itemsAt fuel cs))
    (hpairs : ∀ cs, StaysIn cs (pairsAt fuel cs)) (cs : List Char) : StaysIn cs (valueAt (fuel + 1) cs) := by
  unfold valueAt
  split
  · exact .syntaxAt
  · rename_i rest hfuel
    cases hfuel
    exact ((string_staysIn _).map Json.str).of_suffix (List.suffix_cons _ _)
  · rename_i rest hfuel
    cases hfuel
    split
    · rename_i after hafter
      exact .ok (suffix_of_skipSpace hafter (List.suffix_cons _ _))
    · exact ((hitems _).map Json.arr).of_suffix ((skipSpace_suffix _).trans (List.suffix_cons _ _))
  · rename_i rest hfuel
    cases hfuel
    split
    · rename_i after hafter
      exact .ok (suffix_of_skipSpace hafter (List.suffix_cons _ _))
    · exact ((hpairs _).map fun pairs => Json.obj (membersOf pairs)).of_suffix
        ((skipSpace_suffix _).trans (List.suffix_cons _ _))
  · exact scalar_staysIn _

theorem itemsAt_staysIn_step (hvalue : ∀ cs, StaysIn cs (valueAt fuel cs))
    (hitems : ∀ cs, StaysIn cs (itemsAt fuel cs)) (cs : List Char) : StaysIn cs (itemsAt (fuel + 1) cs) := by
  rw [itemsAt]
  refine (hvalue cs).bind fun item rest hrest => ?_
  dsimp only
  split
  · rename_i after hafter
    exact .ok (suffix_of_skipSpace hafter hrest)
  · rename_i more hmore
    have hin := (skipSpace_suffix more).trans (suffix_of_skipSpace hmore hrest)
    exact ((hitems _).map (item :: ·)).of_suffix hin
  · exact .syntaxAt

theorem pairsAt_staysIn_step (hvalue : ∀ cs, StaysIn cs (valueAt fuel cs))
    (hpairs : ∀ cs, StaysIn cs (pairsAt fuel cs)) (cs : List Char) : StaysIn cs (pairsAt (fuel + 1) cs) := by
  unfold pairsAt
  split
  · rename_i tail hfuel
    cases hfuel
    refine StaysIn.bind ((string_staysIn tail).of_suffix (List.suffix_cons _ _)) fun key rest hrest => ?_
    dsimp only
    split
    · rename_i written hcolon
      have hwritten := (skipSpace_suffix written).trans (suffix_of_skipSpace hcolon hrest)
      refine StaysIn.bind ((hvalue _).of_suffix hwritten) fun value rest hrest => ?_
      dsimp only
      split
      · rename_i after hafter
        exact .ok (suffix_of_skipSpace hafter hrest)
      · rename_i more hmore
        have hin := (skipSpace_suffix more).trans (suffix_of_skipSpace hmore hrest)
        exact ((hpairs _).map ((key, value) :: ·)).of_suffix hin
      · exact .syntaxAt
    · exact .syntaxAt
  · exact .syntaxAt

/-- Reading stays in the text, however deep it may go. -/
theorem readings_stayIn (fuel : Nat) : (∀ cs, StaysIn cs (valueAt fuel cs)) ∧
    (∀ cs, StaysIn cs (itemsAt fuel cs)) ∧ ∀ cs, StaysIn cs (pairsAt fuel cs) := by
  induction fuel with
  | zero =>
    refine ⟨?_, ?_, ?_⟩ <;> intro cs
    · rw [valueAt]
      exact .syntaxAt
    · rw [itemsAt]
      exact .syntaxAt
    · rw [pairsAt]
      · exact .syntaxAt
      · simp
  | succ fuel ih =>
    obtain ⟨hvalue, hitems, hpairs⟩ := ih
    exact ⟨valueAt_staysIn_step hitems hpairs, itemsAt_staysIn_step hvalue hitems,
      pairsAt_staysIn_step hvalue hpairs⟩

end Values

/-- A text that is not read for an integer with too many digits holds these digits in a row. -/
theorem holdsLongRow_of_parse {s : String} {n : Nat} (h : parse s = .error (.tooLong n)) :
    HoldsLongRow n s.toList := by
  have hstop : parseChars s.toList = .error (.tooLong n) := by
    obtain ⟨stop, hstop, hfault⟩ := mapError_eq_error_iff.mp h
    cases stop with
    | syntaxAt reason left => cases hfault
    | tooLong digits =>
      cases hfault
      exact hstop
  unfold parseChars at hstop
  split at hstop
  · cases hstop
  · cases hvalue : valueAt (2 * s.toList.length + 2) (skipSpace s.toList) with
    | error stop =>
      rw [hvalue] at hstop
      cases hstop
      have hin := ((readings_stayIn _).1 (skipSpace s.toList)).long n hvalue
      exact hin.mono (skipSpace_suffix _).isInfix
    | ok read =>
      rw [hvalue] at hstop
      dsimp only [bind, Except.bind] at hstop
      split at hstop <;> cases hstop

section Numbered
variable {digits rest : List Char}

theorem valueAt_tooLong {fuel : Nat} (hdigits : ∀ c ∈ digits, isAsciiDigit c = true)
    (hlong : digitLimit < digits.length) (hzero : digits.head? ≠ some '0') (hrest : EndsNumber rest) :
    valueAt (fuel + 1) (digits ++ rest) = .error (.tooLong digits.length) := by
  have hne : digits ≠ [] := by
    rintro rfl
    exact absurd hlong (by decide)
  have hnumber := number_of_wholeDigits? (head?_ne_minus hdigits hne)
    (wholeDigits?_of_digits hdigits hne hzero hrest) hrest
  rw [if_pos hlong] at hnumber
  rw [← hnumber]
  obtain ⟨c, cs, rfl⟩ := List.exists_cons_of_ne_nil hne
  exact valueAt_of_digit (hdigits c List.mem_cons_self)

def numberedMember (key : String) (digits : List Char) : List Char :=
  '"' :: (key.toList.flatMap stringChar ++ '"' :: ':' :: (digits ++ ['\x7d', ']']))

def numbered (key : String) (digits : List Char) : List Char := '[' :: '\x7b' :: numberedMember key digits

theorem skipSpace_digits (hdigits : ∀ c ∈ digits, isAsciiDigit c = true) (hne : digits ≠ []) :
    skipSpace (digits ++ rest) = digits ++ rest := by
  obtain ⟨c, cs, rfl⟩ := List.exists_cons_of_ne_nil hne
  apply skipSpace_cons
  by_contra hspace
  simp only [isSpace, Bool.not_eq_false, Bool.or_eq_true, decide_eq_true_eq] at hspace
  have hc := hdigits c List.mem_cons_self
  rcases hspace with ((rfl | rfl) | rfl) | rfl <;> cases hc

theorem parse_numbered (key : String) (hdigits : ∀ c ∈ digits, isAsciiDigit c = true)
    (hlong : digitLimit < digits.length) (hzero : digits.head? ≠ some '0') :
    parse (String.ofList (numbered key digits)) = .error (.tooLong digits.length) := by
  obtain ⟨fuel, hfuel⟩ : ∃ n, 2 * (numbered key digits).length + 2 = n + 5 := by
    refine ⟨2 * (numbered key digits).length - 3, ?_⟩
    simp only [numbered, numberedMember, List.length_cons]
    omega
  have hne : digits ≠ [] := by
    rintro rfl
    exact absurd hlong (by decide)
  have hvalue : valueAt (fuel + 1) (skipSpace (digits ++ ['\x7d', ']'])) = .error (.tooLong digits.length) := by
    rw [skipSpace_digits hdigits hne]
    exact valueAt_tooLong hdigits hlong hzero (endsNumber_cons (by decide) (by decide))
  have hpairs : pairsAt (fuel + 2) (numberedMember key digits) = .error (.tooLong digits.length) := by
    rw [numberedMember, pairsAt, string_stringChars]
    change Except.bind (valueAt (fuel + 1) (skipSpace (digits ++ ['\x7d', ']']))) _ = _
    rw [hvalue]
    rfl
  have hobject : valueAt (fuel + 3) ('\x7b' :: numberedMember key digits) = .error (.tooLong digits.length) := by
    change Except.map _ (pairsAt (fuel + 2) (numberedMember key digits)) = _
    rw [hpairs]
    rfl
  have hlist : valueAt (fuel + 5) (numbered key digits) = .error (.tooLong digits.length) := by
    change Except.map _ (itemsAt (fuel + 4) ('\x7b' :: numberedMember key digits)) = _
    rw [itemsAt, hobject]
    rfl
  have hskip : skipSpace (numbered key digits) = numbered key digits := skipSpace_cons (by decide)
  have hmark : (numbered key digits).head? ≠ some (Char.ofNat 0xFEFF) := by
    rw [numbered, List.head?_cons]
    decide
  rw [parse, String.toList_ofList, parseChars, if_neg hmark, hskip, hfuel]
  change Except.mapError _ (Except.bind (valueAt _ _) _) = _
  rw [hlist]
  rfl

end Numbered

end AccessGate.Json
