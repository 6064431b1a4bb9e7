import AccessGate.Proofs.Authentication
import AccessGate.Proofs.Json.Strings
import AccessGate.Proofs.Text.Decimal
import Mathlib.Tactic.ByContra

/-! # Values read back

A value without fractions is read back from its compact form: its integers are within the limit of what can be
read, and no key of its objects occurs twice. What follows the value is left, as long as it does not carry a
number on. -/
namespace AccessGate.Json

open AccessGate.Text (IsReadable isAsciiDigit)

section Number
variable {rest digits : List Char} {n : Int}

/-- What follows does not carry a number on. -/
def EndsNumber (rest : List Char) : Prop :=
  ∀ c ∈ rest.head?, isAsciiDigit c = false ∧ c ≠ '.' ∧ c ≠ 'e' ∧ c ≠ 'E'

theorem takeWhile_isAsciiDigit (hrest : EndsNumber rest) : rest.takeWhile isAsciiDigit = [] := by
  cases rest with
  | nil => rfl
  | cons c rest => simp [(hrest c rfl).1]

theorem dropWhile_isAsciiDigit (hrest : EndsNumber rest) : rest.dropWhile isAsciiDigit = rest := by
  cases rest with
  | nil => rfl
  | cons c rest => simp [(hrest c rfl).1]

theorem wholeDigits?_of_digits (hdigits : ∀ c ∈ digits, isAsciiDigit c = true) (hne : digits ≠ [])
    (hzero : digits.head? ≠ some '0') (hrest : EndsNumber rest) :
    wholeDigits? (digits ++ rest) = some (digits, rest) := by
  obtain ⟨c, cs, rfl⟩ := List.exists_cons_of_ne_nil hne
  obtain ⟨hc, hdigits⟩ := List.forall_mem_cons.mp hdigits
  rw [List.cons_append, wholeDigits?, if_pos hc]
  · rw [List.takeWhile_append_of_pos hdigits, List.dropWhile_append_of_pos hdigits,
      takeWhile_isAsciiDigit hrest, dropWhile_isAsciiDigit hrest, List.append_nil]
  · simpa using hzero

theorem wholeDigits?_toDigits (m : Nat) (hrest : EndsNumber rest) :
    wholeDigits? (Nat.toDigits 10 m ++ rest) = some (Nat.toDigits 10 m, rest) := by
  by_cases hm : m = 0
  · subst hm
    rfl
  · have hdigits : ∀ c ∈ Nat.toDigits 10 m, isAsciiDigit c = true :=
      fun c hc => Text.isAsciiDigit_of_mem_toDigits hc
    exact wholeDigits?_of_digits hdigits Nat.toDigits_ne_nil (Text.head?_toDigits_ne_zero hm) hrest

theorem fractionDigits_of_endsNumber (hrest : EndsNumber rest) : fractionDigits rest = ([], rest) := by
  unfold fractionDigits
  split
  · exact absurd rfl (hrest '.' rfl).2.1
  · rfl

theorem exponent?_of_endsNumber (hrest : EndsNumber rest) : exponent? rest = (none, rest) := by
  cases rest with
  | nil => rfl
  | cons c rest =>
    obtain ⟨_, _, hlower, hupper⟩ := hrest c rfl
    simp [exponent?, hlower, hupper]

theorem head?_ne_minus (hdigits : ∀ c ∈ digits, isAsciiDigit c = true) (hne : digits ≠ []) :
    (digits ++ rest).head? ≠ some '-' := by
  obtain ⟨c, cs, rfl⟩ := List.exists_cons_of_ne_nil hne
  have hc := hdigits c List.mem_cons_self
  rintro ⟨⟩
  cases hc

/-- A row of digits that nothing carries on is read as an integer, if it is not too long. -/
theorem number_of_wholeDigits? {cs whole : List Char} (hsign : cs.head? ≠ some '-')
    (hwhole : wholeDigits? cs = some (whole, rest)) (hrest : EndsNumber rest) :
    number cs = if Text.digitLimit < whole.length then .error (.tooLong whole.length)
      else .ok (.int (digitsNumber whole), rest) := by
  unfold number
  split
  rename_i hbody
  split at hbody
  · exact absurd rfl hsign
  · cases hbody
    simp [hwhole, fractionDigits_of_endsNumber hrest, exponent?_of_endsNumber hrest]

theorem number_minus_of_wholeDigits? {cs whole : List Char} (hwhole : wholeDigits? cs = some (whole, rest))
    (hrest : EndsNumber rest) :
    number ('-' :: cs) = if Text.digitLimit < whole.length then .error (.tooLong whole.length)
      else .ok (.int (-digitsNumber whole), rest) := by
  unfold number
  simp [hwhole, fractionDigits_of_endsNumber hrest, exponent?_of_endsNumber hrest]

theorem number_decimalChars (hn : IsReadable n) (hrest : EndsNumber rest) :
    number (Text.decimalChars n ++ rest) = .ok (.int n, rest) := by
  have hwhole := wholeDigits?_toDigits n.natAbs hrest
  have hlimit : ¬Text.digitLimit < (Nat.toDigits 10 n.natAbs).length := Nat.not_lt.mpr hn
  have hvalue : digitsNumber (Nat.toDigits 10 n.natAbs) = n.natAbs := Text.digitsValue_toDigits _
  by_cases hsign : n < 0
  · rw [Text.decimalChars_of_neg hsign, List.cons_append, number_minus_of_wholeDigits? hwhole hrest,
      if_neg hlimit, hvalue, show -(n.natAbs : Int) = n by omega]
  · have hhead : (Nat.toDigits 10 n.natAbs ++ rest).head? ≠ some '-' :=
      head?_ne_minus (fun c hc => Text.isAsciiDigit_of_mem_toDigits hc) Nat.toDigits_ne_nil
    rw [Text.decimalChars_of_nonneg (by omega), number_of_wholeDigits? hhead hwhole hrest, if_neg hlimit, hvalue,
      show (n.natAbs : Int) = n by omega]

theorem scalar_eq_number {cs : List Char} (h : ∀ word ∈ literals, ¬word.1.toList <+: cs) :
    scalar cs = number cs := by
  unfold scalar
  split
  · rename_i found hfound
    obtain ⟨word, hword, hafter⟩ := List.exists_of_findSome?_eq_some hfound
    simp [afterWord?, h word hword] at hafter
  · rfl

theorem scalar_of_digit {c : Char} {cs : List Char} (h : isAsciiDigit c = true) :
    scalar (c :: cs) = number (c :: cs) := by
  have hwords : ∀ word ∈ literals, word.1.toList.head?.map isAsciiDigit = some false := by decide
  apply scalar_eq_number
  rintro word hmem ⟨tail, htail⟩
  have hfirst := hwords word hmem
  cases hword : word.1.toList with
  | nil => simp [hword] at hfirst
  | cons w ws =>
    rw [hword] at htail hfirst
    cases htail
    simp [h] at hfirst

theorem scalar_of_minus {c : Char} {cs : List Char} (h : isAsciiDigit c = true) :
    scalar ('-' :: c :: cs) = number ('-' :: c :: cs) := by
  have hwords : ∀ word ∈ literals, word.1.toList.head? = some '-' → word.1.toList[1]? = some 'I' := by decide
  have hne : ∀ word ∈ literals, word.1.toList ≠ [] := by decide
  apply scalar_eq_number
  rintro word hmem ⟨tail, htail⟩
  have hsecond := hwords word hmem
  match hword : word.1.toList with
  | [] => exact hne word hmem hword
  | [w] =>
    rw [hword] at htail hsecond
    cases htail
    simp at hsecond
  | w :: d :: ws =>
    rw [hword] at htail hsecond
    cases htail
    obtain rfl : c = 'I' := by simpa using hsecond
    cases h

theorem decimalChars_head (n : Int) : ∃ c cs, isAsciiDigit c = true ∧
    (Text.decimalChars n = c :: cs ∨ Text.decimalChars n = '-' :: c :: cs) := by
  obtain ⟨c, cs, hcs⟩ := List.exists_cons_of_ne_nil (Nat.toDigits_ne_nil (b := 10) (n := n.natAbs))
  have hc : isAsciiDigit c = true := Text.isAsciiDigit_of_mem_toDigits (hcs ▸ List.mem_cons_self)
  refine ⟨c, cs, hc, ?_⟩
  by_cases hsign : n < 0
  · exact .inr (by rw [Text.decimalChars_of_neg hsign, hcs])
  · exact .inl (by rw [Text.decimalChars_of_nonneg (by omega), hcs])

end Number

section Value
variable {v : Json} {rest : List Char} {fuel : Nat}

/-- A value that can be written and read back: without fractions, with integers within the limit, and with no key
twice in an object. -/
inductive Writable : Json → Prop
  | null : Writable .null
  | bool (b : Bool) : Writable (.bool b)
  | int {n : Int} (hn : IsReadable n) : Writable (.int n)
  | str (s : String) : Writable (.str s)
  | arr {items : List Json} (hitems : ∀ item ∈ items, Writable item) : Writable (.arr items)
  | obj {members : List (String × Json)} (hkeys : (Keyed.keys members).Nodup)
      (hmembers : ∀ member ∈ members, Writable member.2) : Writable (.obj members)

/-- What follows a value inside a list or an object, or at the end, leaves the value as it is. -/
def ReadsBack (v : Json) : Prop :=
  ∀ fuel rest, (compactChars v).length ≤ fuel → EndsNumber rest →
    valueAt fuel (compactChars v ++ rest) = .ok (v, rest)

theorem endsNumber_cons {c : Char} (hdigit : isAsciiDigit c = false) (hother : c ≠ '.' ∧ c ≠ 'e' ∧ c ≠ 'E') :
    EndsNumber (c :: rest) := by
  intro d hd
  obtain rfl := Option.some.inj hd
  exact ⟨hdigit, hother⟩

theorem skipSpace_cons {c : Char} (h : isSpace c = false) : skipSpace (c :: rest) = c :: rest := by
  simp [skipSpace, h]

theorem Writable.compactChars_head (h : Writable v) :
    ∃ c cs, compactChars v = c :: cs ∧ isSpace c = false ∧ c ≠ ']' := by
  cases h with
  | null => exact ⟨'n', _, rfl, by decide⟩
  | bool b => cases b <;> exact ⟨_, _, rfl, by decide⟩
  | @int n hn =>
    obtain ⟨c, cs, hc, h | h⟩ := decimalChars_head n
    · refine ⟨c, cs, h, ?_, ?_⟩
      · by_contra hspace
        simp only [isSpace, Bool.not_eq_false, Bool.or_eq_true, decide_eq_true_eq] at hspace
        rcases hspace with ((rfl | rfl) | rfl) | rfl <;> cases hc
      · rintro rfl
        cases hc
    · exact ⟨'-', _, h, by decide⟩
  | str s => exact ⟨_, _, rfl, by decide⟩
  | arr hitems => exact ⟨_, _, rfl, by decide⟩
  | obj hkeys hmembers => exact ⟨_, _, rfl, by decide⟩

theorem Writable.exists_fuel (h : Writable v) (hfuel : (compactChars v).length ≤ fuel) : ∃ n, fuel = n + 1 := by
  obtain ⟨c, cs, hhead, _⟩ := h.compactChars_head
  rw [hhead, List.length_cons] at hfuel
  exact ⟨fuel - 1, by omega⟩

section Steps
variable {item value : Json} {key : String} {cs more after : List Char}

theorem itemsAt_last (h : valueAt fuel cs = .ok (item, ']' :: rest)) :
    itemsAt (fuel + 1) cs = .ok ([item], rest) := by
  rw [itemsAt, h]
  rfl

theorem itemsAt_more (h : valueAt fuel cs = .ok (item, ',' :: more)) {items : List Json}
    (hmore : itemsAt fuel (skipSpace more) = .ok (items, rest)) :
    itemsAt (fuel + 1) cs = .ok (item :: items, rest) := by
  rw [itemsAt, h]
  change Except.bind (itemsAt fuel (skipSpace more)) _ = _
  rw [hmore]
  rfl

theorem pairsAt_last (hkey : string cs = .ok (key, ':' :: after))
    (h : valueAt fuel (skipSpace after) = .ok (value, '\x7d' :: rest)) :
    pairsAt (fuel + 1) ('"' :: cs) = .ok ([(key, value)], rest) := by
  rw [pairsAt, hkey]
  change Except.bind (valueAt fuel (skipSpace after)) _ = _
  rw [h]
  rfl

theorem pairsAt_more (hkey : string cs = .ok (key, ':' :: after))
    (h : valueAt fuel (skipSpace after) = .ok (value, ',' :: more)) {pairs : List (String × Json)}
    (hmore : pairsAt fuel (skipSpace more) = .ok (pairs, rest)) :
    pairsAt (fuel + 1) ('"' :: cs) = .ok ((key, value) :: pairs, rest) := by
  rw [pairsAt, hkey]
  change Except.bind (valueAt fuel (skipSpace after)) _ = _
  rw [h]
  change Except.bind (pairsAt fuel (skipSpace more)) _ = _
  rw [hmore]
  rfl

end Steps

theorem compactItems_more (item next : Json) (items : List Json) :
    compactItems (item :: next :: items) = compactChars item ++ ',' :: compactItems (next :: items) := by
  rw [compactItems]
  simp

theorem compactMembers_more (key : String) (value : Json) (next : String × Json) (members : List (String × Json)) :
    compactMembers ((key, value) :: next :: members) =
      stringChars key ++ ':' :: compactChars value ++ ',' :: compactMembers (next :: members) := by
  rw [compactMembers]
  simp

theorem compactItems_head {items : List Json} (hne : items ≠ []) (hitems : ∀ item ∈ items, Writable item) :
    ∃ c cs, compactItems items = c :: cs ∧ isSpace c = false ∧ c ≠ ']' := by
  match items with
  | [] => exact absurd rfl hne
  | [item] =>
    obtain ⟨c, cs, h, hc⟩ := (hitems item (by simp)).compactChars_head
    exact ⟨c, cs ++ [']'], by rw [compactItems, h, List.cons_append], hc⟩
  | item :: next :: items =>
    obtain ⟨c, cs, h, hc⟩ := (hitems item (by simp)).compactChars_head
    exact ⟨c, cs ++ ',' :: compactItems (next :: items), by rw [compactItems_more, h, List.cons_append], hc⟩

theorem compactMembers_head {members : List (String × Json)} (hne : members ≠ []) :
    ∃ cs, compactMembers members = '"' :: cs := by
  match members with
  | [] => exact absurd rfl hne
  | [_] => exact ⟨_, rfl⟩
  | _ :: _ :: _ => exact ⟨_, rfl⟩

theorem itemsAt_compactItems {items : List Json} (hne : items ≠ []) (hitems : ∀ item ∈ items, Writable item)
    (hreads : ∀ item ∈ items, ReadsBack item) (hfuel : (compactItems items).length ≤ fuel) :
    itemsAt fuel (compactItems items ++ rest) = .ok (items, rest) := by
  induction items generalizing fuel with
  | nil => exact absurd rfl hne
  | cons item items ih =>
    obtain ⟨hread, hreads⟩ := List.forall_mem_cons.mp hreads
    obtain ⟨_, hitems⟩ := List.forall_mem_cons.mp hitems
    cases items with
    | nil =>
      simp only [compactItems, List.length_append, List.length_singleton] at hfuel
      obtain ⟨fuel, rfl⟩ := Nat.exists_eq_succ_of_ne_zero (show fuel ≠ 0 by omega)
      have hitem := hread fuel (']' :: rest) (by omega) (endsNumber_cons (by decide) (by decide))
      rw [compactItems, List.append_assoc]
      exact itemsAt_last hitem
    | cons next items =>
      rw [compactItems_more, List.length_append, List.length_cons] at hfuel
      obtain ⟨fuel, rfl⟩ := Nat.exists_eq_succ_of_ne_zero (show fuel ≠ 0 by omega)
      have hitem := hread fuel (',' :: (compactItems (next :: items) ++ rest)) (by omega)
        (endsNumber_cons (by decide) (by decide))
      have hothers := @ih fuel (by simp) hitems hreads (by omega)
      have hskip : skipSpace (compactItems (next :: items) ++ rest) = compactItems (next :: items) ++ rest := by
        obtain ⟨c, cs, hhead, hc, _⟩ := compactItems_head (by simp) hitems
        rw [hhead]
        exact skipSpace_cons hc
      rw [compactItems_more, List.append_assoc]
      apply itemsAt_more hitem
      rw [hskip]
      exact hothers

theorem pairsAt_compactMembers {members : List (String × Json)} (hne : members ≠ [])
    (hmembers : ∀ member ∈ members, Writable member.2) (hreads : ∀ member ∈ members, ReadsBack member.2)
    (hfuel : (compactMembers members).length ≤ fuel) :
    pairsAt fuel (compactMembers members ++ rest) = .ok (members, rest) := by
  induction members generalizing fuel with
  | nil => exact absurd rfl hne
  | cons member members ih =>
    obtain ⟨key, value⟩ := member
    obtain ⟨hread, hreads⟩ := List.forall_mem_cons.mp hreads
    obtain ⟨hvalue, hmembers⟩ := List.forall_mem_cons.mp hmembers
    dsimp only at hread hvalue
    have hskip : ∀ after, skipSpace (compactChars value ++ after) = compactChars value ++ after := by
      intro after
      obtain ⟨c, cs, hhead, hc, _⟩ := hvalue.compactChars_head
      rw [hhead]
      exact skipSpace_cons hc
    cases members with
    | nil =>
      simp only [compactMembers, stringChars, List.length_append, List.length_cons] at hfuel
      obtain ⟨fuel, rfl⟩ := Nat.exists_eq_succ_of_ne_zero (show fuel ≠ 0 by omega)
      have hitem := hread fuel ('\x7d' :: rest) (by omega) (endsNumber_cons (by decide) (by decide))
      rw [← hskip] at hitem
      have hlast := pairsAt_last (string_stringChars key _) hitem
      simpa [compactMembers, stringChars] using hlast
    | cons next members =>
      simp only [compactMembers_more, stringChars, List.length_append, List.length_cons] at hfuel
      obtain ⟨fuel, rfl⟩ := Nat.exists_eq_succ_of_ne_zero (show fuel ≠ 0 by omega)
      have hitem := hread fuel (',' :: (compactMembers (next :: members) ++ rest)) (by omega)
        (endsNumber_cons (by decide) (by decide))
      rw [← hskip] at hitem
      have hothers := @ih fuel (by simp) hmembers hreads (by omega)
      have hnext : skipSpace (compactMembers (next :: members) ++ rest) =
          compactMembers (next :: members) ++ rest := by
        obtain ⟨cs, hhead⟩ := compactMembers_head (List.cons_ne_nil next members)
        rw [hhead]
        exact skipSpace_cons (by decide)
      rw [← hnext] at hothers
      have hmore := pairsAt_more (string_stringChars key _) hitem hothers
      simpa [compactMembers_more, stringChars] using hmore

theorem valueAt_scalar {c : Char} {cs : List Char} (h : c ≠ '"' ∧ c ≠ '[' ∧ c ≠ '\x7b') :
    valueAt (fuel + 1) (c :: cs) = scalar (c :: cs) := by
  obtain ⟨hquote, hbracket, hbrace⟩ := h
  rw [valueAt]
  · simpa using hquote
  · simpa using hbracket
  · simpa using hbrace

theorem scalar_word {word : String × Json} (hword : word ∈ literals) :
    scalar (word.1.toList ++ rest) = .ok (word.2, rest) := by
  simp only [literals, List.mem_cons, List.not_mem_nil, or_false] at hword
  rcases hword with rfl | rfl | rfl | rfl | rfl | rfl <;> rfl

theorem valueAt_of_digit {c : Char} {cs : List Char} (h : isAsciiDigit c = true) :
    valueAt (fuel + 1) (c :: cs) = number (c :: cs) := by
  rw [← scalar_of_digit h]
  apply valueAt_scalar
  refine ⟨?_, ?_, ?_⟩ <;> (rintro rfl; cases h)

theorem valueAt_decimalChars {n : Int} (hn : IsReadable n) (hrest : EndsNumber rest) :
    valueAt (fuel + 1) (Text.decimalChars n ++ rest) = .ok (.int n, rest) := by
  rw [← number_decimalChars hn hrest]
  obtain ⟨c, cs, hc, h | h⟩ := decimalChars_head n
  · rw [h]
    exact valueAt_of_digit hc
  · rw [h]
    exact (valueAt_scalar (by decide)).trans (scalar_of_minus hc)

theorem valueAt_stringChars (s : String) : valueAt (fuel + 1) (stringChars s ++ rest) = .ok (.str s, rest) := by
  have hread := string_stringChars s rest
  simp only [stringChars, List.cons_append, List.append_assoc, List.nil_append]
  rw [valueAt, hread]
  rfl

theorem valueAt_items {items : List Json} (hne : items ≠ []) (hitems : ∀ item ∈ items, Writable item)
    (h : itemsAt fuel (compactItems items ++ rest) = .ok (items, rest)) :
    valueAt (fuel + 1) ('[' :: compactItems items ++ rest) = .ok (.arr items, rest) := by
  obtain ⟨c, cs, hhead, hspace, hclose⟩ := compactItems_head hne hitems
  have hskip : skipSpace (compactItems items ++ rest) = compactItems items ++ rest := by
    rw [hhead]
    exact skipSpace_cons hspace
  rw [List.cons_append, valueAt, hskip]
  split
  · rename_i hempty
    rw [hhead] at hempty
    cases hempty
    exact absurd rfl hclose
  · rw [h]
    rfl

theorem valueAt_members {members : List (String × Json)} (hne : members ≠ []) (hkeys : (Keyed.keys members).Nodup)
    (h : pairsAt fuel (compactMembers members ++ rest) = .ok (members, rest)) :
    valueAt (fuel + 1) ('\x7b' :: compactMembers members ++ rest) = .ok (.obj members, rest) := by
  obtain ⟨cs, hhead⟩ := compactMembers_head hne
  have hskip : skipSpace (compactMembers members ++ rest) = compactMembers members ++ rest := by
    rw [hhead]
    exact skipSpace_cons (by decide)
  rw [List.cons_append, valueAt, hskip]
  split
  · rename_i hempty
    rw [hhead] at hempty
    cases hempty
  · rw [h]
    exact congrArg (fun members => Except.ok (obj members, rest)) (Keyed.ofList_of_nodup hkeys)

/-- A value is read back, whatever stands behind it, unless it carries a number on. -/
theorem Writable.readsBack (h : Writable v) : ReadsBack v := by
  intro fuel rest hfuel hrest
  induction h generalizing fuel rest with
  | null =>
    obtain ⟨fuel, rfl⟩ := Writable.null.exists_fuel hfuel
    have hword : ("null", Json.null) ∈ literals := by simp [literals]
    exact (valueAt_scalar (by decide)).trans (scalar_word hword)
  | bool b =>
    obtain ⟨fuel, rfl⟩ := (Writable.bool b).exists_fuel hfuel
    cases b
    · have hword : ("false", Json.bool false) ∈ literals := by simp [literals]
      exact (valueAt_scalar (by decide)).trans (scalar_word hword)
    · have hword : ("true", Json.bool true) ∈ literals := by simp [literals]
      exact (valueAt_scalar (by decide)).trans (scalar_word hword)
  | int hn =>
    obtain ⟨fuel, rfl⟩ := (Writable.int hn).exists_fuel hfuel
    exact valueAt_decimalChars hn hrest
  | str s =>
    obtain ⟨fuel, rfl⟩ := (Writable.str s).exists_fuel hfuel
    exact valueAt_stringChars s
  | @arr items hitems ih =>
    obtain ⟨fuel, rfl⟩ := (Writable.arr hitems).exists_fuel hfuel
    by_cases hne : items = []
    · subst hne
      rfl
    · rw [compactChars, List.length_cons] at hfuel
      apply valueAt_items hne hitems
      exact itemsAt_compactItems hne hitems ih (by omega)
  | @obj members hkeys hmembers ih =>
    obtain ⟨fuel, rfl⟩ := (Writable.obj hkeys hmembers).exists_fuel hfuel
    by_cases hne : members = []
    · subst hne
      rfl
    · rw [compactChars, List.length_cons] at hfuel
      apply valueAt_members hne hkeys
      exact pairsAt_compactMembers hne hmembers ih (by omega)

end Value

section Plain
open AccessGate.Text (IsPlain)

theorem isPlain_decimalChars (n : Int) : ∀ c ∈ Text.decimalChars n, IsPlain c := by
  have hdigits : ∀ c ∈ Nat.toDigits 10 n.natAbs, IsPlain c := by
    intro c hc
    have hdigit := Text.isAsciiDigit_of_mem_toDigits hc
    simp only [isAsciiDigit, Bool.and_eq_true, decide_eq_true_eq] at hdigit
    unfold IsPlain
    omega
  by_cases hsign : n < 0
  · rw [Text.decimalChars_of_neg hsign]
    exact List.forall_mem_cons.mpr ⟨by decide, hdigits⟩
  · rw [Text.decimalChars_of_nonneg (by omega)]
    exact hdigits

theorem isPlain_stringChars (s : String) : ∀ c ∈ stringChars s, IsPlain c := by
  have hquote : IsPlain '"' := by decide
  intro c hc
  simp only [stringChars, List.cons_append, List.mem_cons, List.mem_append, List.mem_flatMap, List.not_mem_nil,
    or_false] at hc
  rcases hc with rfl | ⟨d, _, hd⟩ | rfl
  · exact hquote
  · exact isPlain_stringChar d c hd
  · exact hquote

theorem isPlain_compactItems {items : List Json} (h : ∀ item ∈ items, ∀ c ∈ compactChars item, IsPlain c) :
    ∀ c ∈ compactItems items, IsPlain c := by
  have hclose : IsPlain ']' := by decide
  have hcomma : IsPlain ',' := by decide
  induction items with
  | nil => simpa [compactItems] using hclose
  | cons item items ih =>
    obtain ⟨hitem, hitems⟩ := List.forall_mem_cons.mp h
    cases items with
    | nil =>
      rw [compactItems, List.forall_mem_append, List.forall_mem_singleton]
      exact ⟨hitem, hclose⟩
    | cons next items =>
      rw [compactItems_more, List.forall_mem_append, List.forall_mem_cons]
      exact ⟨hitem, hcomma, ih hitems⟩

theorem isPlain_compactMembers {members : List (String × Json)}
    (h : ∀ member ∈ members, ∀ c ∈ compactChars member.2, IsPlain c) :
    ∀ c ∈ compactMembers members, IsPlain c := by
  have hclose : IsPlain '\x7d' := by decide
  have hcomma : IsPlain ',' := by decide
  induction members with
  | nil => simpa [compactMembers] using hclose
  | cons member members ih =>
    obtain ⟨key, value⟩ := member
    obtain ⟨hvalue, hmembers⟩ := List.forall_mem_cons.mp h
    have hhead : ∀ c ∈ stringChars key ++ ':' :: compactChars value, IsPlain c := by
      rw [List.forall_mem_append, List.forall_mem_cons]
      exact ⟨isPlain_stringChars key, by decide, hvalue⟩
    cases members with
    | nil =>
      rw [compactMembers, List.forall_mem_append, List.forall_mem_singleton]
      exact ⟨hhead, hclose⟩
    | cons next members =>
      rw [compactMembers_more, List.forall_mem_append, List.forall_mem_cons]
      exact ⟨hhead, hcomma, ih hmembers⟩

/-- A value without fractions is written in printable characters, on one line. -/
theorem Writable.isPlain {v : Json} (h : Writable v) : ∀ c ∈ compactChars v, IsPlain c := by
  induction h with
  | null => exact Text.isPlain_of_all (by decide)
  | bool b => exact Text.isPlain_of_all (by decide +revert)
  | int hn => exact isPlain_decimalChars _
  | str s => exact isPlain_stringChars s
  | arr hitems ih =>
    have hopen : IsPlain '[' := by decide
    exact List.forall_mem_cons.mpr ⟨hopen, isPlain_compactItems ih⟩
  | obj hkeys hmembers ih =>
    have hopen : IsPlain '\x7b' := by decide
    exact List.forall_mem_cons.mpr ⟨hopen, isPlain_compactMembers ih⟩

end Plain

/-- The compact form of a value is read as that value. -/
theorem Writable.parse_compact {v : Json} (h : Writable v) : parse v.compact = .ok v := by
  have hread := h.readsBack (2 * (compactChars v).length + 2) [] (by omega) (by simp [EndsNumber])
  rw [List.append_nil] at hread
  obtain ⟨c, cs, hhead, hspace, _⟩ := h.compactChars_head
  have hskip : skipSpace (compactChars v) = compactChars v := by
    rw [hhead]
    exact skipSpace_cons hspace
  have hmark : (compactChars v).head? ≠ some (Char.ofNat 0xFEFF) := by
    intro hfirst
    exact absurd (h.isPlain _ (List.mem_of_mem_head? hfirst)) (by decide)
  rw [parse, compact, String.toList_ofList, parseChars, if_neg hmark, hskip]
  change Except.mapError _ (Except.bind (valueAt _ _) _) = _
  rw [hread]
  rfl

end AccessGate.Json
