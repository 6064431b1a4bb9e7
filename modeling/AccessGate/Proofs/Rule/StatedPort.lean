import AccessGate.Proofs.Rule.Https

/-! # Ports that URLs state

A URL over `https://` may state a port behind its host. The host and the port are read back from the pattern that is
written of them, but for the port zero: zero is taken for no port at all, although it passes the checks. -/
namespace AccessGate

namespace Url

/-- The characters of host names in their usual form, which no part of a URL is set off by. -/
def IsHostChar (c : Char) : Prop := c.isLower = true ∨ c.isDigit = true ∨ c = '-' ∨ c = '.'

instance : DecidablePred IsHostChar := fun _ => inferInstanceAs (Decidable (_ ∨ _))

section HostChars
variable {c : Char} {cs port : List Char}

theorem IsHostChar.toNat_lt (h : IsHostChar c) : c.toNat < 128 := by
  rcases h with hlower | hdigit | rfl | rfl
  · have hrange : (decide (c.val ≥ 'a'.val) && decide (c.val ≤ 'z'.val)) = true := hlower
    simp only [UInt32.le_iff_toNat_le, Bool.and_eq_true, decide_eq_true_eq] at hrange
    exact Nat.lt_of_le_of_lt hrange.2 (by decide)
  · exact Nat.lt_of_le_of_lt (Char.isDigit_iff_toNat.mp hdigit).2 (by decide)
  · decide
  · decide

theorem IsHostChar.forall_code {P : Char → Prop} (h : IsHostChar c)
    (hP : ∀ n < 128, IsHostChar (Char.ofNat n) → P (Char.ofNat n)) : P c :=
  Text.forall_code_lt (P := fun c => IsHostChar c → P c) hP h.toNat_lt h

theorem IsHostChar.not_isBlank (h : IsHostChar c) : Text.isBlank c = false :=
  h.forall_code (P := fun c => Text.isBlank c = false) (by decide +kernel)

theorem IsHostChar.ne {d : Char} (h : IsHostChar c) (hd : ¬IsHostChar d) : c ≠ d := by
  intro heq
  exact hd (heq ▸ h)

theorem IsHostChar.not_disguised (h : IsHostChar c) : c.toNat ∉ disguisedDelimiters :=
  h.forall_code (P := fun c => c.toNat ∉ disguisedDelimiters) (by decide +kernel)

theorem IsHostChar.lowerChar_eq (h : IsHostChar c) (before after : List Char) :
    Text.lowerChar before c after = [c] := by
  have hshift : Text.lowerShift? c.toNat = none :=
    h.forall_code (P := fun c => Text.lowerShift? c.toNat = none) (by decide +kernel)
  rw [Text.lowerChar, if_neg (h.ne (by decide)), if_neg (h.ne (by decide)), hshift]

theorem lowerFrom_of_forall_isHostChar (h : ∀ c ∈ cs, IsHostChar c) (before : List Char) :
    Text.lowerFrom before cs = cs := by
  induction cs generalizing before with
  | nil => rfl
  | cons c cs ih =>
    obtain ⟨hc, hcs⟩ := List.forall_mem_cons.mp h
    rw [Text.lowerFrom, hc.lowerChar_eq, ih hcs]
    rfl

theorem hostName_of_forall_isHostChar (h : ∀ c ∈ cs, IsHostChar c) :
    (Location.mk cs port).hostName = String.ofList cs := by
  have hpercent : ∀ c ∈ cs, decide (c ≠ '%') = true := fun c hc => by
    simpa using (h c hc).ne (by decide)
  have hbefore : before '%' cs = cs := by
    rw [before, List.takeWhile_eq_self_iff]
    exact hpercent
  have hzone : cs.dropWhile (· ≠ '%') = [] := List.dropWhile_eq_nil_iff.mpr hpercent
  rw [Location.hostName, hbefore, hzone, Text.lowerChars, lowerFrom_of_forall_isHostChar h, List.append_nil]

end HostChars

/-- What stands behind a host for the port that is stated, if one is. -/
def portChars : Option Nat → List Char
  | none => []
  | some port => ':' :: Nat.toDigits 10 port

/-- The URL over `https://` of a host, with a port if one is stated, and with or without a slash at its end. -/
def ofHost (host : String) (stated : Option Nat) (slash : Bool) : String :=
  let port := (stated.map fun port => s!":{Text.decimal port}").getD ""
  let ending := if slash then "/" else ""
  s!"{Scheme.https.text}{host}{port}{ending}"

section Written
variable {host : List Char} {stated : Option Nat} {c : Char}

theorem toList_ofHost (host : String) (stated : Option Nat) (slash : Bool) : (ofHost host stated slash).toList =
    Scheme.https.text.toList ++ ((host.toList ++ portChars stated) ++ if slash then ['/'] else []) := by
  cases stated <;> cases slash <;> simp [ofHost, portChars, Text.decimal, Text.decimalChars, toString]

theorem isHostChar_of_mem_authority (hhost : ∀ c ∈ host, IsHostChar c) (hc : c ∈ host ++ portChars stated)
    (hcolon : c ≠ ':') : IsHostChar c := by
  rcases List.mem_append.mp hc with hc | hc
  · exact hhost c hc
  · cases stated with
    | none => simp [portChars] at hc
    | some port =>
      have hdigit : c ∈ Nat.toDigits 10 port := (List.mem_cons.mp hc).resolve_left hcolon
      exact .inr (.inl (Nat.isDigit_of_mem_toDigits (by decide) (by decide) hdigit))

theorem not_mem_authority (hhost : ∀ c ∈ host, IsHostChar c) {d : Char} (hd : ¬IsHostChar d) (hcolon : d ≠ ':') :
    d ∉ host ++ portChars stated :=
  fun hmem => hd (isHostChar_of_mem_authority hhost hmem hcolon)

theorem ofAuthority_written (hhost : ∀ c ∈ host, IsHostChar c) :
    Location.ofAuthority (host ++ portChars stated) = ⟨host, (portChars stated).tail⟩ := by
  refine ofAuthority_eq_iff.mpr ⟨_, ⟨?_, .inl rfl⟩, .colon ?_ ⟨?_, ?_⟩⟩
  · exact not_mem_authority hhost (by decide) (by decide)
  · exact not_mem_authority hhost (by decide) (by decide)
  · exact fun hmem => absurd (hhost ':' hmem) (by decide)
  · cases stated with
    | none => exact .inr ⟨by simp [portChars], rfl⟩
    | some port => exact .inl rfl

theorem checkBrackets_written (hhost : ∀ c ∈ host, IsHostChar c) :
    checkBrackets (host ++ portChars stated) = .ok () := by
  have hopen : '[' ∉ host ++ portChars stated := not_mem_authority hhost (by decide) (by decide)
  have hclose : ']' ∉ host ++ portChars stated := not_mem_authority hhost (by decide) (by decide)
  simp only [checkBrackets, List.contains_eq_mem, hopen, hclose]
  rfl

theorem checkDelimiters_written (hhost : ∀ c ∈ host, IsHostChar c) :
    checkDelimiters (host ++ portChars stated) = .ok () := by
  have hplain : ∀ c ∈ host ++ portChars stated, c.toNat ∉ disguisedDelimiters := by
    intro c hc
    by_cases hcolon : c = ':'
    · subst hcolon
      decide
    · exact (isHostChar_of_mem_authority hhost hc hcolon).not_disguised
  rw [checkDelimiters, if_neg]
  simpa [or_imp, forall_and] using hplain

theorem not_isBlank_of_mem_ofHost {host : String} {slash : Bool} (hhost : ∀ c ∈ host.toList, IsHostChar c)
    (hc : c ∈ (ofHost host stated slash).toList) : Text.isBlank c = false := by
  have hscheme : ∀ c ∈ Scheme.https.text.toList, Text.isBlank c = false := Text.forall_not_blank_of_all rfl
  rw [toList_ofHost] at hc
  rcases List.mem_append.mp hc with hc | hc
  · exact hscheme c hc
  · rcases List.mem_append.mp hc with hc | hc
    · by_cases hcolon : c = ':'
      · rw [hcolon]
        rfl
      · exact (isHostChar_of_mem_authority hhost hc hcolon).not_isBlank
    · cases slash with
      | false => cases hc
      | true =>
        rw [List.mem_singleton.mp hc]
        rfl

theorem split_written (hhost : ∀ c ∈ host, IsHostChar c) (slash : Bool) :
    split ((host ++ portChars stated) ++ if slash then ['/'] else []) =
      .ok ⟨⟨host, (portChars stated).tail⟩, if slash then ['/'] else []⟩ := by
  have hchars : ∀ c ∈ host ++ portChars stated, isLineBreak c = false ∧ endsAuthority c = false := by
    intro c hc
    by_cases hcolon : c = ':'
    · subst hcolon
      decide
    · have h := isHostChar_of_mem_authority hhost hc hcolon
      exact h.forall_code (P := fun c => isLineBreak c = false ∧ endsAuthority c = false) (by decide +kernel)
  have hslash : ∀ c ∈ if slash then ['/'] else [], c = '/' := by cases slash <;> simp
  rw [split_eq_ok_iff]
  · refine ⟨host ++ portChars stated, [], by simp, fun c hc => (hchars c hc).2, ?_, ?_, by simp,
      checkBrackets_written hhost, checkDelimiters_written hhost, (ofAuthority_written hhost).symm⟩
    · exact fun c hc => hslash c (List.mem_of_head? hc)
    · intro c hc
      rw [hslash c hc]
      rfl
  · intro c hc
    rcases List.mem_append.mp hc with hc | hc
    · exact (hchars c hc).1
    · rw [hslash c hc]
      rfl

theorem portNumber?_written (hport : ∀ port ∈ stated, port ≤ 65535) :
    (Location.mk host (portChars stated).tail).portNumber? = .ok stated := by
  apply Location.portNumber?_eq_ok_iff.mpr
  cases stated with
  | none => exact ⟨⟨by simp [portChars], by simp [portChars], by simp [portChars]⟩, rfl⟩
  | some port =>
    have hle : port ≤ 65535 := hport port rfl
    have hvalue : Nat.ofDigitChars 10 (Nat.toDigits 10 port) 0 = port :=
      Nat.ofDigitChars_toDigits (by decide) (by decide)
    have hlength : (Nat.toDigits 10 port).length ≤ 5 :=
      (Nat.length_toDigits_le_iff (by decide) (by decide)).mpr (by omega)
    refine ⟨⟨?_, ?_, ?_⟩, ?_⟩
    · exact fun c hc => Nat.isDigit_of_mem_toDigits (by decide) (by decide) hc
    · exact hlength.trans (by decide)
    · exact hvalue.trans_le hle
    · exact (if_neg Nat.toDigits_ne_nil).trans (congrArg some hvalue)

end Written

end Url

namespace Rule
variable {r : Rule} {host : String} {stated : Option Nat} {slash : Bool}

section Written
variable (hhost : ∀ c ∈ host.toList, Url.IsHostChar c)
include hhost

theorem urlParts_ofHost : urlParts .https (Url.ofHost host stated slash) =
    .ok ⟨⟨host.toList, (Url.portChars stated).tail⟩, if slash then ['/'] else []⟩ := by
  rw [urlParts, Url.toList_ofHost, ← String.length_toList, List.drop_left, Url.split_written hhost]

theorem trim_ofHost : Text.trim (Url.ofHost host stated slash) = Url.ofHost host stated slash :=
  Text.trim_of_forall_not_blank fun _ hc => Url.not_isBlank_of_mem_ofHost hhost hc

theorem opens_of_ofHost (hpattern : r.pattern = some (Url.ofHost host stated slash)) : r.Opens .https := by
  refine ⟨_, hpattern, ?_⟩
  rw [trim_ofHost hhost, Url.toList_ofHost]
  exact List.prefix_append _ _

theorem httpsParts_ofHost (hpattern : r.pattern = some (Url.ofHost host stated slash)) : r.httpsParts =
    .ok ⟨⟨host.toList, (Url.portChars stated).tail⟩, if slash then ['/'] else []⟩ := by
  rw [httpsParts_eq hpattern (scheme?_eq_some_iff.mpr (opens_of_ofHost hhost hpattern)), trim_ofHost hhost,
    urlParts_ofHost hhost]

end Written

/-- A URL that is written of a host and a port stands for both. The host is read back from it, and so is the port
unless it is zero: of zero, as of a URL without a port, 443 is read, and the credential leads there. -/
theorem httpsPort_ofHost_iff (hne : host ≠ "") (hhost : ∀ c ∈ host.toList, Url.IsHostChar c)
    (hstated : ∀ port ∈ stated, port ≤ 65535) (hpattern : r.pattern = some (Url.ofHost host stated slash)) :
    checkPatternType (Url.ofHost host stated slash) .hostPort .https = .ok () ∧ r.httpsHost = .ok host ∧
    ∃ port, r.httpsPort = .ok port ∧ (∀ n, stated = some n → (port = n ↔ n ≠ 0)) ∧
      (port = 443 ↔ stated = none ∨ stated = some 0 ∨ stated = some 443) ∧
      ∀ key loopback, r.secretKey = some key → r.httpProxyPort = none →
        projectCredentials loopback [r] = .ok [(key, ⟨host, port⟩)] := by
  have hnumber : (Url.Location.mk host.toList (Url.portChars stated).tail).portNumber? = .ok stated :=
    Url.portNumber?_written hstated
  have hparts := httpsParts_ofHost hhost hpattern
  have hname : r.httpsHost = .ok host := by
    rw [httpsHost, hparts]
    exact congrArg _ ((Url.hostName_of_forall_isHostChar hhost).trans (String.ofList_toList))
  have hport : r.httpsPort = .ok (if stated.getD 0 = 0 then 443 else stated.getD 0) :=
    httpsPort_of_parts hparts hnumber
  refine ⟨?_, hname, _, hport, ?_, ?_, fun key loopback hkey hlocal => ?_⟩
  · rw [checkPatternType_hostPort (by decide), checkHostPort_eq_ok_iff]
    refine ⟨_, urlParts_ofHost hhost, ⟨_, hnumber⟩, ?_, ?_⟩
    · simpa using hne
    · cases slash <;> simp
  · rintro n rfl
    by_cases hzero : n = 0 <;> simp [hzero]
  · cases stated with
    | none => simp
    | some n => by_cases hzero : n = 0 <;> simp [hzero]
  · have hscheme := scheme?_eq_some_iff.mpr (opens_of_ofHost hhost hpattern)
    exact projectCredentials_singleton hkey hscheme hlocal hname hport

section Sample

open AccessGate.Agent (sampleRule)

def zeroPortSample : Rule :=
  { sampleRule 1 (Url.ofHost "tls.corp" (some 0) false) .hostPort with secretKey := some "k" }

/-- A valid rule that states the port zero is served at a port that its author did not write. -/
theorem stated_port_zero_lost : "tls.corp" ≠ "" ∧ (∀ c ∈ "tls.corp".toList, Url.IsHostChar c) ∧
    zeroPortSample.pattern = some (Url.ofHost "tls.corp" (some 0) false) ∧ zeroPortSample.validate = .ok () ∧
    zeroPortSample.httpsPort = .ok 443 ∧ zeroPortSample.httpsPort ≠ .ok 0 ∧
    projectCredentials loopbackAddress [zeroPortSample] = .ok [("k", ⟨"tls.corp", 443⟩)] := by
  have hport : zeroPortSample.httpsPort = .ok 443 := rfl
  refine ⟨by decide, by simp; decide, rfl, rfl, hport, ?_, rfl⟩
  rw [hport]
  simp

def greatestPortSample : Rule := sampleRule 1 (Url.ofHost "a-1.corp" (some 65535) true) .hostPort

theorem httpsPort_ofHost_sample : "a-1.corp" ≠ "" ∧ (∀ c ∈ "a-1.corp".toList, Url.IsHostChar c) ∧
    (∀ port ∈ some 65535, port ≤ 65535) ∧
    greatestPortSample.pattern = some (Url.ofHost "a-1.corp" (some 65535) true) ∧
    greatestPortSample.httpsHost = .ok "a-1.corp" ∧ greatestPortSample.httpsPort = .ok 65535 := by
  have hchars : ∀ c ∈ "a-1.corp".toList, Url.IsHostChar c := by simp; decide
  have hport : ∀ port ∈ some 65535, port ≤ 65535 := by simp
  obtain ⟨_, hhost, port, hread, hsame, _⟩ :=
    httpsPort_ofHost_iff (r := greatestPortSample) (by decide) hchars hport rfl
  rw [(hsame 65535 rfl).mpr (by decide)] at hread
  exact ⟨by decide, hchars, hport, rfl, hhost, hread⟩

end Sample

end Rule
end AccessGate
