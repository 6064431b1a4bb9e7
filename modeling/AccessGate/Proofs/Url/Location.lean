import AccessGate.Proofs.Text.Decimal
import AccessGate.Url.Parts

/-! # Hosts and ports of URLs

The name of a host is empty exactly when nothing is written for it. The text of a port can be read exactly when it
is nothing or plain digits of a port, so what is read is never greater than the greatest port. -/
namespace AccessGate

theorem Text.lowerFrom_eq_nil_iff {before cs : List Char} : Text.lowerFrom before cs = [] ↔ cs = [] := by
  cases cs with
  | nil => simp [Text.lowerFrom]
  | cons c after =>
    have hchar : Text.lowerChar before c after ≠ [] := by
      unfold Text.lowerChar
      split
      · simp
      · split
        · simp
        · split <;> simp
    simp [Text.lowerFrom, hchar]

namespace Url

/-- `fault.Words words`: what is said of a URL that cannot be taken apart. -/
inductive Fault.Words : Fault → String → Prop
  | notHttps : Words .notHttps "Can only invoke on HTTPS rules"
  | brackets : Words .brackets "Invalid IPv6 URL"
  | futureAddress : Words .futureAddress "IPvFuture address is invalid"
  | notAnAddress (host : String) :
    Words (.notAnAddress host) s!"{Text.quoted host} does not appear to be an IPv4 or IPv6 address"
  | bracketedIPv4 : Words .bracketedIPv4 "An IPv4 address cannot be in brackets"
  | disguisedDelimiter (authority : String) : Words (.disguisedDelimiter authority)
    s!"netloc '{authority}' contains invalid characters under NFKC normalization"
  | portNotNumber (port : String) :
    Words (.portNotNumber port) s!"Port could not be cast to integer value as {Text.quoted port}"
  | portTooLong (digits : Nat) : Words (.portTooLong digits)
    (s!"Exceeds the limit (4300 digits) for integer string conversion: value has {digits} " ++
      "digits; use sys.set_int_max_str_digits() to increase the limit")
  | portOutOfRange : Words .portOutOfRange "Port out of range 0-65535"

theorem Fault.words_iff {fault : Fault} {words : String} : fault.Words words ↔ fault.message = words := by
  constructor
  · intro h
    cases h <;> rfl
  · intro h
    subst h
    cases fault <;> constructor

end Url

namespace Url.Location
variable {l : Url.Location}

theorem hostName_eq_empty_iff : l.hostName = "" ↔ l.host = [] := by
  have hsplit := List.takeWhile_append_dropWhile (p := (· ≠ '%')) (l := l.host)
  rw [hostName, String.ofList_eq_empty_iff, List.append_eq_nil_iff, Text.lowerChars, Text.lowerFrom_eq_nil_iff,
    Url.before]
  constructor
  · intro h
    rw [← hsplit, h.1, h.2]
    rfl
  · intro h
    simp [h]

/-- A text that may stand for a port: nothing, or plain digits, not too many, of a number that is a port. -/
structure IsPortText (port : List Char) : Prop where
  digits : ∀ c ∈ port, c.isDigit = true
  length : port.length ≤ 4300
  value : Nat.ofDigitChars 10 port 0 ≤ 65535

theorem isPortText_iff {port : List Char} : IsPortText port ↔ port.all Text.isAsciiDigit = true ∧
    port.length ≤ Text.digitLimit ∧ Text.digitsValue (port.map fun c => c.toNat - 0x30) ≤ maxPort := by
  rw [Text.digitsValue_map, List.all_eq_true]
  simp only [Text.isAsciiDigit_eq_isDigit]
  exact ⟨fun h => ⟨h.digits, h.length, h.value⟩, fun h => ⟨h.1, h.2.1, h.2.2⟩⟩

theorem portNumber?_eq_ok_iff {n : Option Nat} : l.portNumber? = .ok n ↔
    IsPortText l.port ∧ (if l.port = [] then none else some (Nat.ofDigitChars 10 l.port 0)) = n := by
  rw [isPortText_iff, portNumber?, ← Text.digitsValue_map]
  by_cases hempty : l.port = []
  · simp [hempty, Text.digitsValue]
  · by_cases hdigits : l.port.all Text.isAsciiDigit = true
    · by_cases hlong : Text.digitLimit < l.port.length
      · simp [hempty, hdigits, hlong, Nat.not_le.mpr hlong]
      · by_cases hport : Text.digitsValue (l.port.map fun c => c.toNat - 0x30) ≤ maxPort
        · simp [hempty, hdigits, hlong, hport, Nat.not_lt.mp hlong]
        · simp [hempty, hdigits, hlong, hport]
    · simp [hempty, hdigits]

theorem exists_portNumber?_iff : (∃ n, l.portNumber? = .ok n) ↔ IsPortText l.port := by
  simp [portNumber?_eq_ok_iff]

theorem portNumber?_le {n : Nat} (h : l.portNumber? = .ok (some n)) : n ≤ maxPort := by
  obtain ⟨hport, hn⟩ := portNumber?_eq_ok_iff.mp h
  split at hn
  · cases hn
  · cases hn
    exact hport.value

end Url.Location
end AccessGate
