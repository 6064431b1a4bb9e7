import AccessGate.Proofs.Endpoints
import AccessGate.Proofs.Text.Numeral

/-! # Targets of socket rules, written and read back

An endpoint with a host that has no bracket at either end can be written as the target of a socket rule, with its host
in brackets or without, and is read back from either. What is read from other targets, whose ports may have signs,
blanks, underscores and digits of any script, is such an endpoint too, unless it has no host. -/
namespace AccessGate

open Text (Bare IsReadable decimalChars)

variable {e : Endpoint} {host : List Char} {port : Int} {pattern : String}

/-- An endpoint that a socket pattern can lead to: a host without brackets at its ends, and a port. -/
structure Endpoint.Writable (e : Endpoint) : Prop where
  host_ne : e.host ≠ ""
  bare : Bare isBracket e.host.toList
  port_range : 0 ≤ e.port ∧ e.port ≤ 65535

def Endpoint.socketPattern (e : Endpoint) : String := "socket://" ++ e.host ++ ":" ++ Text.decimal e.port

def Endpoint.bracketPattern (e : Endpoint) : String := "socket://[" ++ e.host ++ "]:" ++ Text.decimal e.port

theorem isReadable_of_port (h : 0 ≤ port ∧ port ≤ 65535) : IsReadable port := by
  have hfive : (Nat.toDigits 10 port.natAbs).length ≤ 5 :=
    (Nat.length_toDigits_le_iff (by decide) (by decide)).mpr (by omega)
  exact hfive.trans (by decide)

theorem colon_not_mem_decimalChars (h : 0 ≤ port) : ':' ∉ decimalChars port := by
  rw [Text.decimalChars_of_nonneg h]
  intro hmem
  exact absurd (Text.isAsciiDigit_of_mem_toDigits hmem) (by decide)

/-- The port is split off at the last colon, whatever colons the host has. -/
theorem socketEndpoint_of_toList (hhost : host ≠ []) (hport : 0 ≤ port ∧ port ≤ 65535)
    (hpattern : pattern.toList = Scheme.socket.text.toList ++ (host ++ ':' :: decimalChars port)) :
    socketEndpoint pattern = .ok ⟨String.ofList (stripBrackets host), port⟩ := by
  apply Rule.socketEndpoint_eq_ok_iff.mpr
  apply socketTarget?_eq_some_iff.mpr
  exact ⟨host, decimalChars port, port, hpattern, colon_not_mem_decimalChars hport.1, hhost,
    (Text.numeral_decimalChars (isReadable_of_port hport)).readIntegerChars_eq, isPort_iff.mpr hport, rfl⟩

section Writing

theorem Endpoint.toList_socketPattern (e : Endpoint) : e.socketPattern.toList =
    Scheme.socket.text.toList ++ (e.host.toList ++ ':' :: decimalChars e.port) := by
  simp [socketPattern, Scheme.text, Text.decimal]

theorem Endpoint.toList_bracketPattern (e : Endpoint) : e.bracketPattern.toList =
    Scheme.socket.text.toList ++ (['['] ++ e.host.toList ++ [']'] ++ ':' :: decimalChars e.port) := by
  simp [bracketPattern, Scheme.text, Text.decimal]

theorem Endpoint.Writable.stripBrackets_host (h : e.Writable) : stripBrackets e.host.toList = e.host.toList := by
  rw [stripBrackets_eq, Text.strip_eq_self h.bare]

theorem Endpoint.Writable.reads_socketPattern (h : e.Writable) : socketEndpoint e.socketPattern = .ok e := by
  have hne : e.host.toList ≠ [] := by simpa using h.host_ne
  rw [socketEndpoint_of_toList hne h.port_range e.toList_socketPattern, h.stripBrackets_host, String.ofList_toList]

theorem Endpoint.Writable.reads_bracketPattern (h : e.Writable) : socketEndpoint e.bracketPattern = .ok e := by
  have hstrip : stripBrackets (['['] ++ e.host.toList ++ [']']) = e.host.toList := by
    rw [stripBrackets_eq, Text.strip_padded (by simp [isBracket]) (by simp [isBracket]), ← stripBrackets_eq,
      h.stripBrackets_host]
  rw [socketEndpoint_of_toList (by simp) h.port_range e.toList_bracketPattern, hstrip, String.ofList_toList]

end Writing

section Reading

theorem port_range_of_socketEndpoint (h : socketEndpoint pattern = .ok e) : 0 ≤ e.port ∧ e.port ≤ 65535 := by
  obtain ⟨_, _, n, _, _, _, _, hport, he⟩ := socketTarget?_eq_some_iff.mp (Rule.socketEndpoint_eq_ok_iff.mp h)
  rw [he]
  exact isPort_iff.mp hport

/-- Brackets are stripped from whatever host is read, so none is left at its ends. -/
theorem writable_of_socketEndpoint (h : socketEndpoint pattern = .ok e) (hhost : e.host ≠ "") : e.Writable := by
  refine ⟨hhost, ?_, port_range_of_socketEndpoint h⟩
  obtain ⟨host, _, _, _, _, _, _, _, he⟩ := socketTarget?_eq_some_iff.mp (Rule.socketEndpoint_eq_ok_iff.mp h)
  rw [he, String.toList_ofList, stripBrackets_eq]
  exact Text.bare_strip isBracket host

end Reading

/-- An endpoint with a host free of brackets at its ends and a port is read back from its two patterns. Every endpoint
that is read from some pattern has a port, and if it has a host, it is read back from its two patterns as well. -/
theorem socketEndpoint_round_trip :
    (∀ e : Endpoint, e.Writable → socketEndpoint e.socketPattern = .ok e ∧ socketEndpoint e.bracketPattern = .ok e) ∧
    ∀ pattern e, socketEndpoint pattern = .ok e → 0 ≤ e.port ∧ e.port ≤ 65535 ∧
      (e.host ≠ "" → socketEndpoint e.socketPattern = .ok e ∧ socketEndpoint e.bracketPattern = .ok e) := by
  have hwritten (e : Endpoint) (h : e.Writable) :
      socketEndpoint e.socketPattern = .ok e ∧ socketEndpoint e.bracketPattern = .ok e :=
    ⟨h.reads_socketPattern, h.reads_bracketPattern⟩
  refine ⟨hwritten, ?_⟩
  intro pattern e h
  obtain ⟨hlow, hhigh⟩ := port_range_of_socketEndpoint h
  refine ⟨hlow, hhigh, ?_⟩
  intro hhost
  exact hwritten e (writable_of_socketEndpoint h hhost)

def colonSample : Endpoint := ⟨"::1", 22⟩

/-- A port with a blank, a sign, an underscore and digits of two scripts is read as the same number. -/
theorem socketEndpoint_round_trip_sample : colonSample.Writable ∧
    colonSample.bracketPattern = "socket://[::1]:22" ∧ socketEndpoint "socket://[::1]:22" = .ok colonSample ∧
    socketEndpoint "socket://[::1]: +\u0662_2" = .ok colonSample ∧ colonSample.host ≠ "" ∧
    socketEndpoint colonSample.socketPattern = .ok colonSample := by
  have hread : socketEndpoint "socket://[::1]: +\u0662_2" = .ok colonSample := rfl
  have hhost : colonSample.host ≠ "" := by decide
  have hwritable := writable_of_socketEndpoint hread hhost
  obtain ⟨hwritten, hparsed⟩ := socketEndpoint_round_trip
  exact ⟨hwritable, rfl, (hwritten colonSample hwritable).2, hread, hhost, ((hparsed _ _ hread).2.2 hhost).1⟩

end AccessGate
