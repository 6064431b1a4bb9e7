import AccessGate.Proofs.Routing
import AccessGate.Proofs.Text.Strip
import AccessGate.Proofs.Url.Grammar

/-! # Endpoints of valid rules

The endpoint of a valid rule has the number of a port, from wherever it comes. It has a host as well, but for
two ways to write none: an expression over `https://` may name no host, and is let pass as it stands; and the
host of a socket rule may be made of brackets alone, which are taken off only after the host was looked at. -/
namespace AccessGate

section Splitting
variable {mark : Char} {cs before after : List Char}

theorem splitLast?_append (h : mark ∉ after) :
    splitLast? mark (before ++ mark :: after) = some (before, after) := by
  have hrev : (before ++ mark :: after).reverse = after.reverse ++ mark :: before.reverse := by simp
  have hmark : mark ∉ after.reverse := by simpa using h
  obtain ⟨htake, hdrop⟩ := Url.takeWhile_dropWhile_iff.mpr ⟨hrev, Url.forall_ne_iff.mpr hmark, by simp⟩
  rw [splitLast?, Url.afterLast, Url.before, hdrop, htake]
  simp

theorem splitLast?_eq_some_iff :
    splitLast? mark cs = some (before, after) ↔ cs = before ++ mark :: after ∧ mark ∉ after := by
  constructor
  · intro h
    by_cases hmark : mark ∈ cs
    · obtain ⟨last, first, hrev, hlast⟩ := List.eq_append_cons_of_mem (List.mem_reverse.mpr hmark)
      have hcs : cs = first.reverse ++ mark :: last.reverse := by
        rw [← List.reverse_reverse cs, hrev]
        simp
      have hlast' : mark ∉ last.reverse := by simpa using hlast
      rw [hcs, splitLast?_append hlast'] at h
      cases h
      exact ⟨hcs, hlast'⟩
    · have hdrop : cs.reverse.dropWhile (· ≠ mark) = [] :=
        List.dropWhile_eq_nil_iff.mpr (Url.forall_ne_iff.mpr (by simpa using hmark))
      rw [splitLast?, hdrop] at h
      cases h
  · intro h
    obtain ⟨rfl, hmark⟩ := h
    exact splitLast?_append hmark

theorem stripBrackets_eq (cs : List Char) : stripBrackets cs = Text.strip isBracket cs := rfl

theorem stripBrackets_eq_nil_iff : stripBrackets cs = [] ↔ ∀ c ∈ cs, isBracket c = true := by
  rw [stripBrackets_eq, Text.strip_eq_nil_iff]

/-- A socket pattern writes a target when it has a host before its last colon and a port behind it. -/
theorem socketTarget?_eq_some_iff {e : Endpoint} : socketTarget? cs = some e ↔
    ∃ host port n, cs = Scheme.socket.text.toList ++ (host ++ ':' :: port) ∧ ':' ∉ port ∧ host ≠ [] ∧
      Text.readIntegerChars port = .ok n ∧ isPort n = true ∧ e = ⟨String.ofList (stripBrackets host), n⟩ := by
  simp only [socketTarget?, Option.bind_eq_bind, Option.bind_eq_some_iff]
  constructor
  · intro h
    obtain ⟨rest, hrest, ⟨host, port⟩, hsplit, n, hn, he⟩ := h
    obtain ⟨rfl, hcolon⟩ := splitLast?_eq_some_iff.mp hsplit
    have hread : Text.readIntegerChars port = .ok n := by
      cases hport : Text.readIntegerChars port <;> simp_all [Except.toOption]
    by_cases hrefused : host.isEmpty || !isPort n
    · simp [hrefused] at he
    · rw [if_neg hrefused] at he
      simp only [Bool.or_eq_true, List.isEmpty_iff, Bool.not_eq_true', not_or, Bool.not_eq_false] at hrefused
      exact ⟨host, port, n, (List.append_eq_of_isPrefixOf?_eq_some hrest).symm, hcolon, hrefused.1, hread,
        hrefused.2, (Option.some.inj he).symm⟩
  · intro h
    obtain ⟨host, port, n, rfl, hcolon, hhost, hread, hport, rfl⟩ := h
    refine ⟨_, List.isPrefixOf?_eq_some_iff_append_eq.mpr rfl, (host, port), splitLast?_append hcolon, n, ?_, ?_⟩
    · rw [hread]
      rfl
    · simp [hhost, hport]

end Splitting

namespace Rule
variable {loopback : String} {r : Rule} {e : Endpoint}

/-- An expression over `https://` without a local port, whose URL names no host. -/
def Hostless (r : Rule) : Prop :=
  r.IsExpression ∧ r.scheme? = some .https ∧ r.httpProxyPort = none ∧
    ∃ pattern parts, r.pattern = some pattern ∧ urlParts .https (Text.trim pattern) = .ok parts ∧
      parts.location.host = []

/-- The pattern of a socket rule has nothing but square brackets for a host. -/
def HostOfBrackets (r : Rule) : Prop :=
  ∃ pattern host port, r.pattern = some pattern ∧
    (Text.trim pattern).toList = Scheme.socket.text.toList ++ (host ++ ':' :: port) ∧ ':' ∉ port ∧
      ∀ c ∈ host, isBracket c = true

theorem httpsPort_le {n : Nat} (h : r.httpsPort = .ok n) : n ≤ maxPort := by
  simp only [httpsPort, bind_eq_ok_iff] at h
  obtain ⟨parts, _, port, hport, hn⟩ := h
  have hdefault : defaultHttpsPort ≤ maxPort := by decide
  split at hn
  · cases hn
    exact hdefault
  · cases hn
    exact hdefault
  · cases hn
    exact Url.Location.portNumber?_le hport

/-- Wherever the credential of a rule with a fit local port leads, it leads to a port. -/
theorem LeadsTo.isPort (h : r.LeadsTo loopback e) (hlocal : r.checkHttpProxyPort = .ok ()) :
    isPort e.port = true := by
  cases h with
  | socket _ _ htarget =>
    obtain ⟨_, _, n, _, _, _, _, hport, rfl⟩ :=
      socketTarget?_eq_some_iff.mp (socketEndpoint_eq_ok_iff.mp htarget)
    exact hport
  | @localPort port _ hport =>
    rw [checkHttpProxyPort, hport] at hlocal
    by_cases hrange : AccessGate.isPort port = true
    · exact hrange
    · simp [hrange] at hlocal
  | @https _ port _ _ _ hnumber =>
    have hle := httpsPort_le hnumber
    simp only [AccessGate.isPort, Bool.and_eq_true, decide_eq_true_eq]
    omega

theorem LeadsTo.host_ne_empty_of_socket {pattern : String} (hpattern : r.pattern = some pattern)
    (hbrackets : ¬r.HostOfBrackets) (htarget : socketEndpoint (Text.trim pattern) = .ok e) : e.host ≠ "" := by
  obtain ⟨host, port, n, hcs, hcolon, _, _, _, rfl⟩ :=
    socketTarget?_eq_some_iff.mp (socketEndpoint_eq_ok_iff.mp htarget)
  intro hempty
  have hall := stripBrackets_eq_nil_iff.mp (String.ofList_eq_empty_iff.mp hempty)
  exact hbrackets ⟨pattern, host, port, hpattern, hcs, hcolon, hall⟩

theorem hostless_iff_of_https (hvalid : r.check = .ok ()) (hscheme : r.scheme? = some .https)
    (hport : r.httpProxyPort = none) {host : String} (hhost : r.httpsHost = .ok host) :
    host = "" ↔ r.Hostless := by
  obtain ⟨pattern, hpattern⟩ := pattern_of_scheme? hscheme
  rw [httpsHost, map_eq_ok_iff, httpsParts_eq hpattern hscheme] at hhost
  obtain ⟨parts, hparts, rfl⟩ := hhost
  rw [Url.Location.hostName_eq_empty_iff]
  constructor
  · intro hempty
    refine ⟨?_, hscheme, hport, pattern, parts, hpattern, hparts, hempty⟩
    rcases checkHostPort_or_isExpression hvalid hpattern hscheme with hcheck | hexpression
    · obtain ⟨parts', hparts', _, hhost, _⟩ := checkHostPort_eq_ok_iff.mp hcheck
      cases hparts.symm.trans hparts'
      exact absurd hempty hhost
    · exact hexpression
  · intro h
    obtain ⟨_, _, _, pattern', parts', hpattern', hparts', hempty⟩ := h
    cases hpattern.symm.trans hpattern'
    cases hparts.symm.trans hparts'
    exact hempty

theorem LeadsTo.host_eq_empty_iff (h : r.LeadsTo loopback e) (hvalid : r.check = .ok ())
    (hloopback : loopback ≠ "") (hbrackets : ¬r.HostOfBrackets) : e.host = "" ↔ r.Hostless := by
  cases h with
  | socket hpattern hscheme htarget =>
    constructor
    · intro hempty
      exact absurd hempty (host_ne_empty_of_socket hpattern hbrackets htarget)
    · intro hhostless
      rw [hhostless.2.1] at hscheme
      cases hscheme
  | localPort _ hport =>
    constructor
    · intro hempty
      exact absurd hempty hloopback
    · intro hhostless
      rw [hhostless.2.2.1] at hport
      cases hport
  | https hscheme hport hhost _ => exact hostless_iff_of_https hvalid hscheme hport hhost

end Rule

namespace RuleSet
variable {rules : List Rule} {loopback : String} {credentials : List Credential}

/-- The credentials of rules that are fit to be served lead to ports. Leaving aside socket rules whose host is
made of brackets, of which nothing is said, they lead to a host as well, unless the rule is an expression over
`https://` without a local port whose URL names no host. -/
theorem endpoints_of_validateRuntime (h : validateRuntime rules = .ok ()) (hloopback : loopback ≠ "")
    (hproject : projectCredentials loopback rules = .ok credentials) :
    List.Forall₂ (fun r c => r.Grants loopback c ∧ 0 ≤ c.2.port ∧ c.2.port ≤ 65535 ∧
      (¬r.HostOfBrackets → (c.2.host = "" ↔ r.Hostless))) rules credentials := by
  have hfit := (validateRuntime_eq_ok_iff.mp h).2
  have hgrants := (projectCredentials_eq_ok_iff.mp hproject).1
  refine ((List.forall₂_and_left _ _).mpr ⟨hfit, hgrants⟩).imp fun r c hc => ?_
  obtain ⟨hruntime, hgrant⟩ := hc
  obtain ⟨hvalid, hlocal, _, _⟩ := Rule.checkRuntime_eq_ok_iff.mp hruntime
  have hport := isPort_iff.mp (hgrant.2.isPort hlocal)
  exact ⟨hgrant, hport.1, hport.2, hgrant.2.host_eq_empty_iff hvalid hloopback⟩

section Sample

open AccessGate.Agent (sampleRule)

def hostlessSample : Rule :=
  { sampleRule 1 "https://:8443" .regex with socksServerPort := some 1080, secretKey := some "k" }

/-- Rules that are fit to be served may have a credential that leads to no host. -/
theorem endpoint_without_host : validateRuntime [hostlessSample] = .ok () ∧ loopbackAddress ≠ "" ∧
    ∃ credentials, projectCredentials loopbackAddress [hostlessSample] = .ok credentials ∧
      ¬∀ c ∈ credentials, c.2.host ≠ "" ∧ 0 ≤ c.2.port ∧ c.2.port ≤ 65535 := by
  refine ⟨rfl, by decide, [("k", ⟨"", 8443⟩)], rfl, fun h => ?_⟩
  exact (h _ List.mem_cons_self).1 rfl

def readySample : List Rule :=
  [hostlessSample,
    { sampleRule 2 "socket://[::1]:22" .hostPort with socksServerPort := some 1080, secretKey := some "l" },
    { sampleRule 3 "http://wiki" .urlExact with
      socksServerPort := some 1080, secretKey := some "m", httpProxyPort := some 40000 }]

theorem endpoints_of_validateRuntime_sample : ∃ credentials,
    validateRuntime readySample = .ok () ∧ loopbackAddress ≠ "" ∧
    projectCredentials loopbackAddress readySample = .ok credentials ∧
    List.Forall₂ (fun r c => r.Grants loopbackAddress c ∧ 0 ≤ c.2.port ∧ c.2.port ≤ 65535 ∧
      (¬r.HostOfBrackets → (c.2.host = "" ↔ r.Hostless))) readySample credentials :=
  ⟨_, rfl, by decide, rfl, endpoints_of_validateRuntime rfl (by decide) rfl⟩

end Sample

end RuleSet
end AccessGate
