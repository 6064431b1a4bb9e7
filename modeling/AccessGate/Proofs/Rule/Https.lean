import AccessGate.Proofs.Endpoints
import AccessGate.Proofs.Rule.Pattern

/-! # Where valid rules over https lead

The URL of a rule is taken apart twice: when the rule is checked, and when its host and port are asked for. Both times
it is the trimmed pattern that is read, so what was checked of it is so wherever the credential leads. -/
namespace AccessGate.Rule

variable {r : Rule} {host loopback key : String} {port : Nat}

theorem httpsPort_pos (h : r.httpsPort = .ok port) : 1 ≤ port := by
  simp only [httpsPort, bind_eq_ok_iff] at h
  obtain ⟨parts, _, number?, _, hport⟩ := h
  rcases number? with _ | _ | n
  all_goals
    cases hport
    simp [defaultHttpsPort]

theorem exists_httpsParts_of_check (hvalid : r.check = .ok ()) (hscheme : r.Opens .https)
    (htype : r.HasType .hostPort) : ∃ parts number?, r.httpsParts = .ok parts ∧
      parts.location.portNumber? = .ok number? ∧ parts.location.host ≠ [] := by
  have hfound := scheme?_eq_some_iff.mpr hscheme
  obtain ⟨pattern, hpattern, _⟩ := hscheme
  -- The check read the same text, unless the rule is an expression, which has another type.
  rcases checkHostPort_or_isExpression hvalid hpattern hfound with hcheck | ⟨field, hfield, hregex⟩
  · obtain ⟨parts, hparts, ⟨number?, hport⟩, hhost, _⟩ := checkHostPort_eq_ok_iff.mp hcheck
    exact ⟨parts, number?, (httpsParts_eq hpattern hfound).trans hparts, hport, hhost⟩
  · cases htype.unique ⟨field, hfield, PatternTypeField.read_eq_ok_iff.mp hregex⟩

theorem projectCredentials_singleton (hkey : r.secretKey = some key) (hscheme : r.scheme? = some .https)
    (hlocal : r.httpProxyPort = none) (hhost : r.httpsHost = .ok host) (hport : r.httpsPort = .ok port) :
    projectCredentials loopback [r] = .ok [(key, ⟨host, port⟩)] := by
  rw [projectCredentials_eq_ok_iff]
  refine ⟨.cons ⟨hkey, .https hscheme hlocal hhost hport⟩ .nil, ?_⟩
  simp [Keyed.keys]

/-- A valid rule over `https://` that is for a host and port has both, and if it has a key and no local port, its
credential leads there. -/
theorem https_endpoint_of_validate (hscheme : r.Opens .https) (htype : r.HasType .hostPort)
    (hvalid : r.validate = .ok ()) :
    ∃ host port, r.httpsHost = .ok host ∧ r.httpsPort = .ok port ∧ host ≠ "" ∧ 1 ≤ port ∧ port ≤ 65535 ∧
      ∀ key loopback, r.secretKey = some key → r.httpProxyPort = none →
        projectCredentials loopback [r] = .ok [(key, ⟨host, port⟩)] := by
  obtain ⟨parts, number?, hparts, hnumber, hhost⟩ :=
    exists_httpsParts_of_check (validate_eq_ok_iff.mp hvalid) hscheme htype
  have hname : r.httpsHost = .ok parts.location.hostName := by rw [httpsHost, hparts]; rfl
  obtain ⟨port, hport⟩ := httpsPort_eq_ok_of_parts hparts hnumber
  refine ⟨_, port, hname, hport, Url.Location.hostName_eq_empty_iff.not.mpr hhost, httpsPort_pos hport,
    httpsPort_le hport, fun key loopback hkey hlocal => ?_⟩
  exact projectCredentials_singleton hkey (scheme?_eq_some_iff.mpr hscheme) hlocal hname hport

section Sample

open AccessGate.Agent (sampleRule)

def paddedHttpsSample : Rule :=
  { sampleRule 1 " https://ops@TLS.corp:0/ " .hostPort with
    patternType := some (.written " HOSTPORT"), secretKey := some "k" }

theorem https_endpoint_of_padded : paddedHttpsSample.Opens .https ∧ paddedHttpsSample.HasType .hostPort ∧
    paddedHttpsSample.validate = .ok () ∧ ∃ host port, paddedHttpsSample.httpsHost = .ok host ∧
      paddedHttpsSample.httpsPort = .ok port ∧ host ≠ "" ∧ 1 ≤ port ∧ port ≤ 65535 ∧
      ∀ key loopback, paddedHttpsSample.secretKey = some key → paddedHttpsSample.httpProxyPort = none →
        projectCredentials loopback [paddedHttpsSample] = .ok [(key, ⟨host, port⟩)] := by
  have hscheme : paddedHttpsSample.Opens .https := scheme?_eq_some_iff.mp rfl
  have htype : paddedHttpsSample.HasType .hostPort := ⟨_, rfl, PatternTypeField.read_eq_ok_iff.mp rfl⟩
  exact ⟨hscheme, htype, rfl, https_endpoint_of_validate hscheme htype rfl⟩

/-- Port zero counts as none, and the name of the host is in lower case. -/
example : projectCredentials loopbackAddress [paddedHttpsSample] = .ok [("k", ⟨"tls.corp", 443⟩)] := rfl

end Sample
end AccessGate.Rule
