import AccessGate.Proofs.Routing

/-! # Rules that can be routed

What a rule writes settles whether its credential leads somewhere: a socket rule writes a target, and a rule for
`https://` without a local port writes a URL that can be taken apart and whose port can be read. On rules that
were provisioned nothing else counts, since provisioning has seen to the keys and to the local ports. -/
namespace AccessGate

namespace Rule
variable {loopback : String} {r : Rule} {f : Failure}

/-- What a rule has to write for its credential to lead somewhere. -/
structure Routable (r : Rule) : Prop where
  target : ∀ pattern, r.pattern = some pattern → r.scheme? = some .socket →
    ∃ e, socketEndpoint (Text.trim pattern) = .ok e
  url : ∀ pattern, r.pattern = some pattern → r.scheme? = some .https → r.httpProxyPort = none →
    ∃ parts port, urlParts .https (Text.trim pattern) = .ok parts ∧ parts.location.portNumber? = .ok port

/-- `r.Misroutes f`: what `r` writes cannot be routed, for the reason `f`. -/
inductive Misroutes (r : Rule) : Failure → Prop
  | target {pattern : String} {fault : RuleFault} (hpattern : r.pattern = some pattern)
      (hscheme : r.scheme? = some .socket) (htarget : socketEndpoint (Text.trim pattern) = .error fault) :
      Misroutes r (.rule (r.errorAt fault))
  | url {pattern : String} {fault : Url.Fault} (hpattern : r.pattern = some pattern)
      (hscheme : r.scheme? = some .https) (hlocal : r.httpProxyPort = none)
      (hparts : urlParts .https (Text.trim pattern) = .error fault) : Misroutes r (.value (.url fault))
  | port {pattern : String} {parts : Url.Parts} {fault : Url.Fault} (hpattern : r.pattern = some pattern)
      (hscheme : r.scheme? = some .https) (hlocal : r.httpProxyPort = none)
      (hparts : urlParts .https (Text.trim pattern) = .ok parts)
      (hnumber : parts.location.portNumber? = .error fault) : Misroutes r (.value (.url fault))

theorem Routable.not_misroutes (h : r.Routable) : ¬r.Misroutes f := by
  intro hf
  cases hf with
  | target hpattern hscheme htarget =>
    obtain ⟨e, he⟩ := h.target _ hpattern hscheme
    rw [htarget] at he
    cases he
  | url hpattern hscheme hlocal hparts =>
    obtain ⟨parts, port, hok, _⟩ := h.url _ hpattern hscheme hlocal
    rw [hparts] at hok
    cases hok
  | port hpattern hscheme hlocal hparts hnumber =>
    obtain ⟨parts, port, hok, hport⟩ := h.url _ hpattern hscheme hlocal
    rw [hparts] at hok
    cases hok
    rw [hnumber] at hport
    cases hport

theorem routable_of_forall_not_misroutes (h : ∀ f, ¬r.Misroutes f) : r.Routable := by
  constructor
  · intro pattern hpattern hscheme
    cases htarget : socketEndpoint (Text.trim pattern) with
    | ok e => exact ⟨e, rfl⟩
    | error fault => exact absurd (.target hpattern hscheme htarget) (h _)
  · intro pattern hpattern hscheme hlocal
    cases hparts : urlParts .https (Text.trim pattern) with
    | error fault => exact absurd (.url hpattern hscheme hlocal hparts) (h _)
    | ok parts =>
      cases hnumber : parts.location.portNumber? with
      | error fault => exact absurd (.port hpattern hscheme hlocal hparts hnumber) (h _)
      | ok port => exact ⟨parts, port, rfl, hnumber⟩

theorem httpsPort_eq_error_iff {pattern : String} {fault : Url.Fault} (hpattern : r.pattern = some pattern)
    (hscheme : r.scheme? = some .https) : r.httpsPort = .error fault ↔
      urlParts .https (Text.trim pattern) = .error fault ∨
        ∃ parts, urlParts .https (Text.trim pattern) = .ok parts ∧
          parts.location.portNumber? = .error fault := by
  rw [httpsPort, httpsParts_eq hpattern hscheme]
  cases urlParts .https (Text.trim pattern) with
  | error fault' => simp [bind, Except.bind]
  | ok parts =>
    rcases hnumber : parts.location.portNumber? with fault' | _ | _ | n <;>
      simp [bind, Except.bind, pure, Except.pure, hnumber]

/-- The checks of a rule add nothing to how it fails: a valid rule strays exactly when it cannot be routed. -/
theorem strays_iff_misroutes (hvalid : r.check = .ok ()) : r.Strays f ↔ r.Misroutes f := by
  constructor
  · intro h
    cases h with
    | socket hpattern hscheme htarget =>
      exact .target hpattern hscheme (socketEndpoint_eq_error_iff.mpr ⟨htarget, rfl⟩)
    | https _ hscheme hlocal hurl =>
      obtain ⟨pattern, hpattern⟩ := pattern_of_scheme? hscheme
      rcases (httpsPort_eq_error_iff hpattern hscheme).mp hurl with hparts | ⟨parts, hparts, hnumber⟩
      · exact .url hpattern hscheme hlocal hparts
      · exact .port hpattern hscheme hlocal hparts hnumber
  · intro h
    have hhttps : ∀ {pattern fault}, r.pattern = some pattern → r.scheme? = some .https →
        r.httpProxyPort = none → r.httpsPort = .error fault → r.Strays (.value (.url fault)) :=
      fun _ hscheme hlocal hurl =>
        .https (isExpression_of_unreadable hvalid hscheme hurl) hscheme hlocal hurl
    cases h with
    | target hpattern hscheme htarget =>
      obtain ⟨hnone, rfl⟩ := socketEndpoint_eq_error_iff.mp htarget
      exact .socket hpattern hscheme hnone
    | url hpattern hscheme hlocal hparts =>
      have hurl := (httpsPort_eq_error_iff hpattern hscheme).mpr (.inl hparts)
      exact hhttps hpattern hscheme hlocal hurl
    | port hpattern hscheme hlocal hparts hnumber =>
      have hurl := (httpsPort_eq_error_iff hpattern hscheme).mpr (.inr ⟨_, hparts, hnumber⟩)
      exact hhttps hpattern hscheme hlocal hurl

theorem leadsTo_iff_routable (hvalid : r.check = .ok ())
    (hhttp : r.scheme? = some .http → r.httpProxyPort.isSome = true) :
    (∃ e, r.LeadsTo loopback e) ↔ r.Routable := by
  have herror : ∀ f, r.target loopback = .error f ↔ r.Misroutes f := fun f =>
    (target_eq_error_iff hvalid hhttp).trans (strays_iff_misroutes hvalid)
  constructor
  · intro h
    obtain ⟨e, he⟩ := h
    apply routable_of_forall_not_misroutes
    intro f hf
    have hok := target_eq_ok_iff.mpr he
    rw [(herror f).mpr hf] at hok
    cases hok
  · intro h
    cases htarget : r.target loopback with
    | ok e => exact ⟨e, target_eq_ok_iff.mp htarget⟩
    | error f => exact absurd ((herror f).mp htarget) h.not_misroutes

end Rule

namespace Provision
variable {supply : Supply} {logging : Bool} {request : Request} {rules served : List Rule} {l : Ledger}

/-- On rules that were provisioned, projection comes to credentials exactly when every rule can be routed. If
it fails, then as the first rule that cannot: never for want of a key, for a key in use, or for want of a local
port. -/
theorem projectCredentials_iff_routable
    (h : (provision supply logging request rules l).result = .ok served) (loopback : String) :
    ((∃ credentials, projectCredentials loopback served = .ok credentials) ↔ ∀ r ∈ served, r.Routable) ∧
    (∀ f, projectCredentials loopback served = .error f ↔
      ∃ before r after, served = before ++ r :: after ∧ (∀ s ∈ before, s.Routable) ∧ r.Misroutes f) ∧
    ∀ e, projectCredentials loopback served = .error (.rule e) →
      e.fault ≠ .rule .secretKeyMissing ∧ (∀ n, e.fault ≠ .ruleSet (.secretKeyInUse n)) ∧
        e.fault ≠ .rule .noRoute := by
  have hleads : ∀ r ∈ served, (∃ e, r.LeadsTo loopback e) ↔ r.Routable := fun r hr =>
    Rule.leadsTo_iff_routable (check_of_provision h r hr) (isSome_port_of_provision h r hr)
  have herror : ∀ f, projectCredentials loopback served = .error f ↔
      ∃ before r after, served = before ++ r :: after ∧ (∀ s ∈ before, s.Routable) ∧ r.Misroutes f := by
    intro f
    rw [projectCredentials_eq_error_iff_strays h]
    refine exists_congr fun before => exists_congr fun r => exists_congr fun after => ?_
    refine and_congr_right fun hsplit => and_congr ?_ ?_
    · refine forall₂_congr fun s hs => hleads s ?_
      rw [hsplit]
      exact List.mem_append_left _ hs
    · apply Rule.strays_iff_misroutes
      apply check_of_provision h
      simp [hsplit]
  refine ⟨⟨fun hok r hr => ?_, fun hroutable => ?_⟩, herror, fun e he => ?_⟩
  · obtain ⟨credentials, hcredentials⟩ := hok
    exact (hleads r hr).mp (leadsTo_of_grants (projectCredentials_eq_ok_iff.mp hcredentials).1 r hr)
  · cases hproject : projectCredentials loopback served with
    | ok credentials => exact ⟨credentials, rfl⟩
    | error f =>
      obtain ⟨before, r, after, hsplit, _, hf⟩ := (herror f).mp hproject
      have hr : r ∈ served := by simp [hsplit]
      exact absurd hf (hroutable r hr).not_misroutes
  · obtain ⟨before, r, after, _, _, hf⟩ := (herror _).mp he
    cases hf with
    | target _ _ htarget =>
      obtain ⟨_, rfl⟩ := Rule.socketEndpoint_eq_error_iff.mp htarget
      simp [Rule.errorAt]

section Sample

open AccessGate.Agent (sampleConfig sampleMachine)

/-- The first of the stray rules that cannot be routed is the second one, and projection fails as it does. -/
theorem projectCredentials_iff_routable_sample : ∃ served,
    (provision sampleMachine.toSupply true (Agent.request sampleConfig) strayFeed {}).result = .ok served ∧
    (∃ before r after, served = before ++ r :: after ∧ (∀ s ∈ before, s.Routable) ∧
      r.Misroutes (.rule ⟨.rule (.invalidSocketPattern "socket://db.corp:70000"), some 2⟩)) ∧
    ¬∀ r ∈ served, r.Routable := by
  obtain ⟨served, h, hproject⟩ : ∃ served,
      (provision sampleMachine.toSupply true (Agent.request sampleConfig) strayFeed {}).result = .ok served ∧
      projectCredentials loopbackAddress served =
        .error (.rule ⟨.rule (.invalidSocketPattern "socket://db.corp:70000"), some 2⟩) :=
    ⟨_, rfl, rfl⟩
  obtain ⟨hok, herror, _⟩ := projectCredentials_iff_routable h loopbackAddress
  refine ⟨served, h, (herror _).mp hproject, fun hroutable => ?_⟩
  obtain ⟨credentials, hcredentials⟩ := hok.mpr hroutable
  rw [hproject] at hcredentials
  cases hcredentials

end Sample

end Provision
end AccessGate
