import AccessGate.Proofs.Access
import AccessGate.Proofs.Provision.Served

/-! # Rules that lead nowhere

The checks of a rule do not look at all that projection reads: the target of a socket rule, and the URL of an
expression over `https://`, are first read when the credential is projected. These are the only ways in which
projection can fail on rules that were provisioned. -/
namespace AccessGate

namespace Rule
variable {loopback : String} {r : Rule} {f : Failure}

/-- Whether the pattern of a rule is an expression, which its checks let pass as it stands. -/
def IsExpression (r : Rule) : Prop := ∃ field, r.patternType = some field ∧ field.read = .ok .regex

/-- `r.Strays f`: although `r` is valid, its credential leads nowhere, for the reason `f`. A socket rule strays
if its pattern writes no target; an expression over `https://` without a local port strays if its URL cannot
be read. -/
inductive Strays (r : Rule) : Failure → Prop
  | socket {pattern : String} (hpattern : r.pattern = some pattern) (hscheme : r.scheme? = some .socket)
      (htarget : socketTarget? (Text.trim pattern).toList = none) :
      Strays r (.rule (r.errorAt (.invalidSocketPattern (Text.trim pattern))))
  | https {fault : Url.Fault} (hexpression : r.IsExpression) (hscheme : r.scheme? = some .https)
      (hport : r.httpProxyPort = none) (hurl : r.httpsPort = .error fault) :
      Strays r (.value (.url fault))

theorem socketEndpoint_eq_ok_iff {pattern : String} {e : Endpoint} :
    socketEndpoint pattern = .ok e ↔ socketTarget? pattern.toList = some e := by
  unfold socketEndpoint
  cases socketTarget? pattern.toList <;> simp

theorem socketEndpoint_eq_error_iff {pattern : String} {fault : RuleFault} :
    socketEndpoint pattern = .error fault ↔
      socketTarget? pattern.toList = none ∧ fault = .invalidSocketPattern pattern := by
  unfold socketEndpoint
  cases socketTarget? pattern.toList with
  | none => simp [eq_comm]
  | some e => simp

def WritesTarget (r : Rule) : Prop :=
  ∀ pattern, r.pattern = some pattern → r.scheme? = some .socket →
    ∃ e, socketTarget? (Text.trim pattern).toList = some e

theorem LeadsTo.writesTarget {e : Endpoint} (h : r.LeadsTo loopback e) : r.WritesTarget := by
  intro pattern hpattern hscheme
  cases h with
  | socket hpattern' _ htarget =>
    obtain rfl := Option.some.inj (hpattern.symm.trans hpattern')
    exact ⟨e, socketEndpoint_eq_ok_iff.mp htarget⟩
  | localPort hother _ => exact absurd hscheme hother
  | https hhttps _ _ _ =>
    rw [hhttps] at hscheme
    cases hscheme

theorem httpsParts_eq {pattern : String} (hpattern : r.pattern = some pattern)
    (hscheme : r.scheme? = some .https) : r.httpsParts = urlParts .https (Text.trim pattern) := by
  simp only [httpsParts, hpattern, hscheme]

theorem httpsPort_of_parts {parts : Url.Parts} {port : Option Nat} (hparts : r.httpsParts = .ok parts)
    (hport : parts.location.portNumber? = .ok port) :
    r.httpsPort = .ok (if port.getD 0 = 0 then 443 else port.getD 0) := by
  rw [httpsPort, hparts]
  change (parts.location.portNumber? >>= _) = _
  rw [hport]
  rcases port with _ | _ | n
  · rfl
  · rfl
  · rfl

theorem httpsPort_eq_ok_of_parts {parts : Url.Parts} {port : Option Nat} (hparts : r.httpsParts = .ok parts)
    (hport : parts.location.portNumber? = .ok port) : ∃ n, r.httpsPort = .ok n :=
  ⟨_, httpsPort_of_parts hparts hport⟩

theorem httpsPort_eq_error_of_httpsHost {fault : Url.Fault} (h : r.httpsHost = .error fault) :
    r.httpsPort = .error fault := by
  rw [httpsHost, map_eq_error_iff] at h
  rw [httpsPort, h]
  rfl

/-- The URL of a valid rule over `https://` was looked at, unless the rule is an expression. -/
theorem checkHostPort_or_isExpression (hvalid : r.check = .ok ()) {pattern : String}
    (hpattern : r.pattern = some pattern) (hscheme : r.scheme? = some .https) :
    checkHostPort .https (Text.trim pattern) = .ok () ∨ r.IsExpression := by
  obtain ⟨_, _, _, _, ⟨trimmed, scheme⟩, hread, t, htype, hfit⟩ := check_eq_ok_iff.mp hvalid
  obtain ⟨pattern', hpattern', _, htrimmed, hfound⟩ := readPattern_eq_ok_iff.mp hread
  obtain rfl : pattern = pattern' := Option.some.inj (hpattern.symm.trans hpattern')
  obtain rfl : trimmed = Text.trim pattern := htrimmed
  obtain rfl : scheme = .https := by
    rw [scheme?, hpattern] at hscheme
    exact Option.some.inj (hfound.symm.trans hscheme)
  cases t with
  | urlExact => cases hfit
  | hostPort => exact .inl hfit
  | regex =>
    cases hfield : r.patternType with
    | none => simp [readPatternType, hfield] at htype
    | some field => exact .inr ⟨field, hfield, by rwa [hfield] at htype⟩

theorem isExpression_of_unreadable (hvalid : r.check = .ok ()) (hscheme : r.scheme? = some .https)
    {fault : Url.Fault} (hurl : r.httpsPort = .error fault) : r.IsExpression := by
  obtain ⟨pattern, hpattern⟩ := pattern_of_scheme? hscheme
  rcases checkHostPort_or_isExpression hvalid hpattern hscheme with hcheck | hexpression
  · obtain ⟨parts, hparts, ⟨port, hport⟩, _⟩ := checkHostPort_eq_ok_iff.mp hcheck
    rw [← httpsParts_eq hpattern hscheme] at hparts
    obtain ⟨n, hn⟩ := httpsPort_eq_ok_of_parts hparts hport
    rw [hurl] at hn
    cases hn
  · exact hexpression

theorem target_socket_eq_error_iff {pattern : String} (hpattern : r.pattern = some pattern)
    (hscheme : r.scheme? = some .socket) : r.target loopback = .error f ↔
      socketTarget? (Text.trim pattern).toList = none ∧
        f = .rule (r.errorAt (.invalidSocketPattern (Text.trim pattern))) := by
  simp only [target, hscheme, hpattern, Option.getD_some, mapError_eq_error_iff,
    socketEndpoint_eq_error_iff]
  constructor
  · rintro ⟨_, ⟨htarget, rfl⟩, rfl⟩
    exact ⟨htarget, rfl⟩
  · rintro ⟨htarget, rfl⟩
    exact ⟨_, ⟨htarget, rfl⟩, rfl⟩

theorem target_https_eq_error_iff (hscheme : r.scheme? = some .https) (hport : r.httpProxyPort = none) :
    r.target loopback = .error f ↔ ∃ fault, r.httpsPort = .error fault ∧ f = Failure.url fault := by
  simp only [target, hscheme, hport]
  cases hhost : r.httpsHost with
  | error fault =>
    rw [httpsPort_eq_error_of_httpsHost hhost]
    change Except.error (Failure.url fault) = Except.error f ↔ _
    simp [eq_comm]
  | ok host =>
    cases r.httpsPort with
    | error fault =>
      change Except.error (Failure.url fault) = Except.error f ↔ _
      simp [eq_comm]
    | ok n =>
      change Except.ok _ = Except.error f ↔ _
      simp

/-- Of the ways in which the target of a rule may be missing, a valid rule that has its local port if it is for
plain http knows two only. -/
theorem target_eq_error_iff (hvalid : r.check = .ok ())
    (hhttp : r.scheme? = some .http → r.httpProxyPort.isSome = true) :
    r.target loopback = .error f ↔ r.Strays f := by
  constructor
  · intro h
    obtain ⟨_, _, _, _, ⟨trimmed, scheme⟩, hread, _⟩ := check_eq_ok_iff.mp hvalid
    have hscheme : r.scheme? = some scheme := schemeOf?_of_readPattern hread
    obtain ⟨pattern, hpattern⟩ := pattern_of_scheme? hscheme
    cases scheme with
    | socket =>
      obtain ⟨htarget, rfl⟩ := (target_socket_eq_error_iff hpattern hscheme).mp h
      exact .socket hpattern hscheme htarget
    | http =>
      obtain ⟨port, hport⟩ := Option.isSome_iff_exists.mp (hhttp hscheme)
      simp [target, hscheme, hport] at h
    | https =>
      cases hport : r.httpProxyPort with
      | some port => simp [target, hscheme, hport] at h
      | none =>
        obtain ⟨fault, hurl, rfl⟩ := (target_https_eq_error_iff hscheme hport).mp h
        exact .https (isExpression_of_unreadable hvalid hscheme hurl) hscheme hport hurl
  · intro h
    cases h with
    | socket hpattern hscheme htarget =>
      exact (target_socket_eq_error_iff hpattern hscheme).mpr ⟨htarget, rfl⟩
    | https _ hscheme hport hurl =>
      exact (target_https_eq_error_iff hscheme hport).mpr ⟨_, hurl, rfl⟩

end Rule

section Projection
variable {loopback : String} {used keys : List String} {rules : List Rule}

theorem leadsTo_of_grants {credentials : List Credential}
    (h : List.Forall₂ (Rule.Grants loopback) rules credentials) :
    ∀ r ∈ rules, ∃ e, r.LeadsTo loopback e := by
  induction h with
  | nil => simp
  | cons hc _ ih => exact List.forall_mem_cons.mpr ⟨⟨_, hc.2⟩, ih⟩

/-- When every rule has a key of its own, the credentials are the keys with the targets of their rules. -/
theorem projectFrom_eq_mapM_target (hkeys : rules.map Rule.secretKey = keys.map some) (hnodup : keys.Nodup)
    (hused : ∀ key ∈ keys, key ∉ used) :
    projectFrom loopback used rules = (rules.mapM (Rule.target loopback)).map keys.zip := by
  induction rules generalizing keys used with
  | nil =>
    cases keys with
    | nil => rfl
    | cons key keys => cases hkeys
  | cons r rest ih =>
    cases keys with
    | nil => cases hkeys
    | cons key keys =>
      obtain ⟨hkey, hrest⟩ := List.cons.inj hkeys
      obtain ⟨hnew, hnodup⟩ := List.nodup_cons.mp hnodup
      obtain ⟨hfirst, hothers⟩ := List.forall_mem_cons.mp hused
      have hused' : ∀ k ∈ keys, k ∉ key :: used := by
        intro k hk hmem
        rcases List.mem_cons.mp hmem with rfl | hmem
        · exact hnew hk
        · exact hothers k hk hmem
      rw [projectFrom, hkey, List.mapM_cons]
      simp only [if_neg hfirst, ih hrest hnodup hused']
      cases r.target loopback with
      | error f => rfl
      | ok e => cases rest.mapM (Rule.target loopback) <;> rfl

theorem projectCredentials_eq_error_iff {f : Failure} (hkeys : rules.map Rule.secretKey = keys.map some)
    (hnodup : keys.Nodup) : projectCredentials loopback rules = .error f ↔
      ∃ before r after, rules = before ++ r :: after ∧ (∀ s ∈ before, ∃ e, s.LeadsTo loopback e) ∧
        r.target loopback = .error f := by
  rw [projectCredentials, projectFrom_eq_mapM_target hkeys hnodup (by simp), map_eq_error_iff,
    mapM_eq_error_iff]
  simp only [Rule.target_eq_ok_iff]

end Projection

namespace Provision
variable {supply : Supply} {logging : Bool} {request : Request} {rules served : List Rule} {l : Ledger}
  {loopback : String}

/-- On rules that were provisioned, projection fails as the first of them that strays. -/
theorem projectCredentials_eq_error_iff_strays
    (h : (provision supply logging request rules l).result = .ok served) {f : Failure} :
    projectCredentials loopback served = .error f ↔
      ∃ before r after, served = before ++ r :: after ∧ (∀ s ∈ before, ∃ e, s.LeadsTo loopback e) ∧
        r.Strays f := by
  obtain ⟨keys, hnodup, hkeys⟩ := keys_of_provision h
  have htarget : ∀ r ∈ served, (r.target loopback = .error f ↔ r.Strays f) := fun r hr =>
    Rule.target_eq_error_iff (check_of_provision h r hr) (isSome_port_of_provision h r hr)
  rw [projectCredentials_eq_error_iff hkeys hnodup]
  refine exists_congr fun before => exists_congr fun r => exists_congr fun after => ?_
  refine and_congr_right fun hsplit => and_congr_right fun _ => htarget r ?_
  rw [hsplit]
  exact List.mem_append_right _ List.mem_cons_self

/-- On rules that were provisioned, and among which no expression over `https://` without a local port has a URL
that cannot be read, projection comes to credentials exactly when every socket rule writes its target; if it
fails, then as the first socket rule that does not. -/
theorem projectCredentials_iff_socketTargets
    (h : (provision supply logging request rules l).result = .ok served)
    (hreads : ∀ r ∈ served, r.IsExpression → r.scheme? = some .https → r.httpProxyPort = none →
      ∃ n, r.httpsPort = .ok n) (loopback : String) :
    ((∃ credentials, projectCredentials loopback served = .ok credentials) ↔
      ∀ r ∈ served, r.WritesTarget) ∧
    ∀ f, projectCredentials loopback served = .error f →
      ∃ before r after pattern, served = before ++ r :: after ∧ (∀ s ∈ before, s.WritesTarget) ∧
        r.pattern = some pattern ∧ r.scheme? = some .socket ∧
        socketTarget? (Text.trim pattern).toList = none ∧
        f = .rule (r.errorAt (.invalidSocketPattern (Text.trim pattern))) := by
  have herror : ∀ f, projectCredentials loopback served = .error f →
      ∃ before r after pattern, served = before ++ r :: after ∧ (∀ s ∈ before, s.WritesTarget) ∧
        r.pattern = some pattern ∧ r.scheme? = some .socket ∧
        socketTarget? (Text.trim pattern).toList = none ∧
        f = .rule (r.errorAt (.invalidSocketPattern (Text.trim pattern))) := by
    intro f hf
    obtain ⟨before, r, after, rfl, hbefore, hstrays⟩ := (projectCredentials_eq_error_iff_strays h).mp hf
    cases hstrays with
    | socket hpattern hscheme htarget =>
      refine ⟨before, r, after, _, rfl, fun s hs => ?_, hpattern, hscheme, htarget, rfl⟩
      obtain ⟨e, he⟩ := hbefore s hs
      exact he.writesTarget
    | https hexpression hscheme hport hurl =>
      obtain ⟨n, hn⟩ := hreads r (List.mem_append_right _ List.mem_cons_self) hexpression hscheme hport
      rw [hurl] at hn
      cases hn
  refine ⟨⟨fun hok r hr => ?_, fun htargets => ?_⟩, herror⟩
  · obtain ⟨credentials, hcredentials⟩ := hok
    obtain ⟨e, he⟩ := leadsTo_of_grants (projectCredentials_eq_ok_iff.mp hcredentials).1 r hr
    exact he.writesTarget
  · cases hproject : projectCredentials loopback served with
    | ok credentials => exact ⟨credentials, rfl⟩
    | error f =>
      obtain ⟨before, r, after, pattern, rfl, _, hpattern, hscheme, htarget, _⟩ := herror f hproject
      have hmem : r ∈ before ++ r :: after := List.mem_append_right _ List.mem_cons_self
      obtain ⟨e, he⟩ := htargets r hmem pattern hpattern hscheme
      rw [htarget] at he
      cases he

section Sample

open AccessGate.Agent (sampleConfig sampleMachine sampleRule)

def strayFeed : List Rule :=
  [sampleRule 1 "https://tls.corp" .regex, sampleRule 2 "socket://db.corp:70000" .hostPort,
    sampleRule 3 "http://wiki.corp" .regex]

/-- A socket rule that writes no target and an expression whose URL cannot be read are both provisioned, and
there are no credentials for them. -/
theorem provisioned_without_credentials :
    (∃ served, (provision sampleMachine.toSupply true (Agent.request sampleConfig)
        [sampleRule 1 "socket://db.corp:70000" .hostPort] {}).result = .ok served ∧
      projectCredentials loopbackAddress served =
        .error (.rule ⟨.rule (.invalidSocketPattern "socket://db.corp:70000"), some 1⟩)) ∧
    ∃ served, (provision sampleMachine.toSupply true (Agent.request sampleConfig)
        [sampleRule 1 "https://tls.corp:70000" .regex] {}).result = .ok served ∧
      projectCredentials loopbackAddress served = .error (.value (.url .portOutOfRange)) :=
  ⟨⟨_, rfl, rfl⟩, ⟨_, rfl, rfl⟩⟩

theorem projectCredentials_iff_socketTargets_sample : ∃ served,
    (provision sampleMachine.toSupply true (Agent.request sampleConfig) strayFeed {}).result = .ok served ∧
    (∀ r ∈ served, r.IsExpression → r.scheme? = some .https → r.httpProxyPort = none →
      ∃ n, r.httpsPort = .ok n) ∧
    projectCredentials loopbackAddress served =
      .error (.rule ⟨.rule (.invalidSocketPattern "socket://db.corp:70000"), some 2⟩) ∧
    ¬∀ r ∈ served, r.WritesTarget := by
  obtain ⟨served, h, hports, hproject⟩ : ∃ served,
      (provision sampleMachine.toSupply true (Agent.request sampleConfig) strayFeed {}).result = .ok served ∧
      served.all (fun r => r.scheme? ≠ some .https || r.httpsPort.toOption = some 443) = true ∧
      projectCredentials loopbackAddress served =
        .error (.rule ⟨.rule (.invalidSocketPattern "socket://db.corp:70000"), some 2⟩) :=
    ⟨_, rfl, rfl, rfl⟩
  have hreads : ∀ r ∈ served, r.IsExpression → r.scheme? = some .https → r.httpProxyPort = none →
      ∃ n, r.httpsPort = .ok n := by
    intro r hr _ hscheme _
    have hport := List.all_eq_true.mp hports r hr
    cases hn : r.httpsPort with
    | error fault => simp [hscheme, hn, Except.toOption] at hport
    | ok n => exact ⟨n, rfl⟩
  refine ⟨served, h, hreads, hproject, fun htargets => ?_⟩
  obtain ⟨credentials, hok⟩ := (projectCredentials_iff_socketTargets h hreads _).1.mpr htargets
  rw [hproject] at hok
  cases hok

end Sample

end Provision
end AccessGate
