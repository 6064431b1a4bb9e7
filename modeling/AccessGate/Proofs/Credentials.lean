import AccessGate.Credential
import AccessGate.Keyed
import AccessGate.Proofs.Checks

/-! # Where credentials lead

The pattern and the ports of a rule say where its credential leads. Projection gives one credential for
each rule, in the order of the rules, as long as every rule has a key of its own and leads somewhere. -/
namespace AccessGate

/-- `r.LeadsTo loopback e`: the credential of `r` opens `e`. A socket rule leads to the target its pattern
writes; any other rule with a local port leads there; an `https://` rule without one leads to its host. -/
inductive Rule.LeadsTo (loopback : String) (r : Rule) : Endpoint → Prop
  | socket {pattern : String} {e : Endpoint} (hpattern : r.pattern = some pattern)
      (hscheme : r.scheme? = some .socket) (htarget : socketEndpoint (Text.trim pattern) = .ok e) :
      LeadsTo loopback r e
  | localPort {port : Int} (hscheme : r.scheme? ≠ some .socket) (hport : r.httpProxyPort = some port) :
      LeadsTo loopback r ⟨loopback, port⟩
  | https {host : String} {port : Nat} (hscheme : r.scheme? = some .https)
      (hport : r.httpProxyPort = none) (hhost : r.httpsHost = .ok host) (hnumber : r.httpsPort = .ok port) :
      LeadsTo loopback r ⟨host, port⟩

theorem Rule.pattern_of_scheme? {r : Rule} {scheme : Scheme} (h : r.scheme? = some scheme) :
    ∃ pattern, r.pattern = some pattern := by
  obtain ⟨pattern, hpattern, _⟩ := Option.bind_eq_some_iff.mp h
  exact ⟨pattern, hpattern⟩

theorem Rule.target_eq_ok_iff {loopback : String} {r : Rule} {e : Endpoint} :
    r.target loopback = .ok e ↔ r.LeadsTo loopback e := by
  constructor
  · intro h
    unfold target at h
    split at h
    · rename_i hscheme
      obtain ⟨pattern, hpattern⟩ := pattern_of_scheme? hscheme
      rw [mapError_eq_ok_iff, hpattern] at h
      exact .socket hpattern hscheme h
    · rename_i port hport hscheme
      cases h
      exact .localPort hscheme hport
    · rename_i hscheme hport
      simp only [bind_eq_ok_iff, mapError_eq_ok_iff, pure_eq_ok_iff] at h
      obtain ⟨host, hhost, port, hnumber, rfl⟩ := h
      exact .https hscheme hport hhost hnumber
    · cases h
  · intro h
    cases h with
    | socket hpattern hscheme htarget =>
      simp only [target, hscheme, hpattern, Option.getD_some, htarget]
      rfl
    | localPort hscheme hport =>
      simp only [target, hport]
    | https hscheme hport hhost hnumber =>
      simp only [target, hscheme, hport, hhost, hnumber]
      rfl

def Rule.Grants (loopback : String) (r : Rule) (c : Credential) : Prop :=
  r.secretKey = some c.1 ∧ r.LeadsTo loopback c.2

theorem Rule.Grants.unique {loopback : String} {r : Rule} {c d : Credential} (hc : r.Grants loopback c)
    (hd : r.Grants loopback d) : c = d := by
  have hkey : c.1 = d.1 := Option.some.inj (hc.1.symm.trans hd.1)
  have htarget := (Rule.target_eq_ok_iff.mpr hc.2).symm.trans (Rule.target_eq_ok_iff.mpr hd.2)
  exact Prod.ext hkey (Except.ok.inj htarget)

theorem mem_credentials_iff {loopback : String} {rules : List Rule} {credentials : List Credential}
    (h : List.Forall₂ (Rule.Grants loopback) rules credentials) {c : Credential} :
    c ∈ credentials ↔ ∃ r ∈ rules, r.Grants loopback c := by
  induction h with
  | nil => simp
  | cons hd _ ih =>
    rw [List.mem_cons, ih, List.exists_mem_cons_iff]
    refine or_congr_left ⟨?_, fun hc => hc.unique hd⟩
    rintro rfl
    exact hd

theorem projectFrom_eq_ok_iff {loopback : String} {used : List String} {rules : List Rule}
    {credentials : List Credential} : projectFrom loopback used rules = .ok credentials ↔
      List.Forall₂ (Rule.Grants loopback) rules credentials ∧ (Keyed.keys credentials).Nodup ∧
        ∀ key ∈ Keyed.keys credentials, key ∉ used := by
  induction rules generalizing used credentials with
  | nil =>
    rw [projectFrom, List.forall₂_nil_left_iff, Except.ok.injEq]
    constructor
    · rintro rfl
      exact ⟨rfl, List.nodup_nil, by simp [Keyed.keys]⟩
    · intro h
      obtain ⟨rfl, _, _⟩ := h
      rfl
  | cons r rest ih =>
    rw [projectFrom, List.forall₂_cons_left_iff]
    cases hkey : r.secretKey with
    | none => simp [Rule.Grants, hkey]
    | some key =>
      simp only [refuse_eq_ok_iff, bind_eq_ok_iff, pure_eq_ok_iff, ih, Rule.target_eq_ok_iff]
      constructor
      · intro h
        obtain ⟨hnew, e, htarget, others, ⟨hothers, hnodup, hused⟩, rfl⟩ := h
        refine ⟨⟨(key, e), others, ⟨hkey, htarget⟩, hothers, rfl⟩, ?_, ?_⟩
        · exact List.nodup_cons.mpr ⟨fun hmem => hused key hmem List.mem_cons_self, hnodup⟩
        · refine List.forall_mem_cons.mpr ⟨hnew, fun k hmem hk => ?_⟩
          exact hused k hmem (List.mem_cons_of_mem _ hk)
      · intro h
        obtain ⟨⟨⟨k, e⟩, others, ⟨hk, htarget⟩, hothers, rfl⟩, hnodup, hused⟩ := h
        obtain rfl : key = k := Option.some.inj (hkey.symm.trans hk)
        obtain ⟨hnew, hnodup⟩ := List.nodup_cons.mp hnodup
        obtain ⟨hfirst, hrest⟩ := List.forall_mem_cons.mp hused
        refine ⟨hfirst, e, htarget, others, ⟨hothers, hnodup, fun k hmem hk => ?_⟩, rfl⟩
        rcases List.mem_cons.mp hk with rfl | hk
        · exact hnew hmem
        · exact hrest k hmem hk

theorem projectCredentials_eq_ok_iff {loopback : String} {rules : List Rule}
    {credentials : List Credential} : projectCredentials loopback rules = .ok credentials ↔
      List.Forall₂ (Rule.Grants loopback) rules credentials ∧ (Keyed.keys credentials).Nodup := by
  rw [projectCredentials, projectFrom_eq_ok_iff]
  simp

end AccessGate
