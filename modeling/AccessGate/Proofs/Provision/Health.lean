import AccessGate.Proofs.Provision.Scoping
import AccessGate.Proofs.Rule.Validity
import AccessGate.Proofs.Text.Decimal
import AccessGate.Provision.System

/-! # The rule for the health page

The rule for the health page is made of what the agent is configured with, and is checked like the rules of a feed.
Provisioning needs it to pass, and nothing else of the configuration. -/
namespace AccessGate

/-- A rule passes its checks exactly when it is valid. -/
theorem Rule.check_eq_ok_iff_valid {r : Rule} : r.check = .ok () ↔ r.Valid := by
  rw [← forall_conditions_iff, ← (tests_check r).passes, exists_eq_ok_iff]

namespace Provision

/-- `users.Has u`: the text `u` stands between the commas of the users, or in their list. -/
inductive GadgetUsers.Has : GadgetUsers → String → Prop
  | joined {text u : String} (h : u.toList ∈ text.toList.splitOn ',') : Has (.joined text) u
  | listed {users : List String} {u : String} (h : u ∈ users) : Has (.listed users) u

theorem GadgetUsers.mem_toList_iff {users : GadgetUsers} {u : String} : u ∈ users.toList ↔ users.Has u := by
  constructor
  · intro h
    cases users with
    | none => cases h
    | joined text =>
      obtain ⟨piece, hpiece, rfl⟩ := List.mem_map.mp h
      exact .joined (by rwa [String.toList_ofList])
    | listed users => exact .listed h
  · intro h
    cases h with
    | joined h => exact List.mem_map.mpr ⟨_, h, String.ofList_toList⟩
    | listed h => exact h

/-- What the agent has to be configured with for its health page. -/
structure HealthzFit (clientId : Option String) (user domain : String) (users : GadgetUsers) : Prop where
  client : ∃ id, clientId = some id ∧ id ≠ "" ∧ ∀ c ∈ id.toList, Text.isBlank c = false
  gadgets : ∀ u, users.Has u → Text.trim u ≠ "" → '@' ∈ u.toList ∧ Text.Unbroken u
  administrator : Text.Unbroken s!"{user}@{domain}"

section Page
variable {clientId : Option String} {id : String} {port : Int} {user domain : String} {users : GadgetUsers}

theorem toList_healthzPattern (clientId : Option String) (port : Int) : (healthzPattern clientId port).toList =
    Scheme.http.text.toList ++ ("localhost:".toList ++ (Text.decimalChars port ++
      '/' :: ((clientId.getD "None").toList ++ '/' :: healthzPath.toList))) := by
  simp [healthzPattern, toString, Text.decimal]

theorem trim_healthzPattern (clientId : Option String) (port : Int) :
    Text.trim (healthzPattern clientId port) = healthzPattern clientId port := by
  have hends : Text.trimChars (healthzPattern clientId port).toList = (healthzPattern clientId port).toList := by
    have hfirst : Text.isBlank 'h' = false := rfl
    have hlast : Text.isBlank 'z' = false := rfl
    rw [toList_healthzPattern]
    apply Text.trimChars_eq_self
    · simpa [Scheme.text] using hfirst
    · simpa [healthzPath, List.getLast?_append, List.getLast?_cons] using hlast
  rw [Text.trim, hends, String.ofList_toList]

/-- The pattern of the health page has no blanks but those of the client id, all of them in its midst. -/
theorem unbroken_healthzPattern_iff :
    Text.Unbroken (healthzPattern (some id) port) ↔ ∀ c ∈ id.toList, Text.isBlank c = false := by
  have hscheme : ∀ c ∈ Scheme.http.text.toList, Text.isBlank c = false := Text.forall_not_blank_of_all rfl
  have hhost : ∀ c ∈ "localhost:".toList, Text.isBlank c = false := Text.forall_not_blank_of_all rfl
  have hport : ∀ c ∈ Text.decimalChars port, Text.isBlank c = false := fun _ => Text.isBlank_of_mem_decimalChars
  have hpath : ∀ c ∈ healthzPath.toList, Text.isBlank c = false := Text.forall_not_blank_of_all rfl
  have hslash : Text.isBlank '/' = false := rfl
  rw [Text.Unbroken, trim_healthzPattern, toList_healthzPattern]
  simp only [List.forall_mem_append, List.forall_mem_cons]
  constructor
  · intro h
    exact h.2.2.2.2.1
  · intro h
    exact ⟨hscheme, hhost, hport, hslash, h, hslash, hpath⟩

theorem opens_healthzRule : (healthzRule clientId port user domain users).Opens .http := by
  refine ⟨_, rfl, ?_⟩
  rw [trim_healthzPattern, toList_healthzPattern]
  exact List.prefix_append _ _

theorem forall_entities_healthzRule :
    (∀ entity ∈ (healthzRule clientId port user domain users).allowedEntities,
      Text.Unbroken entity ∧ '@' ∈ entity.toList) ↔
      (∀ u, users.Has u → Text.trim u ≠ "" → '@' ∈ u.toList ∧ Text.Unbroken u) ∧
        Text.Unbroken s!"{user}@{domain}" := by
  have hat : '@' ∈ (s!"{user}@{domain}").toList := by simp [toString]
  have hmem (u : String) : '@' ∈ (Text.trim u).toList ↔ '@' ∈ u.toList := by
    rw [Text.toList_trim, Text.mem_trimChars_iff rfl]
  have hgadgets : (∀ entity ∈ (users.toList.map Text.trim).filter (!·.isEmpty),
      Text.Unbroken entity ∧ '@' ∈ entity.toList) ↔
      ∀ u, users.Has u → Text.trim u ≠ "" → '@' ∈ u.toList ∧ Text.Unbroken u := by
    constructor
    · intro h u hu hne
      have hmapped : Text.trim u ∈ users.toList.map Text.trim :=
        List.mem_map_of_mem (GadgetUsers.mem_toList_iff.mpr hu)
      have hentity := h (Text.trim u) (List.mem_filter.mpr ⟨hmapped, by simpa using hne⟩)
      exact ⟨(hmem u).mp hentity.2, Text.unbroken_trim.mp hentity.1⟩
    · intro h entity hentity
      obtain ⟨hentity, hne⟩ := List.mem_filter.mp hentity
      obtain ⟨u, hu, rfl⟩ := List.mem_map.mp hentity
      obtain ⟨hat, hunbroken⟩ := h u (GadgetUsers.mem_toList_iff.mp hu) (by simpa using hne)
      exact ⟨Text.unbroken_trim.mpr hunbroken, (hmem u).mpr hat⟩
  simp only [healthzRule, List.forall_mem_append, hgadgets, List.forall_mem_singleton, hat, and_true]

theorem valid_healthzRule_iff :
    (healthzRule clientId port user domain users).Valid ↔ HealthzFit clientId user domain users := by
  constructor
  · intro h
    obtain ⟨hgadgets, hadministrator⟩ := forall_entities_healthzRule.mp h.eachEntity
    obtain ⟨id, rfl, hid, _⟩ := h.client
    obtain ⟨_, ⟨⟩, hpattern⟩ := h.pattern
    refine ⟨⟨id, rfl, ?_, unbroken_healthzPattern_iff.mp hpattern⟩, hgadgets, hadministrator⟩
    rintro rfl
    exact hid rfl
  · intro h
    obtain ⟨id, rfl, hid, hclean⟩ := h.client
    have htrim : Text.trim id = id := Text.trim_of_forall_not_blank hclean
    have hunbroken : Text.Unbroken id := by rwa [Text.Unbroken, htrim]
    have htype : (healthzRule (some id) port user domain users).HasType .urlExact := ⟨_, rfl, .known _⟩
    have hwildcard : Text.Unbroken ".*" := Text.hasInnerBlank_eq_false_iff.mp rfl
    have happs : ∀ app ∈ (healthzRule (some id) port user domain users).apps, ∃ container appId,
        app = ⟨some container, some appId⟩ ∧ Text.Unbroken container ∧ Text.Unbroken appId := by
      intro app happ
      exact ⟨_, _, List.mem_singleton.mp happ, hwildcard, hwildcard⟩
    have hnumber : 0 < maxRuleNum := by decide
    exact {
      number := hnumber
      client := ⟨id, rfl, by rwa [htrim], hunbroken⟩
      entities := by simp [healthzRule]
      eachEntity := forall_entities_healthzRule.mpr ⟨h.gadgets, h.administrator⟩
      apps := by simp [healthzRule]
      eachApp := happs
      pattern := ⟨_, rfl, unbroken_healthzPattern_iff.mpr hclean⟩
      scheme := ⟨.http, opens_healthzRule⟩
      type := ⟨.urlExact, htype⟩
      exactUrl := fun _ => opens_healthzRule
      hostUrl := fun url hurl => absurd hurl (Rule.not_hostUrl_of_hasType htype (by simp) url) }

theorem validate_healthzRule_iff :
    (healthzRule clientId port user domain users).validate = .ok () ↔ HealthzFit clientId user domain users := by
  rw [Rule.validate_eq_ok_iff, Rule.check_eq_ok_iff_valid, valid_healthzRule_iff]

end Page

/-- What provisioning asks of a feed for a client. -/
structure FeedReady (clientId : Option String) (socksPort : Int) (rules : List Rule) : Prop where
  admitted : Admitted rules
  /-- The number of the rule for the health page is left to it. -/
  numberFree : ∀ r ∈ scope clientId (rules.map Rule.numbered), r.ruleNum ≠ maxRuleNum
  listenerPort : isPort socksPort = true
  ownPorts : ∀ r ∈ scope clientId (rules.map Rule.numbered), r.isPlainHttp = false →
    ∀ p, r.httpProxyPort = some p → isPort p = true

/-- The machine gives what rules need: a key to each of them, and a port to each one for plain http. -/
structure Answers (supply : Supply) (l : Ledger) (rules : List Rule) : Prop where
  keys : ∃ keys l', Drawn supply.secret l keys l' ∧ keys.length = rules.length
  ports : ∀ n < rules.countP Rule.isPlainHttp, ∃ p, supply.port (l.portCalls + n) = .ok p ∧ isPort p = true

def healthzRequest (clientId : Option String) (socksPort port : Int) (user domain : String) (users : GadgetUsers) :
    Request :=
  ⟨clientId, socksPort, systemRules clientId port user domain users⟩

section Provisioning
variable {supply : Supply} {request : Request} {rules : List Rule} {l : Ledger} {clientId : Option String}
  {port socksPort : Int} {user domain : String} {users : GadgetUsers}

theorem exists_served_iff : (∃ served, (provision supply false request rules l).result = .ok served) ↔
    Admitted rules ∧ RuleSet.Fit (candidates request rules) ∧ Answers supply l (candidates request rules) ∧
      isPort request.socksPort = true ∧ ∀ r ∈ candidates request rules, r.isPlainHttp = false →
        ∀ p, r.httpProxyPort = some p → isPort p = true := by
  constructor
  · intro ⟨served, h⟩
    obtain ⟨hnames, hfeed, keys, l', hdrawn, hlen, hanswered, rfl, hcheck⟩ := provision_result_eq_ok_iff.mp h
    obtain ⟨hfit, hlistener, hports, hown⟩ := (validateRuntime_equip_iff hlen hanswered).mp hcheck
    exact ⟨admitted_iff.mpr ⟨hnames, hfeed⟩, hfit, ⟨⟨keys, l', hdrawn, hlen⟩, hports⟩, hlistener, hown⟩
  · intro ⟨hadmitted, hfit, ⟨⟨keys, l', hdrawn, hlen⟩, hports⟩, hlistener, hown⟩
    obtain ⟨hnames, hfeed⟩ := admitted_iff.mp hadmitted
    have hanswered : Answered supply.port l.portCalls (candidates request rules) :=
      fun n hn => (hports n hn).imp fun _ hp => hp.1
    have hcheck := (validateRuntime_equip_iff hlen hanswered).mpr ⟨hfit, hlistener, hports, hown⟩
    exact ⟨_, provision_result_eq_ok_iff.mpr ⟨hnames, hfeed, keys, l', hdrawn, hlen, hanswered, rfl, hcheck⟩⟩

theorem validate_scope (hrules : ∀ r ∈ rules, r.validate = .ok ()) (hid : Rule.checkClientId clientId = .ok ()) :
    ∀ r ∈ scope clientId rules, r.validate = .ok () := by
  intro r hr
  obtain ⟨s, hs, rfl⟩ := List.mem_map.mp hr
  have hvalid := hrules s (List.mem_filter.mp hs).1
  rw [Rule.validate_eq_ok_iff, Rule.check_eq_ok_iff] at hvalid ⊢
  exact ⟨hvalid.1, hid, hvalid.2.2⟩

theorem nodup_scope (h : (rules.map Rule.ruleNum).Nodup) : ((scope clientId rules).map Rule.ruleNum).Nodup := by
  rw [scope, List.map_map]
  exact h.sublist (List.filter_sublist.map _)

/-- Of the agent's own, the rules for a client depend on the configuration and on the number that is left free. -/
theorem fit_scope_healthz_iff (port : Int) (hrules : RuleSet.Fit rules) :
    RuleSet.Fit (scope clientId rules ++ systemRules clientId port user domain users) ↔
      HealthzFit clientId user domain users ∧ ∀ r ∈ scope clientId rules, r.ruleNum ≠ maxRuleNum := by
  have hown : healthzRule clientId port user domain users ∈ scope clientId rules ++
      systemRules clientId port user domain users := by simp [systemRules]
  have hdistinct : ((scope clientId rules ++ systemRules clientId port user domain users).map Rule.ruleNum).Nodup ↔
      ∀ r ∈ scope clientId rules, r.ruleNum ≠ maxRuleNum := by
    simp [List.nodup_append, nodup_scope hrules.distinct, systemRules, healthzRule]
  constructor
  · intro h
    exact ⟨validate_healthzRule_iff.mp (h.valid _ hown), hdistinct.mp h.distinct⟩
  · intro ⟨hfit, hfree⟩
    have hhealthz : (healthzRule clientId port user domain users).validate = .ok () :=
      validate_healthzRule_iff.mpr hfit
    have hid := (Rule.check_eq_ok_iff.mp (Rule.validate_eq_ok_iff.mp hhealthz)).2.1
    refine ⟨List.ne_nil_of_mem hown, ?_, hdistinct.mpr hfree⟩
    rw [List.forall_mem_append, systemRules, List.forall_mem_singleton]
    exact ⟨validate_scope hrules.valid hid, hhealthz⟩

theorem exists_served_healthz_iff :
    (∃ served, (provision supply false (healthzRequest clientId socksPort port user domain users) rules l).result =
      .ok served) ↔
      HealthzFit clientId user domain users ∧ FeedReady clientId socksPort rules ∧
        Answers supply l (candidates (healthzRequest clientId socksPort port user domain users) rules) := by
  have hcandidates : candidates (healthzRequest clientId socksPort port user domain users) rules =
      scope clientId (rules.map Rule.numbered) ++ systemRules clientId port user domain users :=
    candidates_eq_scope _ _
  have hports : (∀ r ∈ scope clientId (rules.map Rule.numbered) ++ systemRules clientId port user domain users,
      r.isPlainHttp = false → ∀ p, r.httpProxyPort = some p → isPort p = true) ↔
      ∀ r ∈ scope clientId (rules.map Rule.numbered), r.isPlainHttp = false →
        ∀ p, r.httpProxyPort = some p → isPort p = true := by
    rw [List.forall_mem_append, systemRules, List.forall_mem_singleton]
    simp [healthzRule]
  rw [exists_served_iff, hcandidates, hports]
  constructor
  · intro ⟨hadmitted, hfit, hanswers, hlistener, hown⟩
    obtain ⟨hconfig, hfree⟩ := (fit_scope_healthz_iff port (admitted_iff.mp hadmitted).2).mp hfit
    exact ⟨hconfig, ⟨hadmitted, hfree, hlistener, hown⟩, hanswers⟩
  · intro ⟨hconfig, hready, hanswers⟩
    have hfit := (fit_scope_healthz_iff port (admitted_iff.mp hready.admitted).2).mpr ⟨hconfig, hready.numberFree⟩
    exact ⟨hready.admitted, hfit, hanswers, hready.listenerPort, hready.ownPorts⟩

end Provisioning

/-- The rule for the health page is valid exactly when the configuration is fit for it. That much provisioning asks of
the configuration; all else it asks of the feed and of the machine. -/
theorem healthzRule_validate_iff (clientId : Option String) (port : Int) (user domain : String)
    (users : GadgetUsers) :
    ((healthzRule clientId port user domain users).validate = .ok () ↔ HealthzFit clientId user domain users) ∧
    ∀ supply l socksPort rules,
      (∃ served, (provision supply false (healthzRequest clientId socksPort port user domain users) rules l).result =
        .ok served) ↔
        HealthzFit clientId user domain users ∧ FeedReady clientId socksPort rules ∧
          Answers supply l (candidates (healthzRequest clientId socksPort port user domain users) rules) :=
  ⟨validate_healthzRule_iff, fun _ _ _ _ => exists_served_healthz_iff⟩

section Sample
open AccessGate.Agent (sampleMachine sampleRule)

def healthzSample : Request := healthzRequest (some "c1") 1080 8123 "admin" "corp" (.joined " a@corp,,b@corp ")

def healthzFeed : List Rule := [sampleRule 1 "https://tls" .hostPort]

theorem healthzRule_validate_iff_sample :
    HealthzFit (some "c1") "admin" "corp" (.joined " a@corp,,b@corp ") ∧ FeedReady (some "c1") 1080 healthzFeed ∧
    (∃ served, (provision sampleMachine.toSupply false healthzSample healthzFeed {}).result = .ok served) ∧
    ¬HealthzFit (some " c1 ") "admin" "corp" .none := by
  obtain ⟨-, hserved⟩ := healthzRule_validate_iff (some "c1") 8123 "admin" "corp" (.joined " a@corp,,b@corp ")
  have hresult : ∃ served,
      (provision sampleMachine.toSupply false healthzSample healthzFeed {}).result = .ok served := ⟨_, rfl⟩
  obtain ⟨hfit, hready, _⟩ := (hserved sampleMachine.toSupply {} 1080 healthzFeed).mp hresult
  refine ⟨hfit, hready, hresult, fun hpadded => ?_⟩
  have hvalid := (healthzRule_validate_iff (some " c1 ") 8123 "admin" "corp" .none).1.mpr hpadded
  cases hvalid

/-- The configuration is fit, and the feed is served without the rule for the health page; but a rule of the feed has
the number of that rule, and so nothing is served with it. -/
theorem healthz_number_taken :
    HealthzFit (some "c1") "admin" "corp" .none ∧
    (∃ served, (provision sampleMachine.toSupply false ⟨some "c1", 1080, []⟩
      [sampleRule maxRuleNum "https://tls" .hostPort] {}).result = .ok served) ∧
    (provision sampleMachine.toSupply false (healthzRequest (some "c1") 1080 8123 "admin" "corp" .none)
      [sampleRule maxRuleNum "https://tls" .hostPort] {}).result =
        .error (.rule ⟨.ruleSet (.duplicate maxRuleNum), some maxRuleNum⟩) := by
  have hvalid : (healthzRule (some "c1") 8123 "admin" "corp" .none).validate = .ok () := rfl
  exact ⟨validate_healthzRule_iff.mp hvalid, ⟨_, rfl⟩, rfl⟩

end Sample

end Provision
end AccessGate
