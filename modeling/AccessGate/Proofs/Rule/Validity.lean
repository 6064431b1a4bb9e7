import AccessGate.Proofs.Conditions
import AccessGate.Proofs.Rule.Pattern
import AccessGate.Proofs.Url.Location

/-! # When a rule is valid

The checks of a rule test one list of conditions, in the order of its fields. So a rule passes them exactly when
it is valid, and what is reported of any other rule is the first condition in that order that it breaks, however
many it breaks. What is filled in before a rule is served adds conditions at the end of the list. -/
namespace AccessGate.Rule

/-- `Says fault words f`: what is reported is this fault, in these words. -/
def Says (fault : RuleFault) (words : String) (f : RuleFault) : Prop := f = fault ∧ fault.message = words

def ShowsPattern (r : Rule) (fault : String → RuleFault) (words : String → String) (f : RuleFault) : Prop :=
  ∃ pattern, r.pattern = some pattern ∧ Says (fault (Text.trim pattern)) (words (Text.trim pattern)) f

def ShowsUrl (fault : Url.Fault) (f : RuleFault) : Prop :=
  ∃ words, fault.Words words ∧ Says (.invalidUrl fault) s!"Invalid pattern URL: {words}" f

/-- A rule that stands for the host and port of a URL over `http://` or `https://`: the URL, taken apart, or the
reason why it cannot be. -/
def HostUrl (r : Rule) (url : Except Url.Fault Url.Parts) : Prop :=
  r.HasType .hostPort ∧ ∃ scheme pattern, scheme ≠ .socket ∧ r.Opens scheme ∧ r.pattern = some pattern ∧
    url = urlParts scheme (Text.trim pattern)

def numberCondition (r : Rule) : Condition RuleFault :=
  let shown := r.pattern.getD "None"
  ⟨0 < r.ruleNum, Says (.ruleNumNotPositive r.pattern) s!"({shown}) must have ruleNum greater than 0."⟩

def clientIdConditions (r : Rule) : List (Condition RuleFault) :=
  [⟨∃ clientId, r.clientId = some clientId ∧ Text.trim clientId ≠ "",
      Says .clientIdMissing "'clientId' field must be present"⟩,
    ⟨∀ clientId, r.clientId = some clientId → Text.Unbroken clientId, fun f => ∃ clientId,
      r.clientId = some clientId ∧
        Says (.clientIdBlank clientId) s!"'clientId' field '{clientId}' must not contain any white space." f⟩]

def entityConditions (entity : String) : List (Condition RuleFault) :=
  [⟨Text.Unbroken entity,
      Says (.entityBlank entity) s!"'allowedEntities' field '{entity}' must not contain any white space."⟩,
    ⟨'@' ∈ entity.toList, Says (.entityNotAddress entity)
      s!"'allowedEntities' field '{entity}' must be a valid fully qualified email address"⟩]

def entitiesConditions (r : Rule) : List (Condition RuleFault) :=
  ⟨r.allowedEntities ≠ [], Says .entitiesMissing "at least one 'allowedEntities' field must be present"⟩ ::
    r.allowedEntities.flatMap entityConditions

def appConditions (app : AppTag) : List (Condition RuleFault) :=
  [⟨app.container ≠ none ∧ app.appId ≠ none, Says .appIncomplete "'apps' entries need both a container and an appId"⟩,
    ⟨∀ container appId, app = ⟨some container, some appId⟩ → Text.Unbroken container ∧ Text.Unbroken appId,
      fun f => ∃ container appId, app = ⟨some container, some appId⟩ ∧ Says (.appBlank container appId)
        s!"'apps' field <{container}:{appId}> must not contain any white space." f⟩]

def appsConditions (r : Rule) : List (Condition RuleFault) :=
  ⟨r.apps ≠ [], Says .appsMissing "at least one 'app' field must be present"⟩ :: r.apps.flatMap appConditions

def patternConditions (r : Rule) : List (Condition RuleFault) :=
  [⟨r.pattern ≠ none, Says .patternMissing "'pattern' must be present."⟩,
    ⟨∀ pattern, r.pattern = some pattern → Text.Unbroken pattern,
      r.ShowsPattern .patternBlank fun pattern => s!"'pattern' field '{pattern}' must not contain any white space."⟩,
    ⟨∃ scheme, r.Opens scheme, r.ShowsPattern .unknownScheme fun pattern => s!"Invalid pattern: {pattern}"⟩]

def typeConditions (r : Rule) : List (Condition RuleFault) :=
  [⟨r.patternType ≠ none,
      r.ShowsPattern .patternTypeMissing fun pattern => s!"'patternType' missing for {pattern}"⟩,
    ⟨∃ t, r.HasType t, fun f => ∃ text, r.patternType = some (.written text) ∧
      Says (.unsupportedPatternType text) s!"'patternType' {text} not supported." f⟩]

/-- What the type of a rule asks of its pattern. -/
def fitConditions (r : Rule) : List (Condition RuleFault) :=
  [⟨r.HasType .urlExact → r.Opens .http,
      Says .exactNotHttp "Pattern type: URLEXACT works only with http. Use HOSTPORT for https or socket"⟩,
    ⟨∀ fault, ¬r.HostUrl (.error fault), fun f => ∃ fault, r.HostUrl (.error fault) ∧ ShowsUrl fault f⟩,
    ⟨∀ parts, r.HostUrl (.ok parts) → ∃ port, parts.location.portNumber? = .ok port,
      fun f => ∃ parts fault, r.HostUrl (.ok parts) ∧ parts.location.portNumber? = .error fault ∧
        ShowsUrl fault f⟩,
    ⟨∀ parts, r.HostUrl (.ok parts) → parts.location.hostName ≠ "",
      r.ShowsPattern .hostMissing fun pattern => s!"Invalid pattern URL: no host in {pattern}"⟩,
    ⟨∀ parts, r.HostUrl (.ok parts) → parts.path.length ≤ 1, r.ShowsPattern .pathNotAllowed fun pattern =>
      s!"'pattern' {pattern} cannot contain any path elements when using HOSTPORT pattern type"⟩]

/-- The conditions of what an author writes, in the order in which they are looked at. -/
def conditions (r : Rule) : List (Condition RuleFault) :=
  r.numberCondition :: (r.clientIdConditions ++ (r.entitiesConditions ++
    (r.appsConditions ++ (r.patternConditions ++ (r.typeConditions ++ r.fitConditions)))))

def localPortConditions (r : Rule) : List (Condition RuleFault) :=
  [⟨∀ port, r.httpProxyPort = some port → 0 ≤ port ∧ port ≤ 65535, fun f => ∃ port, r.httpProxyPort = some port ∧
      Says (.httpProxyPortOutOfRange port) s!"HttpProxyPort {Text.decimal port} out of range." f⟩,
    ⟨r.HasType .urlExact → r.httpProxyPort ≠ none,
      Says .httpProxyPortMissing "'httpProxyPort' required for each http:// resource"⟩]

def listenerPortConditions (r : Rule) : List (Condition RuleFault) :=
  [⟨r.socksServerPort ≠ none, Says .socksServerPortMissing "'socksServerPort' required for each resource"⟩,
    ⟨∀ port, r.socksServerPort = some port → 0 ≤ port ∧ port ≤ 65535, fun f => ∃ port,
      r.socksServerPort = some port ∧
        Says (.socksServerPortOutOfRange port) s!"socksServerPort {Text.decimal port} out of range." f⟩]

/-- The conditions of what is filled in before a rule is served, in the order in which they are looked at. -/
def filledConditions (r : Rule) : List (Condition RuleFault) :=
  r.localPortConditions ++ (r.listenerPortConditions ++
    [⟨r.secretKey ≠ none, Says .secretKeyMissing "Rule is missing secret key"⟩])

/-- What makes a rule fit for a feed. -/
structure Valid (r : Rule) : Prop where
  number : 0 < r.ruleNum
  client : ∃ clientId, r.clientId = some clientId ∧ Text.trim clientId ≠ "" ∧ Text.Unbroken clientId
  entities : r.allowedEntities ≠ []
  eachEntity : ∀ entity ∈ r.allowedEntities, Text.Unbroken entity ∧ '@' ∈ entity.toList
  apps : r.apps ≠ []
  eachApp : ∀ app ∈ r.apps, ∃ container appId, app = ⟨some container, some appId⟩ ∧
    Text.Unbroken container ∧ Text.Unbroken appId
  pattern : ∃ pattern, r.pattern = some pattern ∧ Text.Unbroken pattern
  scheme : ∃ scheme, r.Opens scheme
  type : ∃ t, r.HasType t
  /-- Only plain http has exact URLs. -/
  exactUrl : r.HasType .urlExact → r.Opens .http
  /-- A URL that stands for its host and port can be read, has a host, and leads no further. -/
  hostUrl : ∀ url, r.HostUrl url → ∃ parts port, url = .ok parts ∧ parts.location.portNumber? = .ok port ∧
    parts.location.hostName ≠ "" ∧ parts.path.length ≤ 1

/-- What has to be filled in of a valid rule before it is served. -/
structure Filled (r : Rule) : Prop where
  localPort : ∀ port, r.httpProxyPort = some port → 0 ≤ port ∧ port ≤ 65535
  exactLocalPort : r.HasType .urlExact → r.httpProxyPort ≠ none
  listenerPort : ∃ port, r.socksServerPort = some port ∧ 0 ≤ port ∧ port ≤ 65535
  key : ∃ key, r.secretKey = some key

section Holds
variable {r : Rule}

theorem says_iff {fault f : RuleFault} {words : String} (h : fault.message = words) :
    Says fault words f ↔ f = fault := by
  rw [Says, and_iff_left h]

theorem exists_says_iff {α : Type} {a : α} {fault : α → RuleFault} {words : α → String} {f : RuleFault}
    (h : (fault a).message = words a) : (∃ b, some a = some b ∧ Says (fault b) (words b) f) ↔ f = fault a := by
  simp only [Option.some.injEq, exists_eq_left']
  exact says_iff h

theorem showsPattern_iff {pattern : String} {fault : String → RuleFault} {words : String → String} {f : RuleFault}
    (hpattern : r.pattern = some pattern) (h : (fault (Text.trim pattern)).message = words (Text.trim pattern)) :
    r.ShowsPattern fault words f ↔ f = fault (Text.trim pattern) := by
  simp only [ShowsPattern, hpattern, Option.some.injEq, exists_eq_left']
  exact says_iff h

theorem showsUrl_iff {fault : Url.Fault} {f : RuleFault} : ShowsUrl fault f ↔ f = .invalidUrl fault := by
  simp only [ShowsUrl, Url.Fault.words_iff, exists_eq_left']
  exact says_iff rfl

theorem forall_entityConditions {entity : String} :
    (∀ c ∈ entityConditions entity, c.Holds) ↔ Text.Unbroken entity ∧ '@' ∈ entity.toList := by
  simp [entityConditions]

theorem forall_appConditions {app : AppTag} : (∀ c ∈ appConditions app, c.Holds) ↔
    ∃ container appId, app = ⟨some container, some appId⟩ ∧ Text.Unbroken container ∧ Text.Unbroken appId := by
  obtain ⟨container, appId⟩ := app
  cases container <;> cases appId <;> simp [appConditions]

theorem forall_entitiesConditions : (∀ c ∈ r.entitiesConditions, c.Holds) ↔
    r.allowedEntities ≠ [] ∧ ∀ entity ∈ r.allowedEntities, Text.Unbroken entity ∧ '@' ∈ entity.toList := by
  simp only [entitiesConditions, List.forall_mem_cons, List.forall_mem_flatMap, forall_entityConditions]

theorem forall_appsConditions : (∀ c ∈ r.appsConditions, c.Holds) ↔ r.apps ≠ [] ∧ ∀ app ∈ r.apps,
    ∃ container appId, app = ⟨some container, some appId⟩ ∧ Text.Unbroken container ∧ Text.Unbroken appId := by
  simp only [appsConditions, List.forall_mem_cons, List.forall_mem_flatMap, forall_appConditions]

theorem forall_clientIdConditions : (∀ c ∈ r.clientIdConditions, c.Holds) ↔
    ∃ clientId, r.clientId = some clientId ∧ Text.trim clientId ≠ "" ∧ Text.Unbroken clientId := by
  unfold clientIdConditions
  cases r.clientId <;> simp

theorem forall_patternConditions : (∀ c ∈ r.patternConditions, c.Holds) ↔
    (∃ pattern, r.pattern = some pattern ∧ Text.Unbroken pattern) ∧ ∃ scheme, r.Opens scheme := by
  unfold patternConditions
  cases r.pattern <;> simp

theorem forall_typeConditions : (∀ c ∈ r.typeConditions, c.Holds) ↔ ∃ t, r.HasType t := by
  have htype : (∃ t, r.HasType t) → r.patternType ≠ none := by
    rintro ⟨t, field, hfield, _⟩ hnone
    cases hfield.symm.trans hnone
  simpa [typeConditions] using htype

theorem forall_hostUrl_iff {P : Url.Parts → Prop} :
    (∀ url, r.HostUrl url → ∃ parts, url = .ok parts ∧ P parts) ↔
      (∀ fault, ¬r.HostUrl (.error fault)) ∧ ∀ parts, r.HostUrl (.ok parts) → P parts := by
  constructor
  · intro h
    refine ⟨fun fault hurl => ?_, fun parts hurl => ?_⟩
    · obtain ⟨_, ⟨⟩, _⟩ := h _ hurl
    · obtain ⟨_, ⟨⟩, hparts⟩ := h _ hurl
      exact hparts
  · rintro ⟨hfault, hparts⟩ (fault | parts) hurl
    · exact absurd hurl (hfault fault)
    · exact ⟨parts, rfl, hparts parts hurl⟩

theorem forall_fitConditions : (∀ c ∈ r.fitConditions, c.Holds) ↔ (r.HasType .urlExact → r.Opens .http) ∧
    ∀ url, r.HostUrl url → ∃ parts port, url = .ok parts ∧ parts.location.portNumber? = .ok port ∧
      parts.location.hostName ≠ "" ∧ parts.path.length ≤ 1 := by
  simp only [exists_and_left, exists_and_right, forall_hostUrl_iff, imp_and, forall_and]
  simp [fitConditions]

theorem forall_conditions_iff : (∀ c ∈ r.conditions, c.Holds) ↔ r.Valid := by
  simp only [conditions, List.forall_mem_cons, List.forall_mem_append, forall_clientIdConditions,
    forall_entitiesConditions, forall_appsConditions, forall_patternConditions, forall_typeConditions,
    forall_fitConditions]
  constructor
  · intro ⟨number, client, ⟨entities, eachEntity⟩, ⟨apps, eachApp⟩, ⟨pattern, scheme⟩, type, exactUrl, hostUrl⟩
    exact { number, client, entities, eachEntity, apps, eachApp, pattern, scheme, type, exactUrl, hostUrl }
  · intro h
    exact ⟨h.number, h.client, ⟨h.entities, h.eachEntity⟩, ⟨h.apps, h.eachApp⟩, ⟨h.pattern, h.scheme⟩, h.type,
      h.exactUrl, h.hostUrl⟩

theorem forall_filledConditions_iff : (∀ c ∈ r.filledConditions, c.Holds) ↔ r.Filled := by
  have hlistener : (r.socksServerPort ≠ none ∧
      ∀ port, r.socksServerPort = some port → 0 ≤ port ∧ port ≤ 65535) ↔
        ∃ port, r.socksServerPort = some port ∧ 0 ≤ port ∧ port ≤ 65535 := by
    cases r.socksServerPort <;> simp
  simp only [filledConditions, localPortConditions, listenerPortConditions, List.cons_append, List.nil_append,
    List.forall_mem_cons]
  constructor
  · rintro ⟨localPort, exactLocalPort, hgiven, hrange, hkey, _⟩
    exact ⟨localPort, exactLocalPort, hlistener.mp ⟨hgiven, hrange⟩, Option.ne_none_iff_exists'.mp hkey⟩
  · intro h
    obtain ⟨hgiven, hrange⟩ := hlistener.mpr h.listenerPort
    exact ⟨h.localPort, h.exactLocalPort, hgiven, hrange, Option.ne_none_iff_exists'.mpr h.key, by simp⟩

end Holds

section Tests
variable {r : Rule} {pattern : String} {scheme : Scheme} {t : PatternType}

theorem tests_checkClientId : Tests r.clientIdConditions (checkClientId r.clientId) := by
  unfold clientIdConditions
  cases r.clientId with
  | none => exact .stop (by simp) fun _ => says_iff rfl
  | some clientId =>
    refine .refuse ?_ (fun _ => says_iff rfl) fun _ => .refuse ?_ (fun _ => exists_says_iff rfl) fun _ => .ok ()
    · simp [Text.trim_eq_empty_iff]
    · simp [Text.hasInnerBlank_iff]

theorem tests_checkEntity (entity : String) : Tests (entityConditions entity) (checkEntity entity) := by
  refine .refuse Text.hasInnerBlank_iff (fun _ => says_iff rfl) fun _ => ?_
  exact .require (by simp) (fun _ => says_iff rfl) fun _ => .ok ()

theorem tests_checkApp (app : AppTag) : Tests (appConditions app) (checkApp app) := by
  obtain ⟨container, appId⟩ := app
  cases container with
  | none => exact .stop (by simp) fun _ => says_iff rfl
  | some container =>
    cases appId with
    | none => exact .stop (by simp) fun _ => says_iff rfl
    | some appId =>
      refine .pass (by simp) (.refuse ?_ (fun f => ?_) fun _ => .ok ())
      · simp [Text.hasInnerBlank_iff, ← not_and_or]
      · simp only [AppTag.mk.injEq, Option.some.injEq, exists_and_left, and_assoc, exists_eq_left']
        exact says_iff rfl

theorem tests_readPattern : Tests r.patternConditions (readPattern r.pattern) := by
  unfold patternConditions Opens
  cases hpattern : r.pattern with
  | none => exact .stop (by simp) fun _ => says_iff rfl
  | some pattern =>
    refine .pass (by simp) ?_
    rw [readPattern]
    refine .refuse (by simp [Text.hasInnerBlank_iff]) (fun _ => ?_) fun _ => ?_
    · dsimp only
      exact showsPattern_iff hpattern rfl
    cases hscheme : schemeOf? pattern with
    | none =>
      refine .stop ?_ fun _ => showsPattern_iff hpattern rfl
      rintro ⟨scheme, _, ⟨⟩, hopens⟩
      rw [Text.toList_trim, ← Scheme.ofChars?_eq_some_iff] at hopens
      cases hscheme.symm.trans hopens
    | some scheme =>
      refine .pass ⟨scheme, pattern, rfl, ?_⟩ (.ok _)
      rw [Text.toList_trim, ← Scheme.ofChars?_eq_some_iff]
      exact hscheme

theorem tests_readPatternType (hpattern : r.pattern = some pattern) :
    Tests r.typeConditions (readPatternType (Text.trim pattern) r.patternType) := by
  unfold typeConditions
  cases htype : r.patternType with
  | none => exact .stop (by simp) fun _ => showsPattern_iff hpattern rfl
  | some field =>
    refine .pass (by simp) ?_
    simp only [readPatternType, hasType_iff htype]
    cases hread : field.read with
    | ok t => exact .pass ⟨t, PatternTypeField.read_eq_ok_iff.mp hread⟩ (.ok t)
    | error f =>
      obtain ⟨s, rfl, hnone, rfl⟩ := PatternTypeField.read_eq_error_iff.mp hread
      refine .stop (by simpa using hnone) fun f => ?_
      simp only [Option.some.injEq, PatternTypeField.written.injEq, exists_eq_left']
      exact says_iff rfl

theorem not_hostUrl_of_hasType (h : r.HasType t) (ht : t ≠ .hostPort) (url : Except Url.Fault Url.Parts) :
    ¬r.HostUrl url :=
  fun hurl => ht (h.unique hurl.1)

theorem not_hostUrl_of_opens_socket (h : r.Opens .socket) (url : Except Url.Fault Url.Parts) :
    ¬r.HostUrl url :=
  fun ⟨_, _, _, hother, hopens, _⟩ => hother (hopens.unique h)

theorem tests_no_url (hexact : r.HasType .urlExact → r.Opens .http) (hurl : ∀ url, ¬r.HostUrl url) :
    Tests r.fitConditions (.ok () : Except RuleFault Unit) :=
  .pass hexact (.pass (fun _ => hurl _) (.pass (fun _ h => absurd h (hurl _))
    (.pass (fun _ h => absurd h (hurl _)) (.pass (fun _ h => absurd h (hurl _)) (.ok ())))))

theorem tests_checkHostPort (hpattern : r.pattern = some pattern) (hscheme : r.Opens scheme)
    (hother : scheme ≠ .socket) (htype : r.HasType .hostPort) :
    Tests r.fitConditions (checkHostPort scheme (Text.trim pattern)) := by
  have hurl (url : Except Url.Fault Url.Parts) : r.HostUrl url ↔ url = urlParts scheme (Text.trim pattern) := by
    constructor
    · rintro ⟨_, scheme', pattern', _, hscheme', hpattern', rfl⟩
      obtain rfl := hscheme.unique hscheme'
      obtain rfl := Option.some.inj (hpattern.symm.trans hpattern')
      rfl
    · rintro rfl
      exact ⟨htype, scheme, pattern, hother, hscheme, hpattern, rfl⟩
  refine .pass (fun hexact => by cases htype.unique hexact) ?_
  unfold checkHostPort
  simp only [hurl]
  cases hparts : urlParts scheme (Text.trim pattern) with
  | error fault => exact .stop (by simp) (by simp [showsUrl_iff])
  | ok parts =>
    refine .pass (by simp) ?_
    dsimp only
    cases hport : parts.location.portNumber? with
    | error fault => exact .stop (by simp [hport]) (by simp [hport, showsUrl_iff])
    | ok port =>
      refine .pass (by simp [hport]) (.refuse ?_ (fun _ => ?_) fun _ => .refuse ?_ (fun _ => ?_) fun _ => .ok ())
      · simp [Url.Location.hostName_eq_empty_iff]
      · dsimp only
        exact showsPattern_iff hpattern rfl
      · simp
      · dsimp only
        exact showsPattern_iff hpattern rfl

theorem tests_checkPatternType (hpattern : r.pattern = some pattern) (hscheme : r.Opens scheme)
    (htype : r.HasType t) : Tests r.fitConditions (checkPatternType (Text.trim pattern) t scheme) := by
  cases t with
  | urlExact =>
    have hurl := not_hostUrl_of_hasType htype (by simp)
    cases scheme with
    | http => exact tests_no_url (fun _ => hscheme) hurl
    | https | socket =>
      refine .stop (fun h => ?_) fun _ => says_iff rfl
      cases (h htype).unique hscheme
  | hostPort =>
    have hexact : r.HasType .urlExact → r.Opens .http := fun h => by cases htype.unique h
    by_cases hsocket : scheme = .socket
    · subst hsocket
      exact tests_no_url hexact (not_hostUrl_of_opens_socket hscheme)
    · rw [checkPatternType_hostPort hsocket]
      exact tests_checkHostPort hpattern hscheme hsocket htype
  | regex =>
    have hexact : r.HasType .urlExact → r.Opens .http := fun h => by cases htype.unique h
    exact tests_no_url hexact (not_hostUrl_of_hasType htype (by simp))

theorem tests_checkEntities : Tests r.entitiesConditions (checkEntities r.allowedEntities) :=
  .refuse (by simp) (fun _ => says_iff rfl) fun _ => .forM tests_checkEntity

theorem tests_checkApps : Tests r.appsConditions (checkApps r.apps) :=
  .refuse (by simp) (fun _ => says_iff rfl) fun _ => .forM tests_checkApp

theorem numberCondition_reports_iff (r : Rule) (f : RuleFault) :
    r.numberCondition.Reports f ↔ f = .ruleNumNotPositive r.pattern := by
  refine says_iff ?_
  cases hpattern : r.pattern <;> rfl

theorem tests_check (r : Rule) : Tests r.conditions r.check := by
  refine .refuse (by simp [numberCondition]) r.numberCondition_reports_iff fun _ => ?_
  refine tests_checkClientId.bind fun _ _ => tests_checkEntities.bind fun _ _ => tests_checkApps.bind fun _ _ => ?_
  refine tests_readPattern.bind fun ⟨trimmed, scheme⟩ hread => ?_
  obtain ⟨pattern, hpattern, _, htrimmed, hscheme⟩ := readPattern_eq_ok_iff.mp hread
  obtain rfl : trimmed = Text.trim pattern := htrimmed
  have hopens : r.Opens scheme := by
    rw [← scheme?_eq_some_iff, scheme?, hpattern]
    exact hscheme
  refine (tests_readPatternType hpattern).bind fun t ht => ?_
  exact tests_checkPatternType hpattern hopens (readPatternType_eq_ok_iff.mp ht)

theorem tests_checkHttpProxyPort (hvalid : r.check = .ok ()) :
    Tests r.localPortConditions r.checkHttpProxyPort := by
  unfold localPortConditions checkHttpProxyPort
  cases r.httpProxyPort with
  | some port =>
    exact .require (by simp [isPort_iff]) (fun _ => exists_says_iff rfl) fun _ => .pass (by simp) (.ok ())
  | none =>
    obtain ⟨t, htype⟩ := (forall_conditions_iff.mp ((tests_check r).passes.mp ⟨_, hvalid⟩)).type
    rw [readPatternType_eq_ok_iff.mpr htype]
    have hexact : r.HasType .urlExact ↔ t = .urlExact :=
      ⟨htype.unique, fun h => h ▸ htype⟩
    exact .pass (by simp) (.refuse (by simp [hexact]) (fun _ => says_iff rfl) fun _ => .ok ())

theorem tests_checkSocksServerPort : Tests r.listenerPortConditions (checkSocksServerPort r.socksServerPort) := by
  unfold listenerPortConditions
  cases r.socksServerPort with
  | none => exact .stop (by simp) fun _ => says_iff rfl
  | some port =>
    exact .pass (by simp) (.require (by simp [isPort_iff]) (fun _ => exists_says_iff rfl) fun _ => .ok ())

theorem tests_checkRuntime (r : Rule) : Tests (r.conditions ++ r.filledConditions) r.checkRuntime := by
  refine (tests_check r).bind fun _ hvalid => ?_
  refine (tests_checkHttpProxyPort hvalid).bind fun _ _ => tests_checkSocksServerPort.bind fun _ _ => ?_
  exact .refuse (by simp) (fun _ => says_iff rfl) fun _ => .ok ()

theorem error_validation_iff {e : RuleError} {x : Except RuleFault Unit} {conditions : List (Condition RuleFault)}
    (h : Tests conditions x) : x.mapError r.errorAt = .error e ↔
      e.errorClass = .validation ∧ e.ruleNum = some r.ruleNum ∧ ∃ f, e.fault = .rule f ∧
        e.message = s!"Resource {Text.decimal r.ruleNum} {f.message}" ∧ FirstBroken conditions f := by
  rw [mapError_eq_error_iff]
  simp only [h.fails]
  constructor
  · rintro ⟨f, hf, rfl⟩
    exact ⟨rfl, rfl, f, rfl, rfl, hf⟩
  · obtain ⟨fault, ruleNum⟩ := e
    rintro ⟨_, hnum, f, hfault, _, hf⟩
    exact ⟨f, hf, congrArg₂ RuleError.mk hfault hnum⟩

end Tests

/-- A rule passes its checks exactly when it is valid, and is fit to be served exactly when all is filled in besides.
Any other rule is refused with a validation error that carries the number of the rule and says, in the words of that
condition, which condition it breaks first. -/
theorem validate_reports_first_broken (r : Rule) :
    (r.validate = .ok () ↔ r.Valid) ∧
    (∀ e, r.validate = .error e ↔ e.errorClass = .validation ∧ e.ruleNum = some r.ruleNum ∧
      ∃ f, e.fault = .rule f ∧ e.message = s!"Resource {Text.decimal r.ruleNum} {f.message}" ∧
        FirstBroken r.conditions f) ∧
    (r.validateRuntime = .ok () ↔ r.validate = .ok () ∧ r.Filled) ∧
    ∀ e, r.validateRuntime = .error e ↔ e.errorClass = .validation ∧ e.ruleNum = some r.ruleNum ∧
      ∃ f, e.fault = .rule f ∧ e.message = s!"Resource {Text.decimal r.ruleNum} {f.message}" ∧
        FirstBroken (r.conditions ++ r.filledConditions) f := by
  have hcheck : r.check = .ok () ↔ r.Valid := by
    rw [← forall_conditions_iff, ← (tests_check r).passes, exists_eq_ok_iff]
  have hruntime : r.checkRuntime = .ok () ↔ r.Valid ∧ r.Filled := by
    rw [← forall_conditions_iff, ← forall_filledConditions_iff, ← List.forall_mem_append,
      ← (tests_checkRuntime r).passes, exists_eq_ok_iff]
  refine ⟨?_, fun e => error_validation_iff (tests_check r), ?_, fun e =>
    error_validation_iff (tests_checkRuntime r)⟩
  · rw [validate_eq_ok_iff, hcheck]
  · rw [validateRuntime, mapError_eq_ok_iff, hruntime, validate_eq_ok_iff, hcheck]

/-- Of an entity that is no address, no apps and no scheme, the entity is reported. -/
example :
    ({ ruleNum := 7
       clientId := some " c1 "
       allowedEntities := ["ops@corp", "ops"]
       pattern := some "ftp://wiki" } : Rule).validate =
      .error ⟨.rule (.entityNotAddress "ops"), some 7⟩ :=
  rfl

end AccessGate.Rule
