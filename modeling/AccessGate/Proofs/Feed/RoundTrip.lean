import AccessGate.Feed
import AccessGate.Proofs.Json.RoundTrip
import AccessGate.Proofs.Refusal
import AccessGate.Proofs.Text.Utf8

/-! # Rules read back from a feed

A rule is written as a record under the keys of the feed, without the fields that it leaves empty. A feed of such
records, as a list or as the member of an object, is read as the rules that were written, in their order. -/
namespace AccessGate

open AccessGate.Text (IsReadable)

namespace Text

theorem unifyLineEnds_of_not_mem {cs : List Char} (h : '\r' ∉ cs) : unifyLineEnds cs = cs := by
  induction cs with
  | nil => rfl
  | cons c cs ih =>
    simp only [List.mem_cons, not_or] at h
    obtain ⟨hc, hcs⟩ := h
    rw [unifyLineEnds, ih hcs]
    · rintro _ rfl
      exact absurd rfl hc
    · exact fun h => hc h.symm

end Text

def AppTag.toJson (tag : AppTag) : Json :=
  .obj [("container", (tag.container.map Json.str).getD .null), ("appId", (tag.appId.map Json.str).getD .null)]

def PatternTypeField.text : PatternTypeField → String
  | .known t => t.name
  | .written s => s

namespace Rule

/-- What a rule gives for a field, as a feed writes it; nothing for a field that is empty. -/
def fieldValue? (r : Rule) : Field → Option Json
  | .ruleNum => some (.int r.ruleNum)
  | .clientId => r.clientId.map .str
  | .allowedEntities => some (.arr (r.allowedEntities.map .str))
  | .apps => some (.arr (r.apps.map AppTag.toJson))
  | .pattern => r.pattern.map .str
  | .patternType => r.patternType.map fun t => .str t.text
  | .httpProxyPort => r.httpProxyPort.map .int
  | .socksServerPort => r.socksServerPort.map .int
  | .secretKey => r.secretKey.map .str
  | .name => r.name.map .str

/-- The record of a rule: the fields that it gives, in their order. -/
def toRecord (r : Rule) : Record := Field.all.filterMap fun f => (r.fieldValue? f).map (f.label, ·)

/-- A rule that a feed can give: its pattern type is known, and its numbers are within the limit of what can be
read. -/
structure Recordable (r : Rule) : Prop where
  typeKnown : r.TypeKnown
  ruleNum : IsReadable r.ruleNum
  httpProxyPort : ∀ n ∈ r.httpProxyPort, IsReadable n
  socksServerPort : ∀ n ∈ r.socksServerPort, IsReadable n

end Rule

namespace Record
variable {field : Field} {values : Field → Option Json}

theorem ofKey?_label (f : Field) : Field.ofKey? f.label = some f := by
  cases f <;> decide

theorem value?_filterMap (hnull : ∀ f v, values f = some v → v.isNull = false) :
    value? (Field.all.filterMap fun f => (values f).map (f.label, ·)) field = values field := by
  have hmatch : ∀ f, ((values f).map (f.label, ·)).any
      (fun member => Field.ofKey? member.1 = some field && !member.2.isNull) = true ↔
        f = field ∧ (values f).isSome := by
    intro f
    cases hvalue : values f with
    | none => simp
    | some v => simp [ofKey?_label, hnull f v hvalue]
  have hall : field ∈ Field.all := by cases field <;> decide
  rw [value?, ← List.filterMap_reverse, List.find?_filterMap]
  cases hfind : Field.all.reverse.find? _ with
  | none =>
    have hno := List.find?_eq_none.mp hfind field (List.mem_reverse.mpr hall)
    cases hvalue : values field with
    | none => rfl
    | some v => exact absurd ((hmatch field).mpr ⟨rfl, by rw [hvalue]; rfl⟩) hno
  | some f =>
    have hfound := List.find?_some hfind
    obtain ⟨rfl, _⟩ := (hmatch f).mp hfound
    cases hvalue : values f <;> simp [hvalue]

section Reading
variable {α : Type} {read : Json → Except RuleFault α}

theorem mapM_map_of_read (write : α → Json) (h : ∀ a, read (write a) = .ok a) (given : Option α) :
    (given.map write).mapM read = .ok given := by
  cases given with
  | none => rfl
  | some a =>
    change (read (write a)).map some = _
    rw [h]
    rfl

theorem mapM_map_of_read_all (write : α → Json) (h : ∀ a, read (write a) = .ok a) (given : List α) :
    (given.map write).mapM read = .ok given := by
  rw [mapM_eq_ok_iff, List.forall₂_map_left_iff, List.forall₂_same]
  exact fun a _ => h a

end Reading

theorem readApp_toJson (tag : AppTag) : readApp tag.toJson = .ok tag := by
  obtain ⟨container, appId⟩ := tag
  cases container <;> cases appId <;> rfl

theorem readPatternType_text (t : PatternType) : readPatternType (.str t.name) = .ok t := by
  cases t <;> rfl

end Record

namespace Rule
variable {r : Rule}

theorem isNull_of_fieldValue? {f : Field} {v : Json} (h : r.fieldValue? f = some v) : v.isNull = false := by
  cases f
  case ruleNum | allowedEntities | apps =>
    cases h
    rfl
  all_goals
    obtain ⟨_, _, rfl⟩ := Option.map_eq_some_iff.mp h
    rfl

theorem value?_toRecord (r : Rule) (f : Field) : r.toRecord.value? f = r.fieldValue? f :=
  Record.value?_filterMap fun _ _ => isNull_of_fieldValue?

theorem list_toRecord {f : Field} {items : List Json} (h : r.fieldValue? f = some (.arr items)) :
    r.toRecord.list f = .ok items := by
  rw [Record.list, value?_toRecord, h]
  rfl

theorem text?_toRecord {f : Field} {given : Option String} (h : r.fieldValue? f = given.map .str) :
    r.toRecord.text? f = given := by
  rw [Record.text?, value?_toRecord, h]
  cases given <;> rfl

theorem number?_toRecord {f : Field} {given : Option Int} (h : r.fieldValue? f = given.map .int) :
    r.toRecord.number? f = .ok given := by
  rw [Record.number?, value?_toRecord, h]
  exact Record.mapM_map_of_read Json.int (fun _ => rfl) given

theorem TypeKnown.exists_known (h : r.TypeKnown) :
    ∃ known : Option PatternType, r.patternType = known.map .known := by
  cases htype : r.patternType with
  | none => exact ⟨none, rfl⟩
  | some field =>
    cases field with
    | known t => exact ⟨some t, rfl⟩
    | written s => exact absurd htype (h s)

theorem readRule_toRecord (h : r.TypeKnown) (n : Int) :
    r.toRecord.readRule none n = .ok { r with ruleNum := n } := by
  obtain ⟨known, htype⟩ := h.exists_known
  have hentities : r.toRecord.list .allowedEntities = .ok (r.allowedEntities.map .str) := list_toRecord rfl
  have happs : r.toRecord.list .apps = .ok (r.apps.map AppTag.toJson) := list_toRecord rfl
  have htags := Record.mapM_map_of_read_all AppTag.toJson Record.readApp_toJson r.apps
  have htypes : (r.toRecord.value? .patternType).mapM Record.readPatternType = .ok known := by
    rw [value?_toRecord, fieldValue?, htype, Option.map_map]
    exact Record.mapM_map_of_read _ Record.readPatternType_text known
  have hproxy : r.toRecord.number? .httpProxyPort = .ok r.httpProxyPort := number?_toRecord rfl
  have hsocks : r.toRecord.number? .socksServerPort = .ok r.socksServerPort := number?_toRecord rfl
  have htexts : (r.allowedEntities.map Json.str).map Json.text = r.allowedEntities := by
    simp [Function.comp_def, Json.text]
  have hclient : r.toRecord.text? .clientId = r.clientId := text?_toRecord rfl
  have hpattern : r.toRecord.text? .pattern = r.pattern := text?_toRecord rfl
  have hkey : r.toRecord.text? .secretKey = r.secretKey := text?_toRecord rfl
  have hname : r.toRecord.text? .name = r.name := text?_toRecord rfl
  simp only [Record.readRule, bind_eq_ok_iff]
  refine ⟨_, hentities, _, happs, _, htags, _, htypes, _, hproxy, _, hsocks, ?_⟩
  rw [htexts, hclient, hpattern, hkey, hname, ← htype]
  rfl

theorem toRule_toRecord (h : r.TypeKnown) : r.toRecord.toRule none = .ok r := by
  have hnumber : r.toRecord.number? .ruleNum = .ok (some r.ruleNum) := number?_toRecord rfl
  have hrule := readRule_toRecord h r.ruleNum
  simp only [Record.toRule, bind_eq_ok_iff, mapError_eq_ok_iff]
  exact ⟨_, hnumber, hrule⟩

theorem nodup_keys_toRecord (r : Rule) : (Keyed.keys r.toRecord).Nodup := by
  have hlabels : Field.all.Pairwise (fun f g => f.label ≠ g.label) := by decide
  rw [Keyed.keys, List.Nodup, List.pairwise_map, toRecord, List.pairwise_filterMap]
  refine hlabels.imp fun hne member hmember other hother => ?_
  obtain ⟨_, _, rfl⟩ := Option.map_eq_some_iff.mp hmember
  obtain ⟨_, _, rfl⟩ := Option.map_eq_some_iff.mp hother
  exact hne

end Rule

section Writing
open Json (Writable)

theorem writable_text (given : Option String) : Writable ((given.map Json.str).getD .null) := by
  cases given with
  | none => exact .null
  | some s => exact .str s

theorem AppTag.writable_toJson (tag : AppTag) : Writable tag.toJson := by
  have hcontainer := writable_text tag.container
  have happId := writable_text tag.appId
  apply Writable.obj
  · simp [Keyed.keys]
  · simp [hcontainer, happId]

namespace Rule
variable {r : Rule}

theorem Recordable.writable_value (h : r.Recordable) {f : Field} {v : Json} (hv : r.fieldValue? f = some v) :
    Writable v := by
  cases f
  case ruleNum =>
    cases hv
    exact .int h.ruleNum
  case allowedEntities =>
    cases hv
    refine .arr fun item hitem => ?_
    obtain ⟨s, _, rfl⟩ := List.mem_map.mp hitem
    exact .str s
  case apps =>
    cases hv
    refine .arr fun item hitem => ?_
    obtain ⟨tag, _, rfl⟩ := List.mem_map.mp hitem
    exact tag.writable_toJson
  case httpProxyPort =>
    obtain ⟨n, hn, rfl⟩ := Option.map_eq_some_iff.mp hv
    exact .int (h.httpProxyPort n hn)
  case socksServerPort =>
    obtain ⟨n, hn, rfl⟩ := Option.map_eq_some_iff.mp hv
    exact .int (h.socksServerPort n hn)
  all_goals
    obtain ⟨s, _, rfl⟩ := Option.map_eq_some_iff.mp hv
    exact .str _

theorem Recordable.writable (h : r.Recordable) : Writable (.obj r.toRecord) := by
  refine .obj r.nodup_keys_toRecord fun member hmember => ?_
  obtain ⟨f, _, hf⟩ := List.mem_filterMap.mp hmember
  obtain ⟨v, hv, rfl⟩ := Option.map_eq_some_iff.mp hf
  exact h.writable_value hv

end Rule

namespace Feed
variable {rules : List Rule}

def listOf (rules : List Rule) : Json := .arr (rules.map fun r => .obj r.toRecord)

theorem readValue_encode (path : String) {v : Json} (h : Writable v) :
    readValue path (Text.Utf8.encode v.compact) = .ok v := by
  have hlines : Text.unifyLineEnds v.compact.toList = v.compact.toList := by
    apply Text.unifyLineEnds_of_not_mem
    intro hmem
    rw [Json.compact, String.toList_ofList] at hmem
    exact absurd (h.isPlain _ hmem) (by decide)
  rw [readValue, Text.Utf8.decode_encode]
  simp only [hlines, String.ofList_toList, h.parse_compact]

theorem mapM_readEntry (path : String) (h : ∀ r ∈ rules, r.Recordable) :
    (rules.map fun r => Json.obj r.toRecord).mapM (readEntry path) = .ok rules := by
  rw [mapM_eq_ok_iff, List.forall₂_map_left_iff, List.forall₂_same]
  intro r hr
  rw [readEntry, Rule.toRule_toRecord (h r hr).typeKnown]
  rfl

/-- Rules are read back from the feed that is written of them, as a list or as the member of an object. -/
theorem read_listOf (path : String) (h : ∀ r ∈ rules, r.Recordable) :
    read path (Text.Utf8.encode (listOf rules).compact) = .ok rules ∧
      read path (Text.Utf8.encode (Json.obj [("entity", listOf rules)]).compact) = .ok rules := by
  have hlist : Writable (listOf rules) := by
    refine .arr fun item hitem => ?_
    obtain ⟨r, hr, rfl⟩ := List.mem_map.mp hitem
    exact (h r hr).writable
  have hobject : Writable (.obj [("entity", listOf rules)]) := by
    apply Writable.obj
    · simp [Keyed.keys]
    · simp [hlist]
  have hrules := mapM_readEntry path h
  simp only [read, bind_eq_ok_iff]
  exact ⟨⟨_, readValue_encode path hlist, _, rfl, hrules⟩, ⟨_, readValue_encode path hobject, _, rfl, hrules⟩⟩

/-- Rules with characters that are escaped, a pair of code units, a negative number and missing parts. -/
def recordedSample : List Rule :=
  [{ ruleNum := -1, pattern := some "https://a\"\\\n\r😀é", patternType := some (.known .regex),
      secretKey := some "" },
    { ruleNum := 2147483647, clientId := some " c1 ", allowedEntities := ["", "ops@example.com"],
      apps := [⟨none, some "wiki"⟩, ⟨some ":", none⟩], httpProxyPort := some 40000, socksServerPort := some (-3),
      name := some "007" }]

theorem read_listOf_sample : (∀ r ∈ recordedSample, r.Recordable) ∧
    read "feed.json" (Text.Utf8.encode (listOf recordedSample).compact) = .ok recordedSample ∧
      read "feed.json" (Text.Utf8.encode (Json.obj [("entity", listOf recordedSample)]).compact) =
        .ok recordedSample := by
  have h : ∀ r ∈ recordedSample, r.Recordable := by
    simp only [recordedSample, List.forall_mem_cons]
    refine ⟨⟨?_, by decide, ?_, ?_⟩, ⟨?_, by decide, by decide, by decide⟩, ?_⟩ <;> simp [Rule.TypeKnown]
  exact ⟨h, read_listOf "feed.json" h⟩

end Feed
end Writing
end AccessGate
