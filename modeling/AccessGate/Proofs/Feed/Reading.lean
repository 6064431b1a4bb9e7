import AccessGate.Agent.Report
import AccessGate.Proofs.Access
import AccessGate.Proofs.Feed.RoundTrip
import AccessGate.Proofs.Json.Overlong

/-! # What reading a feed comes to

A feed gives a rule for each of its entries, in their order, or it is refused: as a whole, or for the first of its
entries that gives no rule. A feed whose text is cut short by an integer with too many digits is neither read nor
refused, and a run is left without an exit code. -/
namespace AccessGate.Feed

open AccessGate.Json (HoldsLongRow)

section Relations
variable {path : String} {bytes : List UInt8} {v item : Json} {items : List Json} {r : Rule} {f : Failure}

def Writes (bytes : List UInt8) (v : Json) : Prop :=
  ∃ cs, Text.Utf8.decode bytes = .ok cs ∧ Json.parse (String.ofList (Text.unifyLineEnds cs)) = .ok v

/-- The reading of a feed stops at an integer of so many digits. -/
def StopsAtInteger (bytes : List UInt8) (digits : Nat) : Prop :=
  ∃ cs, Text.Utf8.decode bytes = .ok cs ∧
    Json.parse (String.ofList (Text.unifyLineEnds cs)) = .error (.tooLong digits)

/-- The entries that a value holds: a list, the list that is the member of an object, or none where the object
lacks the member. -/
inductive Holds : Json → List Json → Prop
  | list (items : List Json) : Holds (.arr items) items
  | entity {members : List (String × Json)} {items : List Json}
      (h : Json.member? "entity" members = some (.arr items)) : Holds (.obj members) items
  | without {members : List (String × Json)} (h : Json.member? "entity" members = none) : Holds (.obj members) []

/-- An entry gives a rule: it is a record, and its fields can be read. -/
inductive Gives : Json → Rule → Prop
  | record {record : Record} {r : Rule} (h : record.toRule none = .ok r) : Gives (.obj record) r

/-- An entry is refused with an error: it is no record, or one of its fields cannot be read. -/
inductive Refused (path : String) : Json → RuleError → Prop
  | record {record : Record} {e : RuleError} (h : record.toRule none = .error e) : Refused path (.obj record) e
  | notObject {item : Json} (h : ∀ record, item ≠ .obj record) :
      Refused path item ⟨.feed path (.notObject item), none⟩

theorem readValue_of_writes (h : Writes bytes v) : readValue path bytes = .ok v := by
  obtain ⟨cs, hcs, hparse⟩ := h
  rw [readValue, hcs]
  simp only [hparse]

theorem readValue_of_stopsAtInteger {digits : Nat} (h : StopsAtInteger bytes digits) :
    readValue path bytes = .error (.value (.longInteger digits)) := by
  obtain ⟨cs, hcs, hparse⟩ := h
  rw [readValue, hcs]
  simp only [hparse]

theorem writes_or_refused_or_stops (path : String) (bytes : List UInt8) : (∃ v, Writes bytes v) ∨
    (∃ e, readValue path bytes = .error (.rule e)) ∨ ∃ digits, StopsAtInteger bytes digits := by
  cases hdecode : Text.Utf8.decode bytes with
  | error fault =>
    have hrefused : readValue path bytes = .error (errorOf path (.notText fault)) := by rw [readValue, hdecode]
    exact .inr (.inl ⟨_, hrefused⟩)
  | ok cs =>
    cases hparse : Json.parse (String.ofList (Text.unifyLineEnds cs)) with
    | ok v => exact .inl ⟨v, cs, hdecode, hparse⟩
    | error fault =>
      cases fault with
      | malformed reason place =>
        have hrefused : readValue path bytes = .error (errorOf path (.notJson reason place)) := by
          rw [readValue, hdecode]
          simp only [hparse]
        exact .inr (.inl ⟨_, hrefused⟩)
      | tooLong digits => exact .inr (.inr ⟨digits, cs, hdecode, hparse⟩)

theorem readValue_eq_ok_iff : readValue path bytes = .ok v ↔ Writes bytes v := by
  constructor
  · intro h
    obtain ⟨v', hv'⟩ | ⟨e, he⟩ | ⟨digits, hdigits⟩ := writes_or_refused_or_stops path bytes
    · cases h.symm.trans (readValue_of_writes hv')
      exact hv'
    · cases h.symm.trans he
    · cases h.symm.trans (readValue_of_stopsAtInteger hdigits)
  · exact readValue_of_writes

theorem holds_or_refused (path : String) (v : Json) :
    (∃ items, Holds v items) ∨ ∃ e, entries path v = .error (.rule e) := by
  cases v with
  | arr items => exact .inl ⟨items, .list items⟩
  | obj members =>
    cases hmember : Json.member? "entity" members with
    | none => exact .inl ⟨[], .without hmember⟩
    | some found =>
      cases found with
      | arr items => exact .inl ⟨items, .entity hmember⟩
      | _ =>
        have hrefused : entries path (.obj members) = .error (errorOf path .notList) := by
          simp only [entries, hmember]
        exact .inr ⟨_, hrefused⟩
  | _ => exact .inr ⟨_, rfl⟩

theorem entries_of_holds (h : Holds v items) : entries path v = .ok items := by
  cases h with
  | list => rfl
  | entity h => simp only [entries, h]
  | without h => simp only [entries, h]

theorem entries_eq_ok_iff : entries path v = .ok items ↔ Holds v items := by
  constructor
  · intro h
    obtain ⟨items', hitems'⟩ | ⟨e, he⟩ := holds_or_refused path v
    · cases h.symm.trans (entries_of_holds hitems')
      exact hitems'
    · cases h.symm.trans he
  · exact entries_of_holds

theorem readEntry_eq_ok_iff : readEntry path item = .ok r ↔ Gives item r := by
  constructor
  · intro h
    cases item with
    | obj record => exact .record (mapError_eq_ok_iff.mp h)
    | _ => cases h
  · intro h
    cases h with
    | record h => exact mapError_eq_ok_iff.mpr h

theorem readEntry_eq_error_iff : readEntry path item = .error f ↔ ∃ e, Refused path item e ∧ f = .rule e := by
  constructor
  · intro h
    cases item with
    | obj record =>
      obtain ⟨e, he, rfl⟩ := mapError_eq_error_iff.mp h
      exact ⟨e, .record he, rfl⟩
    | _ =>
      cases h
      exact ⟨_, .notObject nofun, rfl⟩
  · intro h
    obtain ⟨e, he, rfl⟩ := h
    cases he with
    | record he => exact mapError_eq_error_iff.mpr ⟨e, he, rfl⟩
    | notObject hobject =>
      cases item with
      | obj record => exact absurd rfl (hobject record)
      | _ => rfl

theorem read_eq_ok_iff {rules : List Rule} : read path bytes = .ok rules ↔
    ∃ v items, Writes bytes v ∧ Holds v items ∧ List.Forall₂ Gives items rules := by
  simp only [read, bind_eq_ok_iff, readValue_eq_ok_iff, entries_eq_ok_iff, mapM_eq_ok_iff, readEntry_eq_ok_iff]
  constructor
  · intro h
    obtain ⟨v, hv, items, hitems, hrules⟩ := h
    exact ⟨v, items, hv, hitems, hrules⟩
  · intro h
    obtain ⟨v, items, hv, hitems, hrules⟩ := h
    exact ⟨v, hv, items, hitems, hrules⟩

theorem read_eq_error_iff_of_holds (hv : Writes bytes v) (hitems : Holds v items) : read path bytes = .error f ↔
    ∃ before item after e, items = before ++ item :: after ∧ (∀ other ∈ before, ∃ r, Gives other r) ∧
      Refused path item e ∧ f = .rule e := by
  have hread : read path bytes = items.mapM (readEntry path) := by
    rw [read, readValue_of_writes hv]
    change (entries path v >>= fun items => items.mapM (readEntry path)) = _
    rw [entries_of_holds hitems]
    rfl
  rw [hread, mapM_eq_error_iff]
  simp only [readEntry_eq_ok_iff, readEntry_eq_error_iff]
  constructor
  · intro h
    obtain ⟨before, item, after, hsplit, hbefore, e, he, hf⟩ := h
    exact ⟨before, item, after, e, hsplit, hbefore, he, hf⟩
  · intro h
    obtain ⟨before, item, after, e, hsplit, hbefore, he, hf⟩ := h
    exact ⟨before, item, after, hsplit, hbefore, e, he, hf⟩

theorem read_of_stopsAtInteger {digits : Nat} (h : StopsAtInteger bytes digits) :
    read path bytes = .error (.value (.longInteger digits)) := by
  rw [read, readValue_of_stopsAtInteger h]
  rfl

theorem read_ok_or_ruleError (h : ∀ digits, ¬StopsAtInteger bytes digits) :
    (∃ rules, read path bytes = .ok rules) ∨ ∃ e, read path bytes = .error (.rule e) := by
  obtain ⟨v, hv⟩ | ⟨e, he⟩ | ⟨digits, hdigits⟩ := writes_or_refused_or_stops path bytes
  · obtain ⟨items, hitems⟩ | ⟨e, he⟩ := holds_or_refused path v
    · cases hread : read path bytes with
      | ok rules => exact .inl ⟨rules, rfl⟩
      | error f =>
        obtain ⟨_, _, _, e, _, _, _, rfl⟩ := (read_eq_error_iff_of_holds hv hitems).mp hread
        exact .inr ⟨e, rfl⟩
    · refine .inr ⟨e, ?_⟩
      rw [read, readValue_of_writes hv]
      change (entries path v >>= fun items => items.mapM (readEntry path)) = _
      rw [he]
      rfl
  · refine .inr ⟨e, ?_⟩
    rw [read, he]
    rfl
  · exact absurd hdigits (h digits)

/-- An integer that stops the reading of a feed stands in its text, with more digits than are read. -/
theorem holdsLongRow_of_stopsAtInteger {digits : Nat} (h : StopsAtInteger bytes digits) :
    ∃ cs, Text.Utf8.decode bytes = .ok cs ∧ HoldsLongRow digits (Text.unifyLineEnds cs) := by
  obtain ⟨cs, hcs, hparse⟩ := h
  have hrow := Json.holdsLongRow_of_parse hparse
  rw [String.toList_ofList] at hrow
  exact ⟨cs, hcs, hrow⟩

end Relations

section Run
open Agent (Machine feedPath run channel)
variable {machine : Machine} {disk : Storage.Disk} {time : String} {config : Config} {book : Log.Book}
  {bytes : List UInt8} {f : Failure}

theorem run_of_read_error (hopen : Log.Book.openFile channel (.ofChars config.logPath.toList) { disk } = .ok book)
    (hfile : book.disk.read (feedPath config) = .ok bytes) (hread : read (feedPath config).text bytes = .error f) :
    (run machine disk time config).1 = .ofStart config (.error f) := by
  have hstart : (Agent.start machine book.disk config {}).result = .error f := by
    rw [Agent.start, hfile, Agent.readFeed]
    change (Agent.serve machine config (read (feedPath config).text bytes) {}).result = _
    rw [hread]
    rfl
  rw [run, hopen]
  exact congrArg (Agent.Report.ofStart config) hstart

/-- A run whose feed cannot be read refuses to start, unless the reading stops at an integer. -/
theorem run_refuses_iff (hopen : Log.Book.openFile channel (.ofChars config.logPath.toList) { disk } = .ok book)
    (hfile : book.disk.read (feedPath config) = .ok bytes) (hread : read (feedPath config).text bytes = .error f) :
    (run machine disk time config).1.result = .ok 1 ↔ ∀ digits, ¬StopsAtInteger bytes digits := by
  rw [run_of_read_error hopen hfile hread]
  constructor
  · intro hresult digits hstops
    cases hread.symm.trans (read_of_stopsAtInteger hstops)
    cases hresult
  · intro hstops
    obtain ⟨rules, hrules⟩ | ⟨e, he⟩ := read_ok_or_ruleError hstops
    · cases hread.symm.trans hrules
    · cases hread.symm.trans he
      rfl

end Run

/-- A feed is read, or refused with an error of the gate, unless its reading stops at an integer; then that integer
stands in its text. A feed that is read gives a rule for each of its entries, in their order, and otherwise the first
entry that gives no rule decides the error. A run whose feed is not read refuses to start, unless it stops likewise. -/
theorem read_outcome (path : String) (bytes : List UInt8) :
    (((∃ rules, read path bytes = .ok rules) ∨ ∃ e, read path bytes = .error (.rule e)) ↔
      ∀ digits, ¬StopsAtInteger bytes digits) ∧
    (∀ digits, StopsAtInteger bytes digits → read path bytes = .error (.value (.longInteger digits)) ∧
      ∃ cs, Text.Utf8.decode bytes = .ok cs ∧ HoldsLongRow digits (Text.unifyLineEnds cs)) ∧
    (∀ rules, read path bytes = .ok rules ↔
      ∃ v items, Writes bytes v ∧ Holds v items ∧ List.Forall₂ Gives items rules) ∧
    (∀ v items f, Writes bytes v → Holds v items → (read path bytes = .error f ↔
      ∃ before item after e, items = before ++ item :: after ∧ (∀ other ∈ before, ∃ r, Gives other r) ∧
        Refused path item e ∧ f = .rule e)) ∧
    ∀ machine disk time config book f, (Agent.feedPath config).text = path →
      Log.Book.openFile Agent.channel (.ofChars config.logPath.toList) { disk } = .ok book →
      book.disk.read (Agent.feedPath config) = .ok bytes → read path bytes = .error f →
      ((Agent.run machine disk time config).1.result = .ok 1 ↔ ∀ digits, ¬StopsAtInteger bytes digits) := by
  refine ⟨⟨?_, read_ok_or_ruleError⟩, ?_, fun rules => read_eq_ok_iff,
    fun v items f hv hitems => read_eq_error_iff_of_holds hv hitems, ?_⟩
  · rintro (⟨rules, hrules⟩ | ⟨e, he⟩) digits hstops
    · cases hrules.symm.trans (read_of_stopsAtInteger hstops)
    · cases he.symm.trans (read_of_stopsAtInteger hstops)
  · intro digits hstops
    exact ⟨read_of_stopsAtInteger hstops, holdsLongRow_of_stopsAtInteger hstops⟩
  · intro machine disk time config book f hpath hopen hfile hread
    subst hpath
    exact run_refuses_iff hopen hfile hread

section Sample
open AccessGate.Agent (sampleConfig sampleMachine)

def numberedFeed (digits : List Char) : List UInt8 :=
  Text.Utf8.encode (String.ofList (Json.numbered "ruleNum" digits))

theorem stopsAtInteger_numberedFeed {digits : List Char} (hdigits : ∀ c ∈ digits, Text.isAsciiDigit c = true)
    (hlong : Text.digitLimit < digits.length) (hzero : digits.head? ≠ some '0') :
    StopsAtInteger (numberedFeed digits) digits.length := by
  have hlines : '\r' ∉ Json.numbered "ruleNum" digits := by
    have hreturn : '\r' ∉ digits := fun hmem => absurd (hdigits _ hmem) (by decide)
    simpa [Json.numbered, Json.numberedMember, Json.stringChar] using hreturn
  refine ⟨_, Text.Utf8.decode_encode _, ?_⟩
  rw [String.toList_ofList, Text.unifyLineEnds_of_not_mem hlines]
  exact Json.parse_numbered "ruleNum" hdigits hlong hzero

/-- A feed whose one record has a number of one digit too many. -/
def overlongFeed : List UInt8 := numberedFeed (List.replicate 4301 '1')

theorem stopsAtInteger_overlongFeed : StopsAtInteger overlongFeed 4301 := by
  have hdigits : ∀ c ∈ List.replicate 4301 '1', Text.isAsciiDigit c = true := by
    intro c hc
    rw [List.eq_of_mem_replicate hc]
    rfl
  have hlong : Text.digitLimit < (List.replicate 4301 '1').length := by
    rw [List.length_replicate]
    decide
  have hzero : (List.replicate 4301 '1').head? ≠ some '0' := by
    rw [List.head?_replicate]
    decide
  have hstops := stopsAtInteger_numberedFeed hdigits hlong hzero
  rwa [List.length_replicate] at hstops

/-- A feed may be neither read nor refused with an error of the gate. -/
theorem overlongFeed_escapes : ¬((∃ rules, read "feed.json" overlongFeed = .ok rules) ∨
    ∃ e, read "feed.json" overlongFeed = .error (.rule e)) := by
  have hread : read "feed.json" overlongFeed = .error (.value (.longInteger 4301)) :=
    read_of_stopsAtInteger stopsAtInteger_overlongFeed
  rintro (⟨rules, hrules⟩ | ⟨e, he⟩)
  · cases hread.symm.trans hrules
  · cases hread.symm.trans he

def brokenValue : Json := .arr [.obj [("ruleNum", .int 1)], .obj [("ruleNum", .bool true)], .int 7]

def brokenFeed : List UInt8 := Text.Utf8.encode brokenValue.compact

def diskWith (bytes : List UInt8) : Storage.Disk where
  home := ⟨['/'], [['w']]⟩
  entries := [([['w'], "rules.json".toList], .file bytes)]

theorem writes_brokenFeed : Writes brokenFeed brokenValue := by
  have hwritable : brokenValue.Writable := by
    refine .arr fun item hitem => ?_
    simp only [List.mem_cons, List.not_mem_nil, or_false] at hitem
    rcases hitem with rfl | rfl | rfl
    · exact .obj (by decide) (by simpa using .int (by decide))
    · exact .obj (by decide) (by simpa using .bool true)
    · exact .int (by decide)
  exact readValue_eq_ok_iff.mp (readValue_encode "rules.json" hwritable)

theorem read_outcome_sample : ∃ items book f,
    Writes brokenFeed brokenValue ∧ Holds brokenValue items ∧ read "rules.json" brokenFeed = .error f ∧
    (Agent.feedPath sampleConfig).text = "rules.json" ∧
    Log.Book.openFile Agent.channel (.ofChars sampleConfig.logPath.toList) { disk := diskWith brokenFeed } =
      .ok book ∧
    book.disk.read (Agent.feedPath sampleConfig) = .ok brokenFeed ∧
    (∀ digits, ¬StopsAtInteger brokenFeed digits) ∧
    (Agent.run sampleMachine (diskWith brokenFeed) "T" sampleConfig).1.result = .ok 1 ∧
    StopsAtInteger overlongFeed 4301 ∧ read "feed.json" overlongFeed = .error (.value (.longInteger 4301)) := by
  obtain ⟨hfamily, _, _, herror, hrun⟩ := read_outcome "rules.json" brokenFeed
  have hitems : Holds brokenValue _ := .list _
  have hgood : ∀ other ∈ [Json.obj [("ruleNum", .int 1)]], ∃ r, Gives other r := by
    simpa using ⟨_, Gives.record rfl⟩
  have hread := (herror _ _ _ writes_brokenFeed hitems).mpr
    ⟨_, .obj [("ruleNum", .bool true)], [.int 7], _, rfl, hgood, .record rfl, rfl⟩
  have hstops := hfamily.mp (.inr ⟨_, hread⟩)
  have hresult := (hrun sampleMachine (diskWith brokenFeed) "T" sampleConfig _ _ rfl rfl rfl hread).mpr hstops
  have hlong := ((read_outcome "feed.json" overlongFeed).2.1 4301 stopsAtInteger_overlongFeed).1
  exact ⟨_, _, _, writes_brokenFeed, hitems, hread, rfl, rfl, rfl, hstops, hresult, stopsAtInteger_overlongFeed,
    hlong⟩

end Sample

end AccessGate.Feed
