import AccessGate.Proofs.Feed.Reading
import AccessGate.Proofs.Trace

/-! # Refusals that are told of

A refresh tells of the error of the gate that ends it. A start tells of the same errors by way of its refresh, but
of none that comes of reading the feed: such a feed is refused, and nothing at all is told. -/
namespace AccessGate

def Event.IsRejection (event : Event) : Prop := ∃ stage e, event = .ruleRejected stage e

/-- The last of the events tells of the error, and no other one tells of a refusal. -/
def ToldLast (e : RuleError) (events : List Event) : Prop :=
  ∃ before, events = before ++ [.ruleRejected "provision" e] ∧ ∀ event ∈ before, ¬event.IsRejection

theorem ToldLast.cons {e : RuleError} {events : List Event} (h : ToldLast e events) {event : Event}
    (hother : ¬event.IsRejection) : ToldLast e (event :: events) := by
  obtain ⟨before, rfl, hbefore⟩ := h
  exact ⟨event :: before, rfl, List.forall_mem_cons.mpr ⟨hother, hbefore⟩⟩

theorem not_toldLast_nil (e : RuleError) : ¬ToldLast e [] := by
  intro h
  obtain ⟨before, hempty, _⟩ := h
  simp at hempty

namespace Agent

open AccessGate.Provision

variable {machine : Machine} {disk : Storage.Disk} {config : Config} {rules : List Rule} {l : Ledger}
  {e : RuleError}

theorem refresh_toldLast (h : (refresh machine config rules l).result = .error (.rule e)) :
    ToldLast e (refresh machine config rules l).events := by
  obtain ⟨ports, announced, hports, hevents, hannounced⟩ := refresh_told_of_rejection h
  refine ⟨ports ++ announced, hevents, ?_⟩
  intro event hevent hrejection
  obtain ⟨stage, f, rfl⟩ := hrejection
  rcases List.mem_append.mp hevent with hmem | hmem
  · obtain ⟨ruleNum, p, hport⟩ := hports _ hmem
    cases hport
  · rcases hannounced with ⟨_, rfl⟩ | ⟨_, _, _, _, _, rfl⟩
    · cases hmem
    · cases List.mem_singleton.mp hmem

theorem start_of_readFeed_error {f : Failure} (h : readFeed config (disk.read (feedPath config)) = .error f) :
    start machine disk config l = ⟨.error f, l, []⟩ := by
  rw [start, h]
  rfl

theorem start_of_readFeed_ok (h : readFeed config (disk.read (feedPath config)) = .ok rules) :
    start machine disk config l =
      { refresh machine config rules l with
        events := .rulesLoaded config.rulesPath rules.length :: (refresh machine config rules l).events } := by
  rw [start, h]
  rfl

/-- A start that ends with an error of the gate tells of it last and once if its feed could be read. If it is the
reading that was refused, nothing is told. -/
theorem start_toldLast_iff (h : (start machine disk config l).result = .error (.rule e)) :
    (ToldLast e (start machine disk config l).events ↔
      ∃ rules, readFeed config (disk.read (feedPath config)) = .ok rules) ∧
    (readFeed config (disk.read (feedPath config)) = .error (.rule e) →
      (start machine disk config l).events = []) := by
  cases hfeed : readFeed config (disk.read (feedPath config)) with
  | error f =>
    rw [start_of_readFeed_error hfeed]
    constructor
    · simp [not_toldLast_nil]
    · intro _
      rfl
  | ok rules =>
    rw [start_of_readFeed_ok hfeed] at h ⊢
    have hloaded : ¬(Event.rulesLoaded config.rulesPath rules.length).IsRejection := by
      simp [Event.IsRejection]
    constructor
    · simp [(refresh_toldLast h).cons hloaded]
    · intro hrefused
      cases hrefused

section Sample
open AccessGate.Feed (diskWith readValue_encode)

theorem readFeed_diskWith (bytes : List UInt8) :
    readFeed sampleConfig ((diskWith bytes).read (feedPath sampleConfig)) = Feed.read "rules.json" bytes :=
  rfl

def listlessFeed : List UInt8 := Text.Utf8.encode (Json.int 5).compact

theorem start_listlessFeed :
    start sampleMachine (diskWith listlessFeed) sampleConfig {} =
      ⟨.error (Feed.errorOf "rules.json" .notList), {}, []⟩ := by
  have hvalue : Feed.readValue "rules.json" listlessFeed = .ok (.int 5) := readValue_encode _ (.int (by decide))
  apply start_of_readFeed_error
  rw [readFeed_diskWith, Feed.read, hvalue]
  rfl

/-- A feed may be refused without a word. -/
theorem start_refuses_untold : ∃ e,
    (start sampleMachine (diskWith listlessFeed) sampleConfig {}).result = .error (.rule e) ∧
      ¬ToldLast e (start sampleMachine (diskWith listlessFeed) sampleConfig {}).events := by
  refine ⟨⟨.feed "rules.json" .notList, none⟩, ?_, ?_⟩
  · rw [start_listlessFeed]
    rfl
  · rw [start_listlessFeed]
    exact not_toldLast_nil _

def bareFeed : List UInt8 := Text.Utf8.encode (Json.arr [.obj [("ruleNum", .int 1)]]).compact

theorem start_toldLast_iff_sample : ∃ e,
    (start sampleMachine (diskWith bareFeed) sampleConfig {}).result = .error (.rule e) ∧
      ToldLast e (start sampleMachine (diskWith bareFeed) sampleConfig {}).events := by
  have hwritable : (Json.arr [.obj [("ruleNum", .int 1)]]).Writable := by
    apply Json.Writable.arr
    intro item hitem
    rw [List.mem_singleton.mp hitem]
    exact .obj (by decide) (by simpa using .int (by decide))
  have hvalue : Feed.readValue "rules.json" bareFeed = .ok (.arr [.obj [("ruleNum", .int 1)]]) :=
    readValue_encode _ hwritable
  obtain ⟨rules, hread, e, hrefused⟩ : ∃ rules,
      readFeed sampleConfig ((diskWith bareFeed).read (feedPath sampleConfig)) = .ok rules ∧
        ∃ e, (refresh sampleMachine sampleConfig rules {}).result = .error (.rule e) := by
    rw [readFeed_diskWith, Feed.read, hvalue]
    exact ⟨_, rfl, _, rfl⟩
  have hresult : (start sampleMachine (diskWith bareFeed) sampleConfig {}).result = .error (.rule e) := by
    rw [start_of_readFeed_ok hread]
    exact hrefused
  exact ⟨e, hresult, (start_toldLast_iff hresult).1.mpr ⟨rules, hread⟩⟩

end Sample

end Agent
end AccessGate
