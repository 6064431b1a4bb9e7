import AccessGate.Proofs.Json.RoundTrip
import AccessGate.Proofs.Log.Files
import AccessGate.Proofs.Log.Record
import AccessGate.Proofs.Text.Utf8

/-! # One event, one line

Whatever texts an event holds, it is told as one line of printable characters, and that line is read as the value of
the event. So what lines add to a file can be cut at its line ends again. -/
namespace AccessGate

open Text (IsReadable)

namespace Event

/-- The integers of an event have no more digits than can be read. -/
def Readable : Event → Prop
  | .rulesLoaded _ count => IsReadable count
  | .ruleRejected _ error => ∀ n ∈ error.ruleNum, IsReadable n
  | .portAllocated ruleNum port => IsReadable ruleNum ∧ IsReadable port
  | .provisioned _ rules => ∀ s ∈ rules, IsReadable s.num ∧ ∀ port ∈ s.httpPort, IsReadable port
  | .credentialsProjected count socksPort => IsReadable count ∧ IsReadable socksPort
  | .message _ => True
  | .remark members => (Json.obj members).Writable

variable {e : Event} {time : String}

theorem writable_optional {α : Type} {make : α → Json} {x : Option α} (h : ∀ a ∈ x, (make a).Writable) :
    (optional make x).Writable := by
  cases x with
  | none => exact .null
  | some a => exact h a rfl

theorem writable_summaryValue {s : RuleSummary} (hnum : IsReadable s.num)
    (hport : ∀ port ∈ s.httpPort, IsReadable port) : (summaryValue s).Writable := by
  apply Json.Writable.obj
  · simp [Keyed.keys]
  · simp only [List.forall_mem_cons, List.not_mem_nil, false_implies, implies_true, and_true]
    refine ⟨.int hnum, ?_, ?_, ?_⟩
    · exact writable_optional fun text _ => .str text
    · exact writable_optional fun text _ => .str text
    · exact writable_optional fun port hmem => .int (hport port hmem)

theorem Readable.writable_toJson (h : e.Readable) (time : String) : (e.toJson time).Writable := by
  cases e with
  | remark members => exact h
  | rulesLoaded source count =>
    apply Json.Writable.obj
    · simp [Keyed.keys]
    · simpa using ⟨.str _, .str _, .str _, .int h⟩
  | ruleRejected stage error =>
    apply Json.Writable.obj
    · simp [Keyed.keys]
    · have hnum : (optional .int error.ruleNum).Writable := writable_optional fun n hn => .int (h n hn)
      simpa using ⟨.str _, .str _, .str _, .str _, hnum, .str _⟩
  | portAllocated ruleNum port =>
    apply Json.Writable.obj
    · simp [Keyed.keys]
    · simpa using ⟨.str _, .str _, .int h.1, .int h.2⟩
  | provisioned client rules =>
    apply Json.Writable.obj
    · simp [Keyed.keys]
    · have hclient : (optional .str client).Writable := writable_optional fun text _ => .str text
      have hrules : (Json.arr (rules.map summaryValue)).Writable := by
        apply Json.Writable.arr
        rw [List.forall_mem_map]
        intro s hs
        exact writable_summaryValue (h s hs).1 (h s hs).2
      simpa using ⟨.str _, .str _, hclient, hrules⟩
  | credentialsProjected count socksPort =>
    apply Json.Writable.obj
    · simp [Keyed.keys]
    · simpa using ⟨.str _, .str _, .int h.1, .int h.2⟩
  | message text =>
    apply Json.Writable.obj
    · simp [Keyed.keys]
    · simpa using ⟨.str _, .str _, .str _⟩

/-- The line of an event has printable characters only, and is read as the value of the event. -/
theorem Readable.line (h : e.Readable) (time : String) :
    (∀ c ∈ (e.line time).toList, Text.IsPlain c) ∧ Json.parse (e.line time) = .ok (e.toJson time) := by
  have hwritable := h.writable_toJson time
  constructor
  · rw [Event.line, Json.compact, String.toList_ofList]
    exact hwritable.isPlain
  · exact hwritable.parse_compact

theorem Readable.line_recorded (h : e.Readable) (time : String) :
    (∀ c ∈ (e.line time).toList, 0x20 ≤ c.toNat ∧ c.toNat ≤ 0x7F) ∧
      ∃ j, Json.parse (e.line time) = .ok j ∧ e.Recorded time j := by
  obtain ⟨hplain, hparse⟩ := h.line time
  constructor
  · intro c hc
    have hbounds := hplain c hc
    exact ⟨hbounds.1, Nat.le_trans hbounds.2 (by decide)⟩
  · exact ⟨_, hparse, recorded_iff.mpr rfl⟩

end Event

namespace Log

def lineChars (lines : List (List Char)) : List Char := lines.flatMap (· ++ ['\n'])

theorem splitOn_lineChars {lines : List (List Char)} (h : ∀ line ∈ lines, '\n' ∉ line) :
    (lineChars lines).splitOn '\n' = lines ++ [[]] := by
  induction lines with
  | nil => rfl
  | cons line rest ih =>
    obtain ⟨hline, hrest⟩ := List.forall_mem_cons.mp h
    rw [lineChars, List.flatMap_cons, List.append_assoc]
    change (line ++ '\n' :: lineChars rest).splitOn '\n' = _
    rw [List.splitOn_append_cons_self_of_not_mem hline, ih hrest]
    rfl

theorem lineBytes_eq (line : String) : lineBytes line = (line.toList ++ ['\n']).flatMap String.utf8EncodeChar := by
  rw [lineBytes, Text.Utf8.toList_toUTF8, Text.Utf8.encode_eq_flatMap, String.toList_push]

theorem decode_lineBytes (lines : List String) :
    Text.Utf8.decode (lines.flatMap lineBytes) = .ok (lineChars (lines.map String.toList)) := by
  have hbytes : lines.flatMap lineBytes =
      Text.Utf8.encode (String.ofList (lineChars (lines.map String.toList))) := by
    rw [Text.Utf8.encode_eq_flatMap, String.toList_ofList, lineChars, List.flatMap_map, List.flatMap_assoc]
    have hline : lineBytes = fun line => (line.toList ++ ['\n']).flatMap String.utf8EncodeChar :=
      funext lineBytes_eq
    rw [hline]
  rw [hbytes, Text.Utf8.decode_encode, String.toList_ofList]

end Log
end AccessGate
