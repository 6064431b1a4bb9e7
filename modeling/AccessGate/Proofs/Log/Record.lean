import AccessGate.Event
import Mathlib.Data.List.Forall2

/-! # What is recorded of an event

An event is recorded as one object. Its members are the name of the event, the time, and what the event holds, each
under its own key and in a fixed order; what is missing is `null`. -/
namespace AccessGate

/-- `class.Word kind`: the word that stands in the log for the errors of a class. -/
inductive ErrorClass.Word : ErrorClass → String → Prop
  | general : Word .general "validation"
  | validation : Word .validation "validation"
  | consistency : Word .consistency "consistency"
  | provisioning : Word .provisioning "provisioning"
  | legacyParse : Word .legacyParse "legacy_parse"

theorem RuleError.word_kind (e : RuleError) : e.errorClass.Word e.kind := by
  rw [kind]
  cases e.errorClass <;> constructor

theorem ErrorClass.Word.eq {c : ErrorClass} {kind : String} (h : c.Word kind) : kind = c.kind := by
  cases h <;> rfl

namespace Event
variable {α : Type} {make : α → Json} {x : Option α} {s : RuleSummary} {e : Event} {time : String} {j : Json}

/-- `Shows make x j`: the value `j` is made of what is given, or is `null`. -/
inductive Shows {α : Type} (make : α → Json) : Option α → Json → Prop
  | missing : Shows make none .null
  | given (a : α) : Shows make (some a) (make a)

inductive Describes (s : RuleSummary) : Json → Prop
  | mk {pattern type port : Json} (hpattern : Shows .str s.pattern pattern) (htype : Shows .str s.patternType type)
      (hport : Shows .int s.httpPort port) :
      Describes s (.obj [("num", .int s.num), ("pattern", pattern), ("type", type), ("http_port", port)])

/-- `Recorded time e j`: told at a time, the event `e` is recorded as the value `j`. -/
inductive Recorded (time : String) : Event → Json → Prop
  | rulesLoaded (source : String) (count : Int) : Recorded time (.rulesLoaded source count)
      (.obj [("event", .str "rules_loaded"), ("ts", .str time), ("source", .str source), ("count", .int count)])
  | ruleRejected {stage kind : String} {error : RuleError} {number : Json} (hkind : error.errorClass.Word kind)
      (hnumber : Shows .int error.ruleNum number) : Recorded time (.ruleRejected stage error)
      (.obj [("event", .str "rule_rejected"), ("ts", .str time), ("stage", .str stage), ("kind", .str kind),
        ("rule", number), ("reason", .str error.message)])
  | portAllocated (ruleNum port : Int) : Recorded time (.portAllocated ruleNum port)
      (.obj [("event", .str "port_allocated"), ("ts", .str time), ("rule", .int ruleNum), ("port", .int port)])
  | provisioned {client : Option String} {rules : List RuleSummary} {owner : Json} {rows : List Json}
      (howner : Shows .str client owner) (hrows : List.Forall₂ Describes rules rows) :
      Recorded time (.provisioned client rules)
        (.obj [("event", .str "provisioned"), ("ts", .str time), ("client", owner), ("rules", .arr rows)])
  | credentialsProjected (count socksPort : Int) : Recorded time (.credentialsProjected count socksPort)
      (.obj [("event", .str "credentials_projected"), ("ts", .str time), ("count", .int count),
        ("socks_port", .int socksPort)])
  | message (text : String) : Recorded time (.message text)
      (.obj [("event", .str "message"), ("ts", .str time), ("msg", .str text)])
  | remark (members : List (String × Json)) : Recorded time (.remark members) (.obj members)

theorem shows_iff : Shows make x j ↔ optional make x = j := by
  constructor
  · intro h
    cases h <;> rfl
  · intro h
    subst h
    cases x with
    | none => exact .missing
    | some a => exact .given a

theorem describes_iff : Describes s j ↔ summaryValue s = j := by
  constructor
  · intro h
    obtain ⟨hpattern, htype, hport⟩ := h
    rw [summaryValue, shows_iff.mp hpattern, shows_iff.mp htype, shows_iff.mp hport]
  · intro h
    subst h
    exact .mk (shows_iff.mpr rfl) (shows_iff.mpr rfl) (shows_iff.mpr rfl)

theorem forall₂_describes_iff {rules : List RuleSummary} {rows : List Json} :
    List.Forall₂ Describes rules rows ↔ rules.map summaryValue = rows := by
  have hdescribes : Describes = fun s j => summaryValue s = j := by
    ext s j
    exact describes_iff
  rw [hdescribes, ← List.forall₂_map_left_iff, List.forall₂_eq_eq_eq]

theorem recorded_iff : e.Recorded time j ↔ e.toJson time = j := by
  constructor
  · intro h
    cases h with
    | ruleRejected hkind hnumber => rw [toJson, shows_iff.mp hnumber, hkind.eq]; rfl
    | provisioned howner hrows => rw [toJson, shows_iff.mp howner, forall₂_describes_iff.mp hrows]
    | _ => rfl
  · intro h
    subst h
    cases e with
    | ruleRejected stage error => exact .ruleRejected error.word_kind (shows_iff.mpr rfl)
    | provisioned client rules => exact .provisioned (shows_iff.mpr rfl) (forall₂_describes_iff.mpr rfl)
    | _ => constructor

end Event
end AccessGate
