import AccessGate.Error.Basic
import AccessGate.Rule.Pattern

/-! # Records

A record is an object of a feed. It gives a field under either of two keys; keys that mean no field and
values that are null are passed over, and of two values the later one counts. What the record lacks
stays empty, and it is left to the checks of the rule to say so. -/
namespace AccessGate

/-- The members of an object of a feed, in their order. -/
abbrev Record := List (String × Json)

namespace Record

def value? (record : Record) (field : Field) : Option Json :=
  (record.reverse.find? fun (key, value) => Field.ofKey? key = some field && !value.isNull).map (·.2)

/-- Reads a whole number. A number with an empty fraction is whole; a text may write one. -/
def readNumber (field : Field) : Json → Except RuleFault Int
  | .int n => .ok n
  | .bool b => .error (.notWhole field (.bool b))
  | .float x =>
    match x.toInt? with
    | some n => .ok n
    | none => .error (.notWhole field (.float x))
  | .str s =>
    match Text.integer? s with
    | some n => .ok n
    | none => .error (.notNumber field (.str s))
  | other => .error (.notNumber field other)

/-- Reads a list. A single text or object counts as a list of one. -/
def readList (field : Field) : Json → Except RuleFault (List Json)
  | .str s => .ok [.str s]
  | .obj members => .ok [.obj members]
  | .arr items => .ok items
  | _ => .error (.notList field)

/-- A part of an app: any value but null has a text. -/
def partText? : Option Json → Option String
  | none | some .null => none
  | some value => some value.text

/-- Reads an app: an object with its two parts, or a text with a colon between them. -/
def readApp : Json → Except RuleFault AppTag
  | .obj members =>
    let appId := match Json.member? "appId" members with
      | some value => some value
      | none => Json.member? "app_id" members
    .ok ⟨partText? (Json.member? "container" members), partText? appId⟩
  | .str s =>
    if s.toList.contains ':' then
      .ok ⟨some (String.ofList (Url.before ':' s.toList)), some (String.ofList (Url.after ':' s.toList))⟩
    else .error (.malformedApp (.str s))
  | other => .error (.malformedApp other)

def readPatternType (raw : Json) : Except RuleFault PatternType :=
  (PatternTypeField.written raw.text).read

def number? (record : Record) (field : Field) : Except RuleFault (Option Int) :=
  (record.value? field).mapM (readNumber field)

def list (record : Record) (field : Field) : Except RuleFault (List Json) :=
  match record.value? field with
  | none => .ok []
  | some raw => readList field raw

def text? (record : Record) (field : Field) : Option String := (record.value? field).map Json.text

/-- The rule of a record whose number is known. Tags that are already made stand in place of the apps
that the record writes. -/
def readRule (record : Record) (tags : Option (List AppTag)) (ruleNum : Int) : Except RuleFault Rule := do
  let entities ← record.list .allowedEntities
  let apps ← match tags with
    | some tags => pure tags
    | none => (← record.list .apps).mapM readApp
  let patternType ← (record.value? .patternType).mapM readPatternType
  let httpProxyPort ← record.number? .httpProxyPort
  let socksServerPort ← record.number? .socksServerPort
  return {
    ruleNum, apps, httpProxyPort, socksServerPort
    clientId := record.text? .clientId
    allowedEntities := entities.map Json.text
    pattern := record.text? .pattern
    patternType := patternType.map .known
    secretKey := record.text? .secretKey
    name := record.text? .name }

/-- The rule of a record. A record without a number has number zero. -/
def toRule (record : Record) (tags : Option (List AppTag)) : Except RuleError Rule := do
  let ruleNum ← (record.number? .ruleNum).mapError fun f => ⟨.rule f, none⟩
  let ruleNum := ruleNum.getD 0
  (record.readRule tags ruleNum).mapError fun f => ⟨.rule f, some ruleNum⟩

end AccessGate.Record
