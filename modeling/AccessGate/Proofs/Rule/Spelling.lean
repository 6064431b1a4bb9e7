import AccessGate.Proofs.Checks
import AccessGate.Proofs.Text.Numeral
import AccessGate.Proofs.Url.Grammar
import AccessGate.Rule.Record
import Mathlib.Data.List.Pairwise
import Mathlib.Logic.Relation

/-! # Spellings of a record

A record may be spelled in many ways: its members stand in any order, a field has two keys, there may be members that
give nothing, and some values have a longer and a shorter form. Any of these spellings is read as the same rule, or
as none. -/
namespace AccessGate

namespace Field
variable {f : Field} {key : String} {v w : Json}

theorem ofKey?_eq_some_iff : ofKey? key = some f ↔ key = f.label ∨ key = f.plainKey := by
  constructor
  · intro h
    simpa using List.find?_some h
  · rintro (rfl | rfl) <;> cases f <;> decide

def numbers : List Field := [.ruleNum, .httpProxyPort, .socksServerPort]

def lists : List Field := [.allowedEntities, .apps]

def texts : List Field := [.clientId, .pattern, .secretKey, .name]

/-- An app of two texts as an object, and as one text with a colon in it. -/
inductive SpellsApp : Json → Json → Prop
  | joined {members : List (String × Json)} {container appId : String}
      (hcontainer : Json.member? "container" members = some (.str container))
      (happId : Json.member? "appId" members = some (.str appId)) (hcolon : ':' ∉ container.toList) :
      SpellsApp (.obj members) (.str (container ++ ":" ++ appId))

inductive Respells : Field → Json → Json → Prop
  | decimal {f : Field} {n : Int} (hf : f ∈ numbers) (hn : Text.IsReadable n) :
      Respells f (.int n) (.str (Text.decimal n))
  | app {v w : Json} (h : SpellsApp v w) : Respells .apps v w
  | item {before after : List Json} {v w : Json} (h : SpellsApp v w) :
      Respells .apps (.arr (before ++ v :: after)) (.arr (before ++ w :: after))
  | bareText {f : Field} {s : String} (hf : f ∈ lists) : Respells f (.arr [.str s]) (.str s)
  | bareObject {f : Field} {members : List (String × Json)} (hf : f ∈ lists) :
      Respells f (.arr [.obj members]) (.obj members)
  | padded {s before after : String} (hbefore : ∀ c ∈ before.toList, Text.isBlank c = true)
      (hafter : ∀ c ∈ after.toList, Text.isBlank c = true) :
      Respells .patternType (.str s) (.str (before ++ s ++ after))

theorem Respells.isNull_eq (h : f.Respells v w) : v.isNull = w.isNull := by
  cases h with
  | app h =>
    cases h
    rfl
  | _ => rfl

def ReadsAlike (f : Field) (v w : Json) : Prop :=
  match f with
  | .ruleNum | .httpProxyPort | .socksServerPort => Record.readNumber f v = Record.readNumber f w
  | .allowedEntities => Record.readList f v = Record.readList f w
  | .apps => (Record.readList f v >>= fun items => items.mapM Record.readApp) =
      Record.readList f w >>= fun items => items.mapM Record.readApp
  | .patternType => ∀ t, Record.readPatternType v = .ok t ↔ Record.readPatternType w = .ok t
  | .clientId | .pattern | .secretKey | .name => v = w

theorem ReadsAlike.refl (f : Field) (v : Json) : f.ReadsAlike v v := by
  cases f
  case patternType => exact fun _ => Iff.rfl
  all_goals rfl

theorem readsAlike_iff_of_mem_numbers (hf : f ∈ numbers) :
    f.ReadsAlike v w ↔ Record.readNumber f v = Record.readNumber f w := by
  simp only [numbers, List.mem_cons, List.not_mem_nil, or_false] at hf
  rcases hf with rfl | rfl | rfl <;> rfl

theorem SpellsApp.readApp_eq (h : SpellsApp v w) : Record.readApp v = Record.readApp w := by
  cases h with
  | @joined members container appId hcontainer happId hcolon =>
    have hparted : Url.Parted ':' (container ++ ":" ++ appId).toList container.toList appId.toList :=
      ⟨hcolon, .inl (by simp)⟩
    obtain ⟨hbefore, hafter⟩ := Url.parted_iff.mp hparted
    have hmem : (container ++ ":" ++ appId).toList.contains ':' = true := by simp
    rw [Record.readApp, Record.readApp, if_pos hmem, hbefore, hafter, hcontainer, happId]
    simp [Record.partText?, Json.text]

theorem mapM_readApp_congr (h : SpellsApp v w) (before after : List Json) :
    (before ++ v :: after).mapM Record.readApp = (before ++ w :: after).mapM Record.readApp := by
  simp [h.readApp_eq]

theorem SpellsApp.readsAlike (h : SpellsApp v w) : apps.ReadsAlike v w := by
  cases h with
  | joined hcontainer happId hcolon => exact mapM_readApp_congr (.joined hcontainer happId hcolon) [] []

theorem readPatternType_padded {before after : String} (hbefore : ∀ c ∈ before.toList, Text.isBlank c = true)
    (hafter : ∀ c ∈ after.toList, Text.isBlank c = true) (s : String) (t : PatternType) :
    Record.readPatternType (.str s) = .ok t ↔ Record.readPatternType (.str (before ++ s ++ after)) = .ok t := by
  simp only [Record.readPatternType, Json.text, PatternTypeField.read, Text.trim_padded hbefore hafter]
  cases PatternType.ofName? (Text.trim s) <;> simp

theorem Respells.readsAlike (h : f.Respells v w) : f.ReadsAlike v w := by
  cases h with
  | decimal hf hn =>
    apply (readsAlike_iff_of_mem_numbers hf).mpr
    simp only [Record.readNumber, Text.integer?_decimal hn]
  | app h => exact h.readsAlike
  | item h => exact mapM_readApp_congr h _ _
  | bareText hf | bareObject hf =>
    simp only [lists, List.mem_cons, List.not_mem_nil, or_false] at hf
    rcases hf with rfl | rfl <;> rfl
  | padded hbefore hafter => exact readPatternType_padded hbefore hafter _

end Field

namespace Record
variable {r s : Record} {f : Field} {member : String × Json}

def Gives (member : String × Json) (f : Field) : Prop := Field.ofKey? member.1 = some f ∧ member.2.isNull = false

instance : Decidable (Gives member f) := inferInstanceAs (Decidable (_ ∧ _))

/-- A record whose keys are distinct, and which gives no field a value under both of its keys. -/
structure Unambiguous (r : Record) : Prop where
  distinct : (Keyed.keys r).Nodup
  once : ∀ f : Field, ∀ v w, f.label ≠ f.plainKey → (f.label, v) ∈ r → (f.plainKey, w) ∈ r →
    v.isNull = true ∨ w.isNull = true

/-- `Respelled r s`: the record `s` is `r` in another order, with a field under its other key, with one more member
that gives nothing, or with a value in another form. -/
inductive Respelled : Record → Record → Prop
  | reorder {r s : Record} (h : r.Perm s) : Respelled r s
  | rename {f : Field} {key other : String} {v : Json} {r : Record}
      (h : key = f.label ∧ other = f.plainKey ∨ key = f.plainKey ∧ other = f.label)
      (hfree : other ∉ Keyed.keys r) : Respelled ((key, v) :: r) ((other, v) :: r)
  | add {key : String} {v : Json} {r : Record} (h : Field.ofKey? key = none ∨ v.isNull = true)
      (hfree : key ∉ Keyed.keys r) : Respelled r ((key, v) :: r)
  | rewrite {f : Field} {key : String} {v w : Json} {r : Record} (hkey : Field.ofKey? key = some f)
      (h : f.Respells v w) : Respelled ((key, v) :: r) ((key, w) :: r)

/-- Two members that do not give a value to the same field. -/
def Apart (member other : String × Json) : Prop := ∀ f, Gives member f → ¬Gives other f

instance : Std.Symm Apart := ⟨fun _ _ hapart f hother hmember => hapart f hmember hother⟩

def GivesOnce (r : Record) : Prop := r.Pairwise Apart

theorem unambiguous_iff : r.Unambiguous ↔ (Keyed.keys r).Nodup ∧ r.GivesOnce := by
  constructor
  · intro h
    have hkeys : r.Pairwise fun member other => member.1 ≠ other.1 := List.pairwise_map.mp h.distinct
    refine ⟨h.distinct, hkeys.imp_of_mem ?_⟩
    intro (key, v) (key', w) hv hw hne f ⟨hkey, hvnull⟩ ⟨hkey', hwnull⟩
    rcases Field.ofKey?_eq_some_iff.mp hkey with rfl | rfl <;>
      rcases Field.ofKey?_eq_some_iff.mp hkey' with rfl | rfl
    · exact hne rfl
    · simpa [hvnull, hwnull] using h.once f v w hne hv hw
    · simpa [hvnull, hwnull] using h.once f w v (Ne.symm hne) hw hv
    · exact hne rfl
  · intro ⟨hdistinct, hgives⟩
    refine ⟨hdistinct, fun f v w hne hv hw => ?_⟩
    by_contra hnull
    simp only [not_or, Bool.not_eq_true] at hnull
    have hmembers : (f.label, v) ≠ (f.plainKey, w) := fun heq => hne (congrArg Prod.fst heq)
    apply hgives.forall hv hw hmembers f
    · exact ⟨Field.ofKey?_eq_some_iff.mpr (.inl rfl), hnull.1⟩
    · exact ⟨Field.ofKey?_eq_some_iff.mpr (.inr rfl), hnull.2⟩

theorem value?_cons (member : String × Json) (r : Record) (f : Field) :
    value? (member :: r) f = (value? r f).or (if Gives member f then some member.2 else none) := by
  by_cases h : Gives member f
  · simp [value?, List.find?_append, h, h.1, h.2]
  · have hpass : ¬((decide (Field.ofKey? member.1 = some f) && !member.2.isNull) = true) := by
      simpa [Gives] using h
    simp [value?, List.find?_append, h, hpass]

theorem GivesOnce.value?_eq_some_iff (h : r.GivesOnce) {v : Json} :
    r.value? f = some v ↔ ∃ key, (key, v) ∈ r ∧ Gives (key, v) f := by
  induction r generalizing v with
  | nil => simp [value?]
  | cons member r ih =>
    obtain ⟨hmember, hr⟩ := List.pairwise_cons.mp h
    rw [value?_cons]
    by_cases hgives : Gives member f
    · have hnone : value? r f = none := by
        apply Option.eq_none_iff_forall_ne_some.mpr
        intro w hw
        obtain ⟨key, hmem, hother⟩ := (ih hr).mp hw
        exact hmember _ hmem f hgives hother
      rw [hnone, if_pos hgives, Option.none_or, Option.some.injEq]
      constructor
      · rintro rfl
        exact ⟨member.1, List.mem_cons_self, hgives⟩
      · intro ⟨key, hmem, hother⟩
        rcases List.mem_cons.mp hmem with rfl | hmem
        · rfl
        · exact absurd hother (hmember _ hmem f hgives)
    · rw [if_neg hgives, Option.or_none, ih hr]
      refine exists_congr fun key => and_congr_left fun hother => ?_
      have hne : (key, v) ≠ member := by
        rintro rfl
        exact hgives hother
      simp [hne]

theorem GivesOnce.of_perm (h : r.GivesOnce) (hs : r.Perm s) : s.GivesOnce :=
  hs.pairwise h fun hapart => symm hapart

theorem GivesOnce.value?_of_perm (h : r.GivesOnce) (hs : r.Perm s) (f : Field) : r.value? f = s.value? f := by
  apply Option.ext
  intro v
  rw [h.value?_eq_some_iff, (h.of_perm hs).value?_eq_some_iff]
  simp only [hs.mem_iff]

theorem gives_rename_iff {key other : String}
    (h : key = f.label ∧ other = f.plainKey ∨ key = f.plainKey ∧ other = f.label) (v : Json) (g : Field) :
    Gives (key, v) g ↔ Gives (other, v) g := by
  have hkey : Field.ofKey? key = some f := Field.ofKey?_eq_some_iff.mpr (h.imp And.left And.left)
  have hother : Field.ofKey? other = some f := Field.ofKey?_eq_some_iff.mpr (h.symm.imp And.right And.right)
  simp only [Gives, hkey, hother]

theorem not_gives_added {key : String} {v : Json} (h : Field.ofKey? key = none ∨ v.isNull = true) (g : Field) :
    ¬Gives (key, v) g := by
  rcases h with h | h <;> simp [Gives, h]

theorem gives_rewrite_iff {key : String} {v w : Json} (h : f.Respells v w) (g : Field) :
    Gives (key, v) g ↔ Gives (key, w) g := by
  simp only [Gives, h.isNull_eq]

theorem GivesOnce.cons_congr {other : String × Json} (h : GivesOnce (member :: r))
    (hsame : ∀ f, Gives member f ↔ Gives other f) : GivesOnce (other :: r) := by
  simpa only [GivesOnce, List.pairwise_cons, Apart, hsame] using h

theorem Respelled.unambiguous (h : Respelled r s) (hr : r.Unambiguous) : s.Unambiguous := by
  obtain ⟨hdistinct, hgives⟩ := unambiguous_iff.mp hr
  apply unambiguous_iff.mpr
  cases h with
  | reorder h => exact ⟨(h.map Prod.fst).nodup hdistinct, hgives.of_perm h⟩
  | rename h hfree =>
    refine ⟨List.nodup_cons.mpr ⟨hfree, (List.nodup_cons.mp hdistinct).2⟩, ?_⟩
    exact hgives.cons_congr (gives_rename_iff h _)
  | add h hfree =>
    refine ⟨List.nodup_cons.mpr ⟨hfree, hdistinct⟩, List.pairwise_cons.mpr ⟨?_, hgives⟩⟩
    exact fun _ _ f hf => absurd hf (not_gives_added h f)
  | rewrite _ h => exact ⟨hdistinct, hgives.cons_congr (gives_rewrite_iff h)⟩

theorem rel_readsAlike_refl (f : Field) (v? : Option Json) : Option.Rel f.ReadsAlike v? v? := by
  cases v? with
  | none => exact .none
  | some v => exact .some (.refl f v)

theorem Respelled.readsAlike (h : Respelled r s) (hr : r.Unambiguous) (f : Field) :
    Option.Rel f.ReadsAlike (r.value? f) (s.value? f) := by
  cases h with
  | reorder h =>
    rw [(unambiguous_iff.mp hr).2.value?_of_perm h]
    exact rel_readsAlike_refl f _
  | rename h =>
    simp only [value?_cons, gives_rename_iff h]
    exact rel_readsAlike_refl f _
  | add h =>
    rw [value?_cons, if_neg (not_gives_added h f), Option.or_none]
    exact rel_readsAlike_refl f _
  | @rewrite g key v w r hkey h =>
    simp only [value?_cons, gives_rewrite_iff h]
    cases value? r f with
    | some u => exact .some (.refl f u)
    | none =>
      by_cases hgives : Gives (key, w) f
      · obtain rfl : g = f := Option.some.inj (hkey.symm.trans hgives.1)
        rw [if_pos hgives, if_pos hgives]
        exact .some h.readsAlike
      · rw [if_neg hgives, if_neg hgives]
        exact .none

section Reading
variable (h : ∀ f : Field, Option.Rel f.ReadsAlike (r.value? f) (s.value? f))
include h

theorem values_of_readsAlike (f : Field) : r.value? f = none ∧ s.value? f = none ∨
    ∃ v w, r.value? f = some v ∧ s.value? f = some w ∧ f.ReadsAlike v w := by
  have hvalues := h f
  generalize r.value? f = v? at hvalues
  generalize s.value? f = w? at hvalues
  cases hvalues with
  | none => exact .inl ⟨rfl, rfl⟩
  | some hvw => exact .inr ⟨_, _, rfl, rfl, hvw⟩

theorem number?_eq_of_readsAlike (hf : f ∈ Field.numbers) : r.number? f = s.number? f := by
  rcases values_of_readsAlike h f with ⟨hv, hw⟩ | ⟨v, w, hv, hw, hvw⟩
  · rw [number?, hv, number?, hw]
  · rw [number?, hv, number?, hw]
    change (readNumber f v).map some = (readNumber f w).map some
    rw [(Field.readsAlike_iff_of_mem_numbers hf).mp hvw]

theorem list_eq_of_readsAlike : r.list .allowedEntities = s.list .allowedEntities := by
  rcases values_of_readsAlike h .allowedEntities with ⟨hv, hw⟩ | ⟨v, w, hv, hw, hvw⟩
  · rw [list, hv, list, hw]
  · rw [list, hv, list, hw]
    exact hvw

theorem apps_iff_of_readsAlike (P : List AppTag → Prop) :
    (∃ items, r.list .apps = .ok items ∧ ∃ tags, items.mapM readApp = .ok tags ∧ P tags) ↔
      ∃ items, s.list .apps = .ok items ∧ ∃ tags, items.mapM readApp = .ok tags ∧ P tags := by
  have happs : (r.list .apps >>= fun items => items.mapM readApp) =
      s.list .apps >>= fun items => items.mapM readApp := by
    rcases values_of_readsAlike h .apps with ⟨hv, hw⟩ | ⟨v, w, hv, hw, hvw⟩
    · rw [list, hv, list, hw]
    · rw [list, hv, list, hw]
      exact hvw
  have hbind (q : Record) :
      (∃ items, q.list .apps = .ok items ∧ ∃ tags, items.mapM readApp = .ok tags ∧ P tags) ↔
      ∃ tags, (q.list .apps >>= fun items => items.mapM readApp) = .ok tags ∧ P tags := by
    simp only [bind_eq_ok_iff]
    constructor
    · intro ⟨items, hitems, tags, htags, hP⟩
      exact ⟨tags, ⟨items, hitems, htags⟩, hP⟩
    · intro ⟨tags, ⟨items, hitems, htags⟩, hP⟩
      exact ⟨items, hitems, tags, htags, hP⟩
  rw [hbind, hbind, happs]

theorem patternType_iff_of_readsAlike (t? : Option PatternType) :
    (r.value? .patternType).mapM readPatternType = .ok t? ↔
      (s.value? .patternType).mapM readPatternType = .ok t? := by
  rcases values_of_readsAlike h .patternType with ⟨hv, hw⟩ | ⟨v, w, hv, hw, hvw⟩
  · rw [hv, hw]
  · rw [hv, hw]
    change (readPatternType v).map some = .ok t? ↔ (readPatternType w).map some = .ok t?
    simp only [map_eq_ok_iff, hvw _]

theorem text?_eq_of_readsAlike (hf : f ∈ Field.texts) : r.text? f = s.text? f := by
  rcases values_of_readsAlike h f with ⟨hv, hw⟩ | ⟨v, w, hv, hw, hvw⟩
  · rw [text?, hv, text?, hw]
  · have hsame : v = w := by
      simp only [Field.texts, List.mem_cons, List.not_mem_nil, or_false] at hf
      rcases hf with rfl | rfl | rfl | rfl <;> exact hvw
    rw [text?, hv, text?, hw, hsame]

theorem toRule_eq_ok_iff_of_readsAlike (rule : Rule) :
    r.toRule none = .ok rule ↔ s.toRule none = .ok rule := by
  have hnumber (f : Field) (hf : f ∈ Field.numbers) := number?_eq_of_readsAlike h hf
  have htext (f : Field) (hf : f ∈ Field.texts) := text?_eq_of_readsAlike h hf
  simp only [toRule, readRule, bind_eq_ok_iff, mapError_eq_ok_iff, pure_eq_ok_iff]
  simp only [list_eq_of_readsAlike h, apps_iff_of_readsAlike h, patternType_iff_of_readsAlike h,
    hnumber .ruleNum (by decide), hnumber .httpProxyPort (by decide), hnumber .socksServerPort (by decide),
    htext .clientId (by decide), htext .pattern (by decide), htext .secretKey (by decide), htext .name (by decide)]

end Reading

theorem Respelled.toRule_eq_ok_iff (h : Respelled r s) (hr : r.Unambiguous) (rule : Rule) :
    r.toRule none = .ok rule ↔ s.toRule none = .ok rule :=
  toRule_eq_ok_iff_of_readsAlike (h.readsAlike hr) rule

theorem toRule_eq_ok_iff_of_respelled (hr : r.Unambiguous) (h : Relation.ReflTransGen Respelled r s) :
    s.Unambiguous ∧ ∀ rule, r.toRule none = .ok rule ↔ s.toRule none = .ok rule := by
  induction h with
  | refl => exact ⟨hr, fun _ => Iff.rfl⟩
  | tail _ hstep ih =>
    obtain ⟨hs, hsame⟩ := ih
    exact ⟨hstep.unambiguous hs, fun rule => (hsame rule).trans (hstep.toRule_eq_ok_iff hs rule)⟩

/-- Whatever is respelled in a record, and however often, it gives the same rule, or gives none as before. -/
theorem toRule_of_respelled (hr : r.Unambiguous) (h : Relation.ReflTransGen Respelled r s) :
    (∃ rule, r.toRule none = .ok rule ∧ s.toRule none = .ok rule) ∨
      ∃ e e', r.toRule none = .error e ∧ s.toRule none = .error e' := by
  obtain ⟨-, hsame⟩ := toRule_eq_ok_iff_of_respelled hr h
  cases hread : r.toRule none with
  | ok rule => exact .inl ⟨rule, rfl, (hsame rule).mp hread⟩
  | error e =>
    cases hother : s.toRule none with
    | ok rule => cases hread.symm.trans ((hsame rule).mpr hother)
    | error e' => exact .inr ⟨e, e', rfl, rfl⟩

section Sample

def wikiApp : Json := .obj [("container", .str "gadgets"), ("appId", .str "wiki")]

def plainSample : Record := [("apps", .arr [wikiApp]), ("ruleNum", .int (-7))]

def respelledSample : Record :=
  [("comment", .bool true), ("rule_num", .str "-7"), ("apps", .str "gadgets:wiki")]

theorem toRule_of_respelled_sample : plainSample.Unambiguous ∧
    Relation.ReflTransGen Respelled plainSample respelledSample ∧
    ∃ rule, plainSample.toRule none = .ok rule ∧ respelledSample.toRule none = .ok rule := by
  have hrecord : plainSample.Unambiguous := by
    have happs : Field.ofKey? "apps" = some .apps := rfl
    have hnumber : Field.ofKey? "ruleNum" = some .ruleNum := rfl
    refine unambiguous_iff.mpr ⟨by decide, ?_⟩
    simp [plainSample, GivesOnce, Apart, Gives, happs, hnumber]
  have hspelling : Relation.ReflTransGen Respelled plainSample respelledSample := by
    refine .head (.rewrite (f := .apps) rfl (.bareObject (by decide))) ?_
    refine .head (.rewrite (f := .apps) rfl (.app (.joined (by rfl) (by rfl) (by decide)))) ?_
    refine .head (.reorder (.swap _ _ _)) ?_
    refine .head (.rewrite (f := .ruleNum) rfl (.decimal (by decide) (by decide))) ?_
    refine .head (.rename (f := .ruleNum) (.inl ⟨rfl, rfl⟩) (by decide)) ?_
    exact .single (.add (.inl (by decide)) (by decide))
  refine ⟨hrecord, hspelling, ?_⟩
  rcases toRule_of_respelled hrecord hspelling with hread | ⟨e, e', herror, _⟩
  · exact hread
  · cases herror

end Sample

end Record
end AccessGate
