import AccessGate.Proofs.Provision.Scoping

/-! # Isolation of clients

The rules for other clients are numbered and checked with the whole feed, and left out before anything is taken
from the machine. So feeds that pass the checks, and differ in such rules alone, come to the same for a client:
the same rules or the same failure, the same ledger, and the same events. -/
namespace AccessGate.Provision

/-- `Edited clientId rules rules'`: rules for other clients than this one, inserted, deleted or altered at any
places of `rules`, make `rules'` of it. -/
inductive Edited (clientId : String) : List Rule → List Rule → Prop
  | nil : Edited clientId [] []
  | kept {rules rules' : List Rule} (r : Rule) (rest : Edited clientId rules rules') :
      Edited clientId (r :: rules) (r :: rules')
  | inserted {rules rules' : List Rule} {r : Rule} (other : r.isFor clientId = false)
      (rest : Edited clientId rules rules') : Edited clientId rules (r :: rules')
  | deleted {rules rules' : List Rule} {r : Rule} (other : r.isFor clientId = false)
      (rest : Edited clientId rules rules') : Edited clientId (r :: rules) rules'
  | altered {rules rules' : List Rule} {r r' : Rule} (other : r.isFor clientId = false)
      (other' : r'.isFor clientId = false) (rest : Edited clientId rules rules') :
      Edited clientId (r :: rules) (r' :: rules')

variable {clientId : String} {rules rules' : List Rule}

theorem Edited.filter_eq (h : Edited clientId rules rules') :
    rules.filter (Rule.isFor clientId) = rules'.filter (Rule.isFor clientId) := by
  induction h with
  | nil => rfl
  | kept r _ ih => rw [List.filter_cons, List.filter_cons, ih]
  | inserted other _ ih => rw [List.filter_cons_of_neg (by simp [other]), ih]
  | deleted other _ ih => rw [List.filter_cons_of_neg (by simp [other]), ih]
  | altered other other' _ ih =>
    rw [List.filter_cons_of_neg (by simp [other]), List.filter_cons_of_neg (by simp [other']), ih]

theorem filter_isFor_map_numbered (clientId : String) (rules : List Rule) :
    (rules.map Rule.numbered).filter (Rule.isFor clientId) =
      (rules.filter (Rule.isFor clientId)).map Rule.numbered :=
  List.filter_map

theorem Edited.candidates_eq (h : Edited clientId rules rules') (socksPort : Int) (system : List Rule) :
    candidates ⟨some clientId, socksPort, system⟩ rules =
      candidates ⟨some clientId, socksPort, system⟩ rules' := by
  rw [candidates_eq_scope, candidates_eq_scope, scope_eq_map_filter, scope_eq_map_filter,
    filter_isFor_map_numbered, filter_isFor_map_numbered, h.filter_eq]

/-- Edits of the rules for other clients change nothing of what provisioning comes to for a client, as long as
the feed passes its checks before and after: neither the rules or the failure, nor the keys drawn, the calls for
a port and the keys handed out, nor the events. -/
theorem provision_eq_of_edited (h : Edited clientId rules rules') (hrules : Admitted rules)
    (hrules' : Admitted rules') (supply : Supply) (logging : Bool) (socksPort : Int) (system : List Rule)
    (l : Ledger) :
    provision supply logging ⟨some clientId, socksPort, system⟩ rules l =
      provision supply logging ⟨some clientId, socksPort, system⟩ rules' l := by
  have hprepare : prepare ⟨some clientId, socksPort, system⟩ rules =
      prepare ⟨some clientId, socksPort, system⟩ rules' := by
    obtain ⟨hnames, hfit⟩ := admitted_iff.mp hrules
    obtain ⟨hnames', hfit'⟩ := admitted_iff.mp hrules'
    rw [prepare_eq_ok_iff.mpr ⟨hnames, hfit, rfl⟩, prepare_eq_ok_iff.mpr ⟨hnames', hfit', rfl⟩,
      h.candidates_eq]
  unfold provision
  rw [hprepare]

section Sample

open AccessGate.Agent (sampleMachine sampleRule sampleRules)

def otherRule (ruleNum : Int) (pattern : String) : Rule :=
  { sampleRule ruleNum pattern .regex with clientId := some "d" }

/-- A rule for another client is put in front of plain http ones, and the last one is altered. -/
theorem provision_eq_of_edited_sample :
    Edited "c" (sampleRules ++ [otherRule 4 "http://d.corp"])
      (otherRule 9 "http://d.corp/first" :: sampleRules ++ [otherRule 8 "http://d.corp/last"]) ∧
    provision sampleMachine.toSupply true ⟨some "c", 1080, []⟩ (sampleRules ++ [otherRule 4 "http://d.corp"]) {} =
      provision sampleMachine.toSupply true ⟨some "c", 1080, []⟩
        (otherRule 9 "http://d.corp/first" :: sampleRules ++ [otherRule 8 "http://d.corp/last"]) {} := by
  have hedited : Edited "c" (sampleRules ++ [otherRule 4 "http://d.corp"])
      (otherRule 9 "http://d.corp/first" :: sampleRules ++ [otherRule 8 "http://d.corp/last"]) :=
    .inserted rfl (.kept _ (.kept _ (.kept _ (.altered rfl rfl .nil))))
  exact ⟨hedited, provision_eq_of_edited hedited rfl rfl _ _ _ _ _⟩

end Sample

end AccessGate.Provision
