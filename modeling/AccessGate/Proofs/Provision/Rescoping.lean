import AccessGate.Provision.Scope
import Mathlib.Data.List.Basic

/-! # Scoping what was scoped

What is left for a client is made out to that client. So it cannot be scoped to another client any more, unless it
was scoped to all clients, when only the rules for all clients were left. -/
namespace AccessGate

def Rule.OpenTo (client : Option String) (r : Rule) : Prop :=
  r.clientId = client ∨ r.clientId = some allClients

namespace Provision
variable {client : Option String} {rules : List Rule} {r : Rule}

/-- `Scoped client rules left`: the rules that are open to the client are left in their order, and nothing of them
is changed but that they are made out to the client. -/
inductive Scoped (client : Option String) : List Rule → List Rule → Prop
  | nil : Scoped client [] []
  | kept {rules left : List Rule} {r : Rule} (hopen : r.OpenTo client) (rest : Scoped client rules left) :
      Scoped client (r :: rules) ({ r with clientId := client } :: left)
  | dropped {rules left : List Rule} {r : Rule} (hother : ¬r.OpenTo client) (rest : Scoped client rules left) :
      Scoped client (r :: rules) left

theorem scope_cons_of_open (h : r.OpenTo client) :
    scope client (r :: rules) = { r with clientId := client } :: scope client rules := by
  rw [scope, List.filter_cons, if_pos (by simpa [Rule.OpenTo] using h), List.map_cons, scope]

theorem scope_cons_of_other (h : ¬r.OpenTo client) : scope client (r :: rules) = scope client rules := by
  rw [scope, List.filter_cons, if_neg (by simpa [Rule.OpenTo] using h), scope]

theorem scoped_scope (client : Option String) (rules : List Rule) : Scoped client rules (scope client rules) := by
  induction rules with
  | nil => exact .nil
  | cons r rest ih =>
    by_cases h : r.OpenTo client
    · rw [scope_cons_of_open h]
      exact .kept h ih
    · rw [scope_cons_of_other h]
      exact .dropped h ih

theorem scope_eq_iff {left : List Rule} : scope client rules = left ↔ Scoped client rules left := by
  constructor
  · rintro rfl
    exact scoped_scope client rules
  · intro h
    induction h with
    | nil => rfl
    | kept hopen _ ih => rw [scope_cons_of_open hopen, ih]
    | dropped hother _ ih => rw [scope_cons_of_other hother, ih]

theorem clientId_of_mem_scope (h : r ∈ scope client rules) : r.clientId = client := by
  obtain ⟨_, _, rfl⟩ := List.mem_map.mp h
  rfl

theorem scope_of_forall_open (h : ∀ r ∈ rules, r.OpenTo client) :
    scope client rules = rules.map fun r => { r with clientId := client } := by
  rw [scope, List.filter_eq_self.mpr]
  intro r hr
  simpa [Rule.OpenTo] using h r hr

theorem scope_of_forall_other (h : ∀ r ∈ rules, ¬r.OpenTo client) : scope client rules = [] := by
  rw [scope, List.filter_eq_nil_iff.mpr, List.map_nil]
  intro r hr
  simpa [Rule.OpenTo] using h r hr

theorem scope_scope_self (client : Option String) (rules : List Rule) :
    scope client (scope client rules) = scope client rules := by
  rw [scope_of_forall_open fun r hr => .inl (clientId_of_mem_scope hr)]
  refine (List.map_congr_left fun r hr => ?_).trans (List.map_id _)
  rw [← clientId_of_mem_scope hr, id]

theorem scope_scope_all (client : Option String) (rules : List Rule) :
    scope client (scope (some allClients) rules) =
      (rules.filter fun r => r.clientId = some allClients).map fun r => { r with clientId := client } := by
  rw [scope_of_forall_open fun r hr => .inr (clientId_of_mem_scope hr), scope, List.map_map]
  simp only [Bool.or_self, Function.comp_def]

theorem scope_scope_other {other : Option String} (hother : other ≠ client) (hall : client ≠ some allClients)
    (rules : List Rule) : scope other (scope client rules) = [] := by
  apply scope_of_forall_other
  intro r hr hopen
  rw [Rule.OpenTo, clientId_of_mem_scope hr] at hopen
  rcases hopen with hsame | hwild
  · exact hother hsame.symm
  · exact hall hwild

/-- Scoping leaves the rules that are open to a client and makes them out to it. Scoping again leaves all for the same
client, nothing for another one, and, of what was scoped to all clients, the rules for all clients. -/
theorem scope_then_scope (client other : Option String) (rules : List Rule) :
    (∀ left, scope client rules = left ↔ Scoped client rules left) ∧
    scope other (scope client rules) =
      (if other = client then scope client rules
      else if client = some allClients then
        (rules.filter fun r => r.clientId = some allClients).map fun r => { r with clientId := other }
      else []) ∧
    scope other (scope (some allClients) rules) =
      (rules.filter fun r => r.clientId = some allClients).map fun r => { r with clientId := other } := by
  refine ⟨fun left => scope_eq_iff, ?_, scope_scope_all other rules⟩
  by_cases hsame : other = client
  · rw [if_pos hsame, hsame, scope_scope_self]
  · rw [if_neg hsame]
    by_cases hall : client = some allClients
    · rw [if_pos hall, hall, scope_scope_all]
    · rw [if_neg hall, scope_scope_other hsame hall]

end Provision
end AccessGate
