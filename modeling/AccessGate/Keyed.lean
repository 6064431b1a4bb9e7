/-! # Keyed rows

Rows of values under keys, in the order in which the keys first came. Setting a key that is there
changes its value and leaves it in its place. -/
namespace AccessGate.Keyed

variable {κ α : Type} [DecidableEq κ]

def put (key : κ) (value : α) : List (κ × α) → List (κ × α)
  | [] => [(key, value)]
  | entry :: rest => if entry.1 = key then (key, value) :: rest else entry :: put key value rest

/-- The row that a list of settings leaves behind. -/
def ofList (entries : List (κ × α)) : List (κ × α) :=
  entries.foldl (fun row entry => put entry.1 entry.2 row) []

def keys (row : List (κ × α)) : List κ := row.map Prod.fst

theorem keys_put (key : κ) (value : α) (row : List (κ × α)) :
    keys (put key value row) = if key ∈ keys row then keys row else keys row ++ [key] := by
  induction row with
  | nil => simp [keys, put]
  | cons entry rest ih =>
    simp only [keys] at ih
    by_cases h : entry.1 = key
    · simp [keys, put, h]
    · have h' : key ≠ entry.1 := fun e => h e.symm
      by_cases hmem : key ∈ rest.map Prod.fst
      · simp [keys, put, h, ih, hmem]
      · simp [keys, put, h, h', ih, hmem]

theorem nodup_put {key : κ} {value : α} {row : List (κ × α)} (h : (keys row).Nodup) :
    (keys (put key value row)).Nodup := by
  rw [keys_put]
  split
  · exact h
  · rename_i hmem
    refine List.nodup_append.2 ⟨h, by simp, ?_⟩
    intro a ha b hb heq
    simp only [List.mem_singleton] at hb
    exact hmem (hb ▸ heq ▸ ha)

theorem nodup_ofList (entries : List (κ × α)) : (keys (ofList entries)).Nodup :=
  List.foldlRecOn (motive := fun row => (keys row).Nodup) entries _ List.nodup_nil
    fun _ h _ _ => nodup_put h

end AccessGate.Keyed
