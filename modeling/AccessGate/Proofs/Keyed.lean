import AccessGate.Keyed
import Mathlib.Data.Finset.Card

/-! # What keyed rows hold

A row made from settings is a map: under each key it holds the value that was set last, and under no other key
anything. It is as long as there are keys. -/
namespace AccessGate.Keyed

variable {κ α : Type} [DecidableEq κ]

theorem put_of_not_mem {key : κ} {value : α} {row : List (κ × α)} (h : key ∉ keys row) :
    put key value row = row ++ [(key, value)] := by
  induction row with
  | nil => rfl
  | cons entry rest ih =>
    have hne : ¬entry.1 = key := fun he => h (by simp [keys, he])
    have hrest : key ∉ keys rest := fun hm => h (List.mem_cons_of_mem _ hm)
    rw [put, if_neg hne, ih hrest, List.cons_append]

private theorem foldl_put (row : List (κ × α)) {entries : List (κ × α)}
    (h : (keys (row ++ entries)).Nodup) :
    entries.foldl (fun row entry => put entry.1 entry.2 row) row = row ++ entries := by
  induction entries generalizing row with
  | nil => rw [List.foldl_nil, List.append_nil]
  | cons entry rest ih =>
    have hsplit : row ++ entry :: rest = (row ++ [entry]) ++ rest := by simp
    rw [hsplit] at h
    have hnew : entry.1 ∉ keys row := by
      intro hm
      rw [keys, List.map_append, List.map_append] at h
      exact (List.nodup_append.mp (List.nodup_append.mp h).1).2.2 _ hm _ (by simp) rfl
    rw [List.foldl_cons, put_of_not_mem hnew, ih _ h, hsplit]

theorem mem_keys_put {k key : κ} {value : α} {row : List (κ × α)} :
    k ∈ keys (put key value row) ↔ k ∈ keys row ∨ k = key := by
  rw [keys_put]
  by_cases hkey : key ∈ keys row
  · rw [if_pos hkey, or_iff_left_of_imp]
    rintro rfl
    exact hkey
  · rw [if_neg hkey, List.mem_append, List.mem_singleton]

theorem mem_keys_ofList {k : κ} {entries : List (κ × α)} : k ∈ keys (ofList entries) ↔ k ∈ keys entries := by
  have hfold (row : List (κ × α)) :
      k ∈ keys (entries.foldl (fun row entry => put entry.1 entry.2 row) row) ↔
        k ∈ keys row ∨ k ∈ keys entries := by
    induction entries generalizing row with
    | nil => simp [keys]
    | cons entry rest ih =>
      have hcons : k ∈ keys (entry :: rest) ↔ k = entry.1 ∨ k ∈ keys rest := List.mem_cons
      rw [List.foldl_cons, ih, mem_keys_put, or_assoc, hcons]
  rw [ofList, hfold]
  simp [keys]

theorem ofList_of_nodup {entries : List (κ × α)} (h : (keys entries).Nodup) : ofList entries = entries :=
  foldl_put [] h

theorem lookup_put [BEq κ] [LawfulBEq κ] (key other : κ) (value : α) (row : List (κ × α)) :
    (put key value row).lookup other = if other = key then some value else row.lookup other := by
  induction row with
  | nil =>
    by_cases h : other = key
    · simp [put, h]
    · simp [put, List.lookup_cons, beq_false_of_ne h, h]
  | cons entry rest ih =>
    obtain ⟨k, v⟩ := entry
    by_cases hk : k = key
    · subst hk
      by_cases h : other = k
      · simp [put, h]
      · simp [put, List.lookup_cons, beq_false_of_ne h, h]
    · by_cases h : other = k
      · subst h
        simp [put, hk]
      · simp [put, List.lookup_cons, hk, beq_false_of_ne h, ih]

/-- Of a repeated key the last setting counts. -/
theorem lookup_ofList [BEq κ] [LawfulBEq κ] (entries : List (κ × α)) (key : κ) :
    (ofList entries).lookup key = entries.reverse.lookup key := by
  induction entries using List.reverseRecOn with
  | nil => rfl
  | append_singleton earlier entry ih =>
    obtain ⟨k, value⟩ := entry
    have hlast : ofList (earlier ++ [(k, value)]) = put k value (ofList earlier) := List.foldl_concat ..
    rw [hlast, lookup_put, ih, List.reverse_concat, List.lookup_cons]
    by_cases h : key = k
    · simp [h]
    · simp [beq_false_of_ne h, h]

theorem length_ofList (entries : List (κ × α)) : (ofList entries).length = (keys entries).toFinset.card := by
  have hkeys : (keys (ofList entries)).toFinset = (keys entries).toFinset := by
    ext key
    rw [List.mem_toFinset, List.mem_toFinset, mem_keys_ofList]
  rw [← hkeys, List.toFinset_card_of_nodup (nodup_ofList entries), keys, List.length_map]

end AccessGate.Keyed
