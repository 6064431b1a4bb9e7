import AccessGate.Authenticator
import AccessGate.Proofs.Keyed
import Mathlib.Data.List.Nodup

/-! # What an authenticator answers

An authenticator compares keys byte by byte, one after the other. Since texts with the same bytes are the
same, and no key occurs twice, it answers as the list of its credentials says. -/
namespace AccessGate

namespace Authenticator
variable {a : Authenticator} {username : String} {endpoint : Endpoint}

theorem sameBytes_iff {s t : String} : sameBytes s t = true ↔ s = t := by
  change (s.toByteArray.data == t.toByteArray.data) = true ↔ s = t
  rw [beq_iff_eq, ← ByteArray.ext_iff, String.toByteArray_inj]

private theorem find?_eq_none_iff :
    a.credentials.find? (fun (key, _) => sameBytes key username) = none ↔
      username ∉ Keyed.keys a.credentials := by
  rw [List.find?_eq_none, Keyed.keys]
  simp only [sameBytes_iff, List.mem_map, not_exists, not_and]

private theorem find?_eq_some_iff {c : Credential} :
    a.credentials.find? (fun (key, _) => sameBytes key username) = some c ↔
      c ∈ a.credentials ∧ c.1 = username := by
  constructor
  · intro h
    have hsame := List.find?_some h
    exact ⟨List.mem_of_find?_eq_some h, sameBytes_iff.mp hsame⟩
  · intro h
    obtain ⟨hmem, hkey⟩ := h
    cases hfind : a.credentials.find? (fun (key, _) => sameBytes key username) with
    | none => exact absurd (List.mem_map.mpr ⟨c, hmem, hkey⟩) (find?_eq_none_iff.mp hfind)
    | some d =>
      have hsame := List.find?_some hfind
      have hd : d.1 = c.1 := (sameBytes_iff.mp hsame).trans hkey.symm
      rw [List.inj_on_of_nodup_map a.nodup (List.mem_of_find?_eq_some hfind) hmem hd]

theorem authenticate_eq_ok_iff : a.authenticate username = .ok endpoint ↔
    username ≠ "" ∧ (username, endpoint) ∈ a.credentials := by
  have hpair : (username, endpoint) ∈ a.credentials ↔
      a.credentials.find? (fun (key, _) => sameBytes key username) = some (username, endpoint) := by
    rw [find?_eq_some_iff, and_iff_left rfl]
  rw [hpair, authenticate]
  by_cases hempty : username = ""
  · simp [hempty]
  · rw [if_neg (by simpa using hempty)]
    cases hfind : a.credentials.find? (fun (key, _) => sameBytes key username) with
    | none => simp
    | some c =>
      obtain ⟨_, hkey⟩ := find?_eq_some_iff.mp hfind
      simp [hempty, Prod.ext_iff, hkey]

theorem authenticate_eq_badCredentials (hne : username ≠ "")
    (h : username ∉ Keyed.keys a.credentials) : a.authenticate username = .error .badCredentials := by
  rw [authenticate, if_neg (by simpa using hne), find?_eq_none_iff.mpr h]

theorem permit_iff {host : String} {port : Int} :
    a.permit username host port = true ↔ a.authenticate username = .ok ⟨host, port⟩ := by
  unfold permit
  cases a.authenticate username <;> simp

theorem authenticate_eq_lookup (hne : username ≠ "") :
    a.authenticate username = (a.credentials.lookup username).elim (.error .badCredentials) .ok := by
  cases hlookup : a.credentials.lookup username with
  | none =>
    have hnone : username ∉ Keyed.keys a.credentials := by
      rw [Keyed.keys, List.mem_map]
      rintro ⟨c, hmem, rfl⟩
      simpa using List.lookup_eq_none_iff.mp hlookup c hmem
    exact authenticate_eq_badCredentials hne hnone
  | some endpoint =>
    obtain ⟨before, after, hsplit, _⟩ := List.lookup_eq_some_iff.mp hlookup
    have hmem : (username, endpoint) ∈ a.credentials := by simp [hsplit]
    exact authenticate_eq_ok_iff.mpr ⟨hne, hmem⟩

/-- The search for a key with the bytes of a user name is a look-up of the name among the credentials, of which the
last counts under each key. A user is permitted just the endpoint that is found, and the credentials in force are as
many as the keys. -/
theorem ofList_answers_as_map (credentials : List Credential) (username : String) :
    (∀ key, sameBytes key username = true ↔ key.toList = username.toList) ∧
    (ofList credentials).authenticate username =
      (if username = "" then .error .missingCredential
      else (credentials.reverse.lookup username).elim (.error .badCredentials) .ok) ∧
    ((∃ endpoint, (ofList credentials).authenticate username = .ok endpoint) ↔
      username ≠ "" ∧ username ∈ Keyed.keys credentials) ∧
    (∀ host port, (ofList credentials).permit username host port = true ↔
      (ofList credentials).authenticate username = .ok ⟨host, port⟩) ∧
    (ofList credentials).size = (Keyed.keys credentials).toFinset.card := by
  refine ⟨fun key => ?_, ?_, ?_, fun host port => permit_iff, Keyed.length_ofList credentials⟩
  · rw [sameBytes_iff, String.toList_inj]
  · by_cases hempty : username = ""
    · simp [authenticate, hempty]
    · have hlast : (ofList credentials).credentials.lookup username = credentials.reverse.lookup username :=
        Keyed.lookup_ofList credentials username
      rw [if_neg hempty, authenticate_eq_lookup hempty, hlast]
  · simp only [authenticate_eq_ok_iff, exists_and_left]
    refine and_congr_right fun _ => ?_
    rw [← Keyed.mem_keys_ofList]
    simp [Keyed.keys, ofList]

end Authenticator
end AccessGate
