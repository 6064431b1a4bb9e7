import AccessGate.Proofs.Checks
import AccessGate.Proofs.Keyed
import AccessGate.Storage.Disk

/-! # Files on a disk

A path without names of two dots leads to the place of its own names. What is written to a file is found at its
place, and at no other one. -/
namespace AccessGate

namespace Storage

namespace Path

/-- A path whose names lead straight on from the root. -/
def IsPlain (p : Path) : Prop := p.root ≠ [] ∧ ['.', '.'] ∉ p.names

theorem not_mem_plainNames (names : List (List Char)) : ['.', '.'] ∉ plainNames names := by
  apply List.foldlRecOn (motive := fun done => ['.', '.'] ∉ done) names
  · simp
  · intro done h name _ hmem
    by_cases hname : name = ['.', '.']
    · rw [if_pos hname] at hmem
      exact h (List.dropLast_subset done hmem)
    · rw [if_neg hname] at hmem
      simp [h, Ne.symm hname] at hmem

theorem plainNames_eq_self {names : List (List Char)} (h : ['.', '.'] ∉ names) : plainNames names = names := by
  have hsteps : ∀ done : List (List Char), names.foldl
      (fun done name => if name = ['.', '.'] then done.dropLast else done ++ [name]) done = done ++ names := by
    induction names with
    | nil => simp
    | cons name rest ih =>
      intro done
      have hname : name ≠ ['.', '.'] := fun heq => h (by simp [heq])
      have hrest : ['.', '.'] ∉ rest := fun hmem => h (List.mem_cons_of_mem _ hmem)
      rw [List.foldl_cons, if_neg hname, ih hrest]
      simp
  exact hsteps []

theorem IsPlain.plain_eq {p : Path} (h : p.IsPlain) : p.plain = p := by
  rw [plain, plainNames_eq_self h.2]

theorem plain_plain (p : Path) : p.plain.plain = p.plain := by
  rw [plain, plain, plainNames_eq_self (not_mem_plainNames p.names)]

theorem isPlain_plain {p : Path} (h : p.root ≠ []) : p.plain.IsPlain :=
  ⟨h, not_mem_plainNames p.names⟩

theorem root_absolute {p home : Path} (h : home.root ≠ []) : (p.absolute home).root ≠ [] := by
  unfold absolute
  split
  · exact h
  · rename_i hroot
    simpa using hroot

end Path

namespace Disk
variable {d d' : Disk} {place other : Place} {e : Entry} {bytes : List UInt8}

def bytesAt? (d : Disk) (place : Place) : Option (List UInt8) :=
  match d.entry? place with
  | some (.file bytes) => some bytes
  | _ => none

theorem entry?_put_same (h : place.isPrefixOf d.home.names = false) :
    entry? (d.put place e) place = some e := by
  simp [ entry?, put, h, Keyed.lookup_put]

theorem entry?_put_other (h : other ≠ place) : entry? (d.put place e) other = d.entry? other := by
  simp [ entry?, put, h, Keyed.lookup_put]

theorem not_home_of_entry (h : d.entry? place ≠ some .directory) : place.isPrefixOf d.home.names = false := by
  by_contra hhome
  rw [ entry?, if_pos (by simpa using hhome)] at h
  exact h rfl

theorem home_append (d : Disk) (place : Place) (bytes : List UInt8) : (d.append place bytes).home = d.home := by
  unfold append
  split <;> rfl

theorem bytesAt?_append (d : Disk) (place : Place) (bytes : List UInt8) :
    (d.append place bytes).bytesAt? place = (d.bytesAt? place).map (· ++ bytes) := by
  unfold append
  split
  · rename_i before hfile
    have hhome : place.isPrefixOf d.home.names = false := not_home_of_entry (by simp [hfile])
    simp [bytesAt?, entry?_put_same hhome, hfile]
  · rename_i hother
    cases hentry : d.entry? place with
    | none => simp [bytesAt?, hentry]
    | some e =>
      cases e with
      | file before => exact absurd hentry (hother before)
      | directory => simp [bytesAt?, hentry]

theorem bytesAt?_append_other (h : other ≠ place) :
    (d.append place bytes).bytesAt? other = d.bytesAt? other := by
  unfold append
  split
  · simp [bytesAt?, entry?_put_other h]
  · rfl

theorem step_eq_ok {name : List Char} (hname : name ≠ ['.', '.']) (h : d.step place name = .ok other) :
    other = place ++ [name] := by
  unfold step at h
  split at h
  · rw [if_neg hname] at h
    split at h
    · cases h
    · exact (Except.ok.inj h).symm
  · cases h
  · cases h

theorem foldlM_step_eq_ok {names : List (List Char)} (hplain : ['.', '.'] ∉ names)
    (h : names.foldlM d.step place = .ok other) : other = place ++ names := by
  induction names generalizing place with
  | nil =>
    have hsame : place = other := pure_eq_ok_iff.mp h
    simp [hsame]
  | cons name rest ih =>
    have hname : name ≠ ['.', '.'] := fun heq => hplain (by simp [heq])
    have hrest : ['.', '.'] ∉ rest := fun hmem => hplain (List.mem_cons_of_mem _ hmem)
    rw [List.foldlM_cons] at h
    obtain ⟨next, hstep, h⟩ := bind_eq_ok_iff.mp h
    rw [ih hrest h, step_eq_ok hname hstep]
    simp

theorem resolve_eq_ok {p : Path} (hplain : p.IsPlain) (h : d.resolve p = .ok place) : place = p.names := by
  have hroot : p.root.isEmpty = false := by simpa using hplain.1
  unfold resolve at h
  split at h
  · cases h
  · rw [hroot] at h
    simpa using foldlM_step_eq_ok hplain.2 h

theorem withFile_eq_ok {p : Path} (hplain : p.IsPlain) (h : d.withFile p = .ok d') :
    (∃ bytes, d.entry? p.names = some (.file bytes) ∧ d' = d) ∨
      d.entry? p.names = none ∧ d' = d.put p.names (.file []) := by
  obtain ⟨place, hresolve, hentry⟩ := bind_eq_ok_iff.mp h
  obtain rfl := resolve_eq_ok hplain hresolve
  split at hentry
  · exact .inl ⟨_, ‹_›, (pure_eq_ok_iff.mp hentry).symm⟩
  · cases hentry
  · exact .inr ⟨‹_›, (pure_eq_ok_iff.mp hentry).symm⟩

/-- Opening a file makes it if it is missing, and changes no file that is there. -/
theorem openToWrite_eq_ok {p : Path} (hplain : p.IsPlain) (h : d.openToWrite p = .ok d') :
    d'.home = d.home ∧ (∃ bytes, d'.bytesAt? p.names = some bytes) ∧
      ∀ place bytes, d.bytesAt? place = some bytes → d'.bytesAt? place = some bytes := by
  have hwith : d.withFile p = .ok d' := mapError_eq_ok_iff.mp (seq_eq_ok_iff.mp h).2
  rcases withFile_eq_ok hplain hwith with ⟨before, hfile, rfl⟩ | ⟨hnone, rfl⟩
  · refine ⟨rfl, ⟨before, ?_⟩, fun place bytes hbytes => hbytes⟩
    simp [bytesAt?, hfile]
  · have hhome : p.names.isPrefixOf d.home.names = false := not_home_of_entry (by simp [hnone])
    refine ⟨rfl, ⟨[], ?_⟩, ?_⟩
    · simp [bytesAt?, entry?_put_same hhome]
    · intro place bytes hbytes
      have hother : place ≠ p.names := by
        intro heq
        simp [bytesAt?, heq, hnone] at hbytes
      simpa [bytesAt?, entry?_put_other hother] using hbytes

end Disk
end Storage
end AccessGate
